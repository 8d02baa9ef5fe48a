import Mathlib.Data.List.Forall2
import WebCompat.Json.Record
import WebCompat.Proofs.Dictionary

/-!
# Decoded objects

An object is decoded as a dictionary just when each of its members can be
decoded.  The dictionary then has the names of the members, and under each name
what the last member of that name is decoded to.  An object whose names differ is
decoded as a record by its look-ups.
-/

namespace WebCompat
namespace Json
namespace Value

variable {α : Type}

/-- Whether an entry holds what a member is decoded to, under the same name. -/
def DecodesTo (decode : Value → Option α) (member : String × Value) (entry : String × α) : Prop :=
  member.1 = entry.1 ∧ decode member.2 = some entry.2

/-!
## Members and entries
-/

theorem exists_decodesTo_of_isSome {decode : Value → Option α} {members : List (String × Value)}
    (h : ∀ member ∈ members, (decode member.2).isSome) :
    ∃ entries, members.mapM (fun member => (decode member.2).map (member.1, ·)) = some entries ∧
      List.Forall₂ (DecodesTo decode) members entries := by
  induction members with
  | nil =>
      exact ⟨[], rfl, List.Forall₂.nil⟩
  | cons member rest ih =>
      rcases Option.isSome_iff_exists.mp (h member List.mem_cons_self) with ⟨value, hvalue⟩
      have hrest : ∀ later ∈ rest, (decode later.2).isSome := by
        intro later hlater
        exact h later (List.mem_cons_of_mem member hlater)
      rcases ih hrest with ⟨entries, hentries, hforall⟩
      refine ⟨(member.1, value) :: entries, ?_, List.Forall₂.cons ⟨rfl, hvalue⟩ hforall⟩
      rw [List.mapM_cons, hvalue, hentries]
      rfl

theorem isSome_of_mapM_eq_some {decode : Value → Option α} {members : List (String × Value)}
    {entries : List (String × α)}
    (h : members.mapM (fun member => (decode member.2).map (member.1, ·)) = some entries) :
    ∀ member ∈ members, (decode member.2).isSome := by
  induction members generalizing entries with
  | nil =>
      intro member hmember
      cases hmember
  | cons first rest ih =>
      rw [List.mapM_cons] at h
      rcases Option.bind_eq_some_iff.mp h with ⟨entry, hentry, hlater⟩
      rcases Option.bind_eq_some_iff.mp hlater with ⟨later, hrest, _⟩
      rcases Option.map_eq_some_iff.mp hentry with ⟨value, hvalue, _⟩
      intro member hmember
      cases hmember with
      | head =>
          rw [hvalue]
          rfl
      | tail _ hmember =>
          exact ih hrest member hmember

theorem lookup_eq_bind_lookup {decode : Value → Option α} {members : List (String × Value)}
    {entries : List (String × α)} (h : List.Forall₂ (DecodesTo decode) members entries)
    (name : String) :
    entries.lookup name = (members.lookup name).bind decode := by
  induction h with
  | nil =>
      rfl
  | @cons member entry _ _ hentry _ ih =>
      rcases hentry with ⟨hname, hvalue⟩
      rw [Dictionary.lookup_cons_eq_ite, Dictionary.lookup_cons_eq_ite, hname, ih]
      by_cases heq : name = entry.1
      · rw [if_pos heq, if_pos heq, Option.bind_some, hvalue]
      · rw [if_neg heq, if_neg heq]

/-!
## Dictionaries of members
-/

theorem exists_dictionary?_eq_some {decode : Value → Option α} {members : List (String × Value)}
    (h : ∀ member ∈ members, (decode member.2).isSome) :
    ∃ dictionary, dictionary? decode (object members) = some dictionary ∧
      ∀ name, dictionary.get? name = (members.reverse.lookup name).bind decode := by
  rcases exists_decodesTo_of_isSome h with ⟨entries, hentries, hforall⟩
  refine ⟨Dictionary.ofList entries, ?_, ?_⟩
  · rw [dictionary?, hentries]
    rfl
  · intro name
    rw [Dictionary.get?_ofList]
    exact lookup_eq_bind_lookup (List.rel_reverse hforall) name

theorem dictionary?_eq_none {decode : Value → Option α} {members : List (String × Value)}
    (h : ¬∀ member ∈ members, (decode member.2).isSome) :
    dictionary? decode (object members) = none := by
  rw [Option.eq_none_iff_forall_not_mem]
  intro dictionary hdictionary
  rcases Option.map_eq_some_iff.mp hdictionary with ⟨entries, hentries, _⟩
  exact h (isSome_of_mapM_eq_some hentries)

/-!
## Members that stand alone
-/

theorem lookup_of_filter_eq_singleton {members : List (String × Value)} {name : String}
    {value : Value} (h : members.filter (·.1 == name) = [(name, value)]) :
    members.lookup name = some value := by
  induction members with
  | nil =>
      cases h
  | cons first rest ih =>
      rw [List.filter_cons] at h
      rw [Dictionary.lookup_cons_eq_ite]
      by_cases hname : name = first.1
      · rw [if_pos (beq_iff_eq.mpr hname.symm)] at h
        rw [if_pos hname, (List.cons.inj h).left]
      · have hne : ¬(first.1 == name) = true := by
          intro hbeq
          exact hname (beq_iff_eq.mp hbeq).symm
        rw [if_neg hne] at h
        rw [if_neg hname, ih h]

theorem lookup_reverse_of_filter_eq_singleton {members : List (String × Value)} {name : String}
    {value : Value} (h : members.filter (·.1 == name) = [(name, value)]) :
    members.reverse.lookup name = some value := by
  apply lookup_of_filter_eq_singleton
  rw [List.filter_reverse, h]
  rfl

/-!
## Records and lists
-/

theorem length_filter_le_one {members : List (String × Value)}
    (h : (members.map Prod.fst).Nodup) (name : String) :
    (members.filter (·.1 == name)).length ≤ 1 := by
  rw [← List.countP_eq_length_filter]
  have hcount := List.nodup_iff_count_le_one.mp h name
  rwa [List.count, List.countP_map] at hcount

theorem record?_object {members : List (String × Value)} (h : (members.map Prod.fst).Nodup)
    (names : List String) :
    record? names (object members) = some fun name => members.lookup name := by
  rw [record?, if_pos]
  rw [List.all_eq_true]
  intro name _
  exact decide_eq_true (length_filter_le_one h name)

theorem list?_map {encode : α → Value} {decode : Value → Option α} {items : List α}
    (h : ∀ item ∈ items, decode (encode item) = some item) :
    list? decode (array (items.map encode)) = some items := by
  rw [list?]
  induction items with
  | nil =>
      rfl
  | cons item items ih =>
      have hitems := ih fun later hlater => h later (List.mem_cons_of_mem item hlater)
      rw [List.map_cons, List.mapM_cons, h item List.mem_cons_self, hitems]
      rfl

end Value
end Json
end WebCompat
