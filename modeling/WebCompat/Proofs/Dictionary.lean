import Mathlib.Data.List.Sort
import WebCompat.Dictionary

/-!
# Look-ups in dictionaries

A dictionary has a value for exactly the keys that it lists, and is determined
by these values.  Entries that are added one after the other are looked up from
the last one on.
-/

namespace WebCompat
namespace Dictionary

variable {α : Type}

theorem mem_entries_of_get?_eq_some {dictionary : Dictionary α} {key : String} {value : α}
    (h : dictionary.get? key = some value) : (key, value) ∈ dictionary.entries := by
  rcases List.lookup_eq_some_iff.mp h with ⟨front, back, hentries, _⟩
  rw [hentries]
  simp

theorem get?_eq_some_of_mem_entries {dictionary : Dictionary α} {key : String} {value : α}
    (h : (key, value) ∈ dictionary.entries) : dictionary.get? key = some value := by
  rcases List.mem_iff_append.mp h with ⟨front, back, hentries⟩
  have hascending := dictionary.ascending
  rw [hentries, List.pairwise_append] at hascending
  refine List.lookup_eq_some_iff.mpr ⟨front, back, hentries, ?_⟩
  intro entry hentry
  have hlt : entry.1 < key := hascending.right.right entry hentry _ List.mem_cons_self
  rw [bne_iff_ne]
  rintro rfl
  exact String.lt_irrefl _ hlt

theorem mem_entries_iff {dictionary : Dictionary α} {entry : String × α} :
    entry ∈ dictionary.entries ↔ dictionary.get? entry.1 = some entry.2 :=
  ⟨get?_eq_some_of_mem_entries, mem_entries_of_get?_eq_some⟩

theorem ext_get? {first second : Dictionary α}
    (h : ∀ key, first.get? key = second.get? key) : first = second := by
  have hirrefl : Std.Irrefl fun a b : String × α => a.1 < b.1 :=
    ⟨fun a => String.lt_irrefl a.1⟩
  have hantisymm : Std.Antisymm fun a b : String × α => a.1 < b.1 :=
    ⟨fun a b hab hba => absurd (String.lt_trans hab hba) (String.lt_irrefl a.1)⟩
  have hentries : first.entries = second.entries := by
    apply first.ascending.eq_of_mem_iff second.ascending
    intro entry
    rw [mem_entries_iff, mem_entries_iff, h]
  cases first
  cases second
  cases hentries
  rfl

theorem exists_get?_of_mem_keys {dictionary : Dictionary α} {key : String}
    (h : key ∈ dictionary.keys) : ∃ value, dictionary.get? key = some value := by
  rcases List.mem_map.mp h with ⟨entry, hentry, rfl⟩
  apply Option.isSome_iff_exists.mp
  exact List.lookup_isSome_iff.mpr ⟨entry, hentry, beq_self_eq_true entry.1⟩

theorem keys_ascending (dictionary : Dictionary α) :
    dictionary.keys.Pairwise (· < ·) :=
  List.pairwise_map.mpr dictionary.ascending

theorem get?_insertMany (dictionary : Dictionary α) (entries : List (String × α))
    (key : String) :
    (dictionary.insertMany entries).get? key =
      (entries.reverse.lookup key).or (dictionary.get? key) := by
  induction entries generalizing dictionary with
  | nil =>
      rfl
  | cons entry rest ih =>
      have hstep : dictionary.insertMany (entry :: rest) =
          (dictionary.insert entry.1 entry.2).insertMany rest := rfl
      rw [hstep, ih, get?_insert, List.reverse_cons, List.lookup_append, Option.or_assoc,
        lookup_cons_eq_ite]
      by_cases hkey : key = entry.1
      · rw [if_pos hkey, if_pos hkey]
        rfl
      · rw [if_neg hkey, if_neg hkey]
        rfl

theorem lookup_filter_ne (entries : List (String × α)) (key sought : String) :
    (entries.filter fun entry => entry.1 != key).lookup sought =
      if sought = key then none else entries.lookup sought := by
  induction entries with
  | nil =>
      split <;> rfl
  | cons entry rest ih =>
      by_cases hentry : entry.1 = key
      · have hdropped : ¬(entry.1 != key) = true := by
          simp [hentry]
        rw [List.filter_cons, if_neg hdropped, ih, lookup_cons_eq_ite, hentry]
        by_cases hsought : sought = key
        · rw [if_pos hsought, if_pos hsought]
        · rw [if_neg hsought, if_neg hsought, if_neg hsought]
      · have hkept : (entry.1 != key) = true := by
          simp [hentry]
        rw [List.filter_cons, if_pos hkept, lookup_cons_eq_ite, lookup_cons_eq_ite, ih]
        by_cases hsought : sought = entry.1
        · have hne : ¬sought = key := fun heq => hentry (hsought.symm.trans heq)
          rw [if_pos hsought, if_neg hne, if_pos hsought]
        · rw [if_neg hsought, if_neg hsought]

@[simp]
theorem get?_erase (dictionary : Dictionary α) (key sought : String) :
    (dictionary.erase key).get? sought =
      if sought = key then none else dictionary.get? sought :=
  lookup_filter_ne dictionary.entries key sought

theorem get?_ofList (entries : List (String × α)) (key : String) :
    (ofList entries).get? key = entries.reverse.lookup key := by
  rw [ofList, get?_insertMany, get?_empty, Option.or_none]

end Dictionary
end WebCompat
