import Mathlib.Data.List.Sort
import Mathlib.Tactic.Choose
import WebCompat.Knowledge.Hit
import WebCompat.Proofs.Text.Occurrence

/-!
# Hits with and without a preselection

A preselection lists the places of the APIs that occur in a line.  The other
APIs have no hits there, so that nothing is lost when they are left out, and the
order of the hits stays the same.
-/

namespace WebCompat

theorem zipIdx_ascending {α : Type} (list : List α) (first : Nat) :
    (list.zipIdx first).Pairwise fun a b => a.2 < b.2 := by
  apply List.pairwise_map.mp
  rw [List.zipIdx_map_snd]
  exact List.pairwise_lt_range'

namespace Matchers

/-- Whether places are those of the APIs that occur in a line, from the first to the last. -/
structure Preselects (apis : List String) (line : List Char) (places : List Nat) : Prop where
  ascending : places.Pairwise (· < ·)
  mem_iff : ∀ place, place ∈ places ↔
    ∃ api, apis[place]? = some api ∧ ∃ start, Text.IsOccurrence api.toList line start

/-!
# The built-in preselection
-/

theorem mem_occurring_iff {apis : List String} {line : List Char} {place : Nat} :
    place ∈ occurring apis line ↔ ∃ api, apis[place]? = some api ∧ Hit.ofApi line api ≠ [] := by
  simp only [occurring, List.mem_map, List.mem_filter, Prod.exists, List.mem_zipIdx_iff_getElem?,
    Bool.not_eq_true', List.isEmpty_eq_false_iff]
  constructor
  · intro h
    rcases h with ⟨api, index, ⟨hapi, hhits⟩, hindex⟩
    rw [hindex] at hapi
    exact ⟨api, hapi, hhits⟩
  · intro h
    rcases h with ⟨api, hapi, hhits⟩
    exact ⟨api, place, ⟨hapi, hhits⟩, rfl⟩

theorem occurring_ascending (apis : List String) (line : List Char) :
    (occurring apis line).Pairwise (· < ·) := by
  apply List.pairwise_map.mpr
  exact (zipIdx_ascending apis 0).filter _

theorem filterMap_occurring (apis : List String) (line : List Char) :
    (occurring apis line).filterMap (apis[·]?) =
      apis.filter fun api => !(Hit.ofApi line api).isEmpty := by
  have hlisted : ∀ entry ∈ apis.zipIdx.filter fun entry => !(Hit.ofApi line entry.1).isEmpty,
      apis[entry.2]? = some entry.1 := by
    intro entry hentry
    exact List.mem_zipIdx_iff_getElem?.mp (List.mem_filter.mp hentry).left
  calc
    (occurring apis line).filterMap (apis[·]?)
      = (apis.zipIdx.filter fun entry => !(Hit.ofApi line entry.1).isEmpty).filterMap
          fun entry => apis[entry.2]? := by
        rw [occurring, List.filterMap_map]
        rfl
    _ = (apis.zipIdx.filter fun entry => !(Hit.ofApi line entry.1).isEmpty).filterMap
          fun entry => some entry.1 :=
        List.filterMap_congr hlisted
    _ = (apis.zipIdx.filter fun entry => !(Hit.ofApi line entry.1).isEmpty).map Prod.fst :=
        congrFun List.filterMap_eq_map _
    _ = (apis.zipIdx.map Prod.fst).filter fun api => !(Hit.ofApi line api).isEmpty := by
        rw [List.filter_map]
        rfl
    _ = apis.filter fun api => !(Hit.ofApi line api).isEmpty := by
        rw [List.zipIdx_map_fst]

theorem flatMap_filter_hits (apis : List String) (line : List Char) :
    (apis.filter fun api => !(Hit.ofApi line api).isEmpty).flatMap (Hit.ofApi line) =
      apis.flatMap (Hit.ofApi line) := by
  induction apis with
  | nil =>
      rfl
  | cons api rest ih =>
      cases hhits : Hit.ofApi line api with
      | nil =>
          simp [hhits, ih]
      | cons hit others =>
          simp [hhits, ih]

theorem hits_ofApis (apis : List String) (line : List Char) :
    (ofApis apis).hits line = apis.flatMap (Hit.ofApi line) := by
  show ((occurring apis line).filterMap (apis[·]?)).flatMap (Hit.ofApi line) = _
  rw [filterMap_occurring, flatMap_filter_hits]

/-!
# Every preselection
-/

theorem isGreedy_nil_iff {word line : List Char} {places : List Nat}
    (h : Text.IsGreedy word line 0 places) :
    places ≠ [] ↔ ∃ start, Text.IsOccurrence word line start := by
  cases h with
  | done hnone =>
      simp only [ne_eq, not_true_eq_false, false_iff, not_exists]
      intro start
      exact hnone start (Nat.zero_le start)
  | next _ hoccurs _ _ =>
      simp only [ne_eq, reduceCtorEq, not_false_eq_true, true_iff]
      exact ⟨_, hoccurs⟩

theorem ofApi_ne_nil_iff {api : String} (hapi : api ≠ "") (line : List Char) :
    Hit.ofApi line api ≠ [] ↔ ∃ start, Text.IsOccurrence api.toList line start := by
  have hword : api.toList ≠ [] := by
    simpa using hapi
  rcases Text.exists_isGreedy_occurrences hword line with ⟨places, hgreedy, hoccurrences⟩
  rw [← isGreedy_nil_iff hgreedy, Hit.ofApi, hoccurrences]
  simp

variable {apis : List String} {line : List Char}

theorem occurring_preselects (hapis : ∀ api ∈ apis, api ≠ "") (line : List Char) :
    Preselects apis line (occurring apis line) := by
  constructor
  · exact occurring_ascending apis line
  · intro place
    rw [mem_occurring_iff]
    apply exists_congr
    intro api
    apply and_congr_right
    intro hplace
    exact ofApi_ne_nil_iff (hapis api (List.mem_of_getElem? hplace)) line

theorem Preselects.unique {places others : List Nat} (h : Preselects apis line places)
    (hothers : Preselects apis line others) : places = others := by
  apply h.ascending.eq_of_mem_iff hothers.ascending
  intro place
  rw [h.mem_iff, hothers.mem_iff]

theorem hits_eq_flatMap {matchers : Matchers} (hapis : ∀ api ∈ matchers.apis, api ≠ "")
    (htold : ∀ told, matchers.preselection = some told →
      Preselects matchers.apis line (told line)) :
    matchers.hits line = matchers.apis.flatMap (Hit.ofApi line) := by
  unfold hits
  cases hpreselection : matchers.preselection with
  | none =>
      rfl
  | some told =>
      have hplaces : told line = occurring matchers.apis line :=
        (htold told hpreselection).unique (occurring_preselects hapis line)
      show ((told line).filterMap (matchers.apis[·]?)).flatMap (Hit.ofApi line) = _
      rw [hplaces]
      exact hits_ofApis matchers.apis line

/--
The hits in a line are the greedy occurrences of one API after the other, as
literals between word boundaries.  A preselection of the APIs that occur in the
line changes nothing.
-/
theorem hits_are_greedy_occurrences (matchers : Matchers)
    (hapis : ∀ api ∈ matchers.apis, api ≠ "") (line : List Char)
    (htold : ∀ told, matchers.preselection = some told →
      Preselects matchers.apis line (told line)) :
    (∃ places : String → List Nat,
      (∀ api ∈ matchers.apis, ∀ found,
        Text.IsGreedy api.toList line 0 found ↔ found = places api) ∧
      matchers.hits line = matchers.apis.flatMap fun api =>
        (places api).map fun place => ⟨Text.utf8Length (line.take place), api⟩) ∧
    matchers.hits line = hits { matchers with preselection := none } line := by
  have hhits := hits_eq_flatMap hapis htold
  constructor
  · have hgreedy : ∀ api ∈ matchers.apis, ∃ places, Text.IsGreedy api.toList line 0 places ∧
        Text.occurrences api.toList line =
          places.map fun place => Text.utf8Length (line.take place) := by
      intro api hapi
      exact Text.exists_isGreedy_occurrences (by simpa using hapis api hapi) line
    choose! places hplaces using hgreedy
    exists places
    constructor
    · intro api hapi found
      constructor
      · intro hfound
        exact (hplaces api hapi).left.unique hfound
      · intro hfound
        rw [hfound]
        exact (hplaces api hapi).left
    · rw [hhits]
      apply List.flatMap_congr
      intro api hapi
      rw [Hit.ofApi, (hplaces api hapi).right, List.map_map]
      rfl
  · exact hhits

def awkwardApis : List String :=
  ["$x", "a.a", "né"]

def awkwardLine : List Char :=
  "né.né a.a.a$x".toList

theorem awkwardLine_hits :
    (ofApis awkwardApis).hits awkwardLine = [⟨13, "$x"⟩, ⟨8, "a.a"⟩, ⟨0, "né"⟩, ⟨4, "né"⟩] ∧
      (∃ places : String → List Nat,
        (∀ api ∈ awkwardApis, ∀ found,
          Text.IsGreedy api.toList awkwardLine 0 found ↔ found = places api) ∧
        (ofApis awkwardApis).hits awkwardLine = awkwardApis.flatMap fun api =>
          (places api).map fun place => ⟨Text.utf8Length (awkwardLine.take place), api⟩) ∧
      (ofApis awkwardApis).hits awkwardLine = hits ⟨awkwardApis, none⟩ awkwardLine := by
  have hapis : ∀ api ∈ awkwardApis, api ≠ "" := by
    decide
  refine ⟨by decide +kernel, ?_⟩
  apply hits_are_greedy_occurrences (ofApis awkwardApis) hapis awkwardLine
  intro told htold
  cases htold
  exact occurring_preselects hapis awkwardLine

end Matchers

namespace KnowledgeBase

theorem hits_eq_flatMap (base : KnowledgeBase) (line : List Char) :
    base.hits line = base.apis.flatMap (Hit.ofApi line) :=
  Matchers.hits_ofApis base.apis line

end KnowledgeBase
end WebCompat
