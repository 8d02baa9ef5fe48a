import WebCompat.Issue.Diagnostic
import WebCompat.Knowledge.Curated
import WebCompat.Proofs.Dictionary

/-!
# Boards after many scans

A scan changes what the board shows for its own document and nothing else.  So
after any scans, in any order, the board shows for each document what the last
scan of that document found, and has no entry where that was nothing.
-/

namespace WebCompat
namespace Board

def ofScans (scans : List (String × List Issue)) : Board :=
  scans.foldl (fun board scan => board.update scan.1 scan.2) ∅

/-- Whether the last one of some scans of a document found the given issues. -/
def IsLastScan (scans : List (String × List Issue)) (document : String)
    (issues : List Issue) : Prop :=
  ∃ earlier later, scans = earlier ++ (document, issues) :: later ∧
    document ∉ later.map Prod.fst

def shown? (issues : List Issue) : Option (List Diagnostic) :=
  if issues = [] then none else some (issues.map Diagnostic.ofIssue)

theorem ne_nil_of_shown?_eq_some {issues : List Issue} {diagnostics : List Diagnostic}
    (h : shown? issues = some diagnostics) : diagnostics ≠ [] := by
  unfold shown? at h
  split at h
  · cases h
  · rename_i hne
    cases h
    simpa using hne

theorem get?_update (board : Board) (document : String) (issues : List Issue)
    (sought : String) :
    (board.update document issues).get? sought =
      if sought = document then shown? issues else board.get? sought := by
  unfold update shown?
  cases issues with
  | nil =>
      exact Dictionary.get?_erase board document sought
  | cons first rest =>
      exact Dictionary.get?_insert board document _ sought

/-!
## Last scans
-/

theorem lookup_reverse_eq_some_iff {scans : List (String × List Issue)} {document : String}
    {issues : List Issue} :
    scans.reverse.lookup document = some issues ↔ IsLastScan scans document issues := by
  rw [List.lookup_eq_some_iff]
  constructor
  · rintro ⟨behind, front, hscans, hbehind⟩
    refine ⟨front.reverse, behind.reverse, ?_, ?_⟩
    · rw [← List.reverse_reverse scans, hscans]
      simp
    · intro hmem
      rcases List.mem_map.mp hmem with ⟨scan, hscan, hdocument⟩
      exact bne_iff_ne.mp (hbehind scan (List.mem_reverse.mp hscan)) hdocument.symm
  · rintro ⟨earlier, later, rfl, hlater⟩
    refine ⟨later.reverse, earlier.reverse, by simp, ?_⟩
    intro scan hscan
    rw [bne_iff_ne]
    rintro rfl
    exact hlater (List.mem_map_of_mem (List.mem_reverse.mp hscan))

theorem get?_foldl_update (board : Board) (scans : List (String × List Issue))
    (document : String) :
    (scans.foldl (fun board scan => board.update scan.1 scan.2) board).get? document =
      (scans.reverse.lookup document).elim (board.get? document) shown? := by
  induction scans generalizing board with
  | nil =>
      rfl
  | cons scan rest ih =>
      rw [List.foldl_cons, ih, get?_update, List.reverse_cons, List.lookup_append,
        Dictionary.lookup_cons_eq_ite]
      cases rest.reverse.lookup document with
      | some issues =>
          rfl
      | none =>
          by_cases hdocument : document = scan.1
          · simp [hdocument]
          · simp [hdocument]

theorem get?_ofScans (scans : List (String × List Issue)) (document : String) :
    (ofScans scans).get? document = (scans.reverse.lookup document).bind shown? := by
  rw [ofScans, get?_foldl_update]
  cases scans.reverse.lookup document with
  | some issues =>
      rfl
  | none =>
      exact Dictionary.get?_empty document

theorem get?_ofScans_of_isLastScan {scans : List (String × List Issue)} {document : String}
    {issues : List Issue} (h : IsLastScan scans document issues) :
    (ofScans scans).get? document = shown? issues := by
  rw [get?_ofScans, lookup_reverse_eq_some_iff.mpr h]
  rfl

theorem lookup_reverse_eq_none {scans : List (String × List Issue)} {document : String}
    (h : document ∉ scans.map Prod.fst) : scans.reverse.lookup document = none := by
  rw [Option.eq_none_iff_forall_not_mem]
  intro issues hissues
  rcases lookup_reverse_eq_some_iff.mp hissues with ⟨earlier, later, rfl, _⟩
  simp at h

theorem ofScans_eq_of_same_last {scans others : List (String × List Issue)}
    (h : ∀ document issues,
      IsLastScan others document issues ↔ IsLastScan scans document issues) :
    ofScans others = ofScans scans := by
  apply Dictionary.ext_get?
  intro document
  rw [get?_ofScans, get?_ofScans]
  congr 1
  ext issues
  exact lookup_reverse_eq_some_iff.trans ((h document issues).trans
    lookup_reverse_eq_some_iff.symm)

theorem get?_ofScans_ne_nil {scans : List (String × List Issue)} {document : String}
    {diagnostics : List Diagnostic} (h : (ofScans scans).get? document = some diagnostics) :
    diagnostics ≠ [] := by
  rw [get?_ofScans] at h
  rcases Option.bind_eq_some_iff.mp h with ⟨issues, _, hshown⟩
  exact ne_nil_of_shown?_eq_some hshown

/--
After any scans, the board shows for each document the diagnostics of the issues
that its last scan found, in their order, and has no entry for a document whose
last scan found nothing or that was never scanned.  So only the last scans count,
and a further scan changes the entry of its own document alone.
-/
theorem ofScans_shows_last_scans (scans : List (String × List Issue)) :
    (∀ document issues, IsLastScan scans document issues →
      (ofScans scans).get? document =
        if issues = [] then none else some (issues.map Diagnostic.ofIssue)) ∧
    (∀ document, document ∉ scans.map Prod.fst → (ofScans scans).get? document = none) ∧
    (∀ entry ∈ (ofScans scans).entries, entry.2 ≠ []) ∧
    (∀ others, (∀ document issues,
        IsLastScan others document issues ↔ IsLastScan scans document issues) →
      ofScans others = ofScans scans) ∧
    ∀ document issues other, other ≠ document →
      (ofScans (scans ++ [(document, issues)])).get? other = (ofScans scans).get? other := by
  refine ⟨?_, ?_, ?_, ?_, ?_⟩
  · intro document issues hlast
    exact get?_ofScans_of_isLastScan hlast
  · intro document hnever
    rw [get?_ofScans, lookup_reverse_eq_none hnever]
    rfl
  · intro entry hentry
    exact get?_ofScans_ne_nil (Dictionary.mem_entries_iff.mp hentry)
  · intro others hsame
    exact ofScans_eq_of_same_last hsame
  · intro document issues other hother
    rw [ofScans, List.foldl_append]
    exact (get?_update _ document issues other).trans (if_neg hother)

def sampleIssue (line : Nat) : Issue :=
  .ofDescriptor "a.js" line 4 (Knowledge.Curated.deprecated "" "Use g" "" "f") "f()"

def sampleScans : List (String × List Issue) := [
  ("a.js", [sampleIssue 1, sampleIssue 2]),
  ("c.js", [sampleIssue 3]),
  ("b.js", [sampleIssue 1]),
  ("a.js", [sampleIssue 5]),
  ("c.js", [])]

theorem sampleScans_shown :
    IsLastScan sampleScans "a.js" [sampleIssue 5] ∧
      (ofScans sampleScans).get? "a.js" = some [Diagnostic.ofIssue (sampleIssue 5)] ∧
      IsLastScan sampleScans "c.js" [] ∧ (ofScans sampleScans).get? "c.js" = none ∧
      (ofScans (sampleScans ++ [("c.js", [sampleIssue 9])])).get? "b.js" =
        (ofScans sampleScans).get? "b.js" := by
  have hshown := ofScans_shows_last_scans sampleScans
  have hreplaced : IsLastScan sampleScans "a.js" [sampleIssue 5] :=
    ⟨sampleScans.take 3, [("c.js", [])], rfl, by decide⟩
  have hcleared : IsLastScan sampleScans "c.js" [] :=
    ⟨sampleScans.take 4, [], rfl, by decide⟩
  refine ⟨hreplaced, ?_, hcleared, ?_, ?_⟩
  · exact hshown.left "a.js" [sampleIssue 5] hreplaced
  · exact hshown.left "c.js" [] hcleared
  · exact hshown.right.right.right.right "c.js" [sampleIssue 9] "b.js" (by decide)

end Board
end WebCompat
