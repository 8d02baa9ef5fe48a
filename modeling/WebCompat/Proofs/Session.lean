import Mathlib.Data.Finset.Card
import WebCompat.Proofs.Scan.PlainOrder
import WebCompat.Session

/-!
# Results of sessions

A session that is cancelled scans the units that it fetched before, as if there
were no others.  Its result counts these units, holds the issues of those that
can be read, in their order, and counts the units with issues.
-/

namespace WebCompat

/-!
## Files of the issues
-/

namespace Scan

theorem file_of_mem_tree {base : KnowledgeBase} {file source : String} {root : Script.Tree}
    {issue : Issue} (h : issue ∈ tree base file source root) : issue.file = file := by
  rcases List.mem_filterMap.mp h with ⟨node, _, hissue⟩
  rcases Option.map_eq_some_iff.mp hissue with ⟨descriptor, _, rfl⟩
  rfl

theorem file_of_mem_plain {base : KnowledgeBase} {file source : String} {issue : Issue}
    (h : issue ∈ plain base file source) : issue.file = file := by
  rcases mem_plain_iff.mp h with ⟨index, text, _, hline⟩
  rcases mem_line_iff.mp hline with ⟨hit, _, hissue⟩
  rcases Option.map_eq_some_iff.mp hissue with ⟨descriptor, _, rfl⟩
  rfl

theorem file_of_mem_script {base : KnowledgeBase} {file source : String}
    {dialect : Script.Dialect} {issue : Issue} (h : issue ∈ script base file source dialect) :
    issue.file = file := by
  unfold script at h
  split at h
  · exact file_of_mem_tree h
  · exact file_of_mem_plain h

theorem file_of_mem_source {base : KnowledgeBase} {file text : String} {kind : SourceKind}
    {issue : Issue} (h : issue ∈ source base file text kind) : issue.file = file := by
  cases kind with
  | script dialect =>
      exact file_of_mem_script h
  | markup =>
      rcases List.mem_flatMap.mp h with ⟨found, _, hblock⟩
      rcases List.mem_map.mp hblock with ⟨inner, hinner, rfl⟩
      change inner.file = file
      exact file_of_mem_script hinner

end Scan

namespace Session

variable {files : FileSystem} {base : KnowledgeBase}

/-!
## Tallies
-/

def reading? (files : FileSystem) (unit : SourceUnit) : Option (SourceUnit × String) :=
  (unit.read files).toOption.map (unit, ·)

def readable (files : FileSystem) (units : List SourceUnit) : List (SourceUnit × String) :=
  units.filterMap (reading? files)

def issuesOf (base : KnowledgeBase) (reading : SourceUnit × String) : List Issue :=
  Scan.source base reading.1.name reading.2 reading.1.kind

def hasIssues (base : KnowledgeBase) (reading : SourceUnit × String) : Bool :=
  !(issuesOf base reading).isEmpty

/-- Whether a result is what units give that are scanned one after the other. -/
structure Tally (files : FileSystem) (base : KnowledgeBase) (units : List SourceUnit)
    (result : ScanResult) : Prop where
  filesScanned : result.filesScanned = units.length
  issues : result.issues = (readable files units).flatMap (issuesOf base)
  filesWithIssues : result.filesWithIssues = (readable files units).countP (hasIssues base)

theorem tally_empty : Tally files base [] .empty where
  filesScanned := rfl
  issues := rfl
  filesWithIssues := rfl

theorem Tally.scanUnit {units : List SourceUnit} {result : ScanResult}
    (h : Tally files base units result) (unit : SourceUnit) :
    Tally files base (units ++ [unit]) (scanUnit files base result unit) := by
  unfold Session.scanUnit
  cases hread : unit.read files with
  | error failure =>
      have hreadable : readable files (units ++ [unit]) = readable files units := by
        have hnone : reading? files unit = none := by
          rw [reading?, hread]
          rfl
        rw [readable, List.filterMap_append, List.filterMap_cons_none hnone]
        exact List.append_nil _
      constructor
      · rw [List.length_append, ← h.filesScanned]
        rfl
      · rw [hreadable, ← h.issues]
        rfl
      · rw [hreadable, ← h.filesWithIssues]
        rfl
  | ok text =>
      have hreadable : readable files (units ++ [unit]) =
          readable files units ++ [(unit, text)] := by
        have hsome : reading? files unit = some (unit, text) := by
          rw [reading?, hread]
          rfl
        rw [readable, List.filterMap_append, List.filterMap_cons_some hsome]
        rfl
      constructor
      · rw [List.length_append, ← h.filesScanned]
        rfl
      · rw [hreadable, List.flatMap_append, ← h.issues, List.flatMap_singleton]
        rfl
      · rw [hreadable, List.countP_append, ← h.filesWithIssues, List.countP_singleton]
        change result.filesWithIssues + (if (issuesOf base (unit, text)).isEmpty then 0 else 1) = _
        cases hempty : (issuesOf base (unit, text)).isEmpty <;> simp [hasIssues, hempty]

theorem Tally.foldl {done : List SourceUnit} {result : ScanResult}
    (h : Tally files base done result) (units : List SourceUnit) :
    Tally files base (done ++ units) (units.foldl (Session.scanUnit files base) result) := by
  induction units generalizing done result with
  | nil =>
      rw [List.append_nil]
      exact h
  | cons unit rest ih =>
      have hstep := ih (h.scanUnit unit)
      rw [List.append_assoc] at hstep
      exact hstep

/-!
## Units before the cancellation
-/

/--
A session scans the units up to the first one that it fetches when it has been
cancelled.
-/
theorem exists_runFrom_eq_foldl (files : FileSystem) (base : KnowledgeBase)
    (isCancelled : Nat → Bool) (result : ScanResult) (number : Nat) (units : List SourceUnit) :
    ∃ scanned rest, units = scanned ++ rest ∧
      (∀ index < scanned.length, isCancelled (number + index) = false) ∧
        (rest ≠ [] → isCancelled (number + scanned.length) = true) ∧
          runFrom files base isCancelled result number units =
            scanned.foldl (scanUnit files base) result := by
  -- The flag is read once for each unit, so the units count the readings of the flag.
  induction units generalizing result number with
  | nil =>
      refine ⟨[], [], rfl, ?_, ?_, rfl⟩
      · intro index hindex
        cases hindex
      · intro hne
        exact absurd rfl hne
  | cons unit later ih =>
      by_cases hcancelled : isCancelled number = true
      · refine ⟨[], unit :: later, rfl, ?_, fun _ => hcancelled, ?_⟩
        · intro index hindex
          cases hindex
        · rw [runFrom, if_pos hcancelled]
          rfl
      · rcases ih (scanUnit files base result unit) (number + 1) with
          ⟨scanned, rest, hunits, hclear, hset, hrun⟩
        refine ⟨unit :: scanned, rest, by rw [hunits, List.cons_append], ?_, ?_, ?_⟩
        · intro index hindex
          cases index with
          | zero =>
              exact Bool.eq_false_iff.mpr hcancelled
          | succ index =>
              have hlater := hclear index (Nat.lt_of_succ_lt_succ hindex)
              rw [Nat.add_right_comm] at hlater
              exact hlater
        · intro hne
          have hlater := hset hne
          rw [Nat.add_right_comm] at hlater
          exact hlater
        · rw [runFrom, if_neg hcancelled, hrun]
          rfl

theorem run_eq_foldl (files : FileSystem) (base : KnowledgeBase) (units : List SourceUnit) :
    run files base units = units.foldl (scanUnit files base) .empty := by
  rcases exists_runFrom_eq_foldl files base (fun _ => false) .empty 0 units with
    ⟨scanned, rest, hunits, _, hset, hrun⟩
  cases rest with
  | nil =>
      rw [hunits, List.append_nil] at hrun ⊢
      exact hrun
  | cons unit later =>
      cases hset (List.cons_ne_nil unit later)

theorem tally_run (files : FileSystem) (base : KnowledgeBase) (units : List SourceUnit) :
    Tally files base units (run files base units) := by
  rw [run_eq_foldl]
  exact tally_empty.foldl units

/-!
## Counters
-/

theorem length_readable_le (files : FileSystem) (units : List SourceUnit) :
    (readable files units).length ≤ units.length :=
  List.length_filterMap_le _ _

theorem fst_of_reading?_eq_some {unit : SourceUnit} {reading : SourceUnit × String}
    (h : reading? files unit = some reading) : reading.1 = unit := by
  rcases Option.map_eq_some_iff.mp h with ⟨text, _, rfl⟩
  rfl

theorem names_readable_nodup {units : List SourceUnit} (h : (units.map SourceUnit.name).Nodup) :
    ((readable files units).map fun reading => reading.1.name).Nodup := by
  apply List.pairwise_map.mpr
  refine (List.pairwise_map.mp h).filterMap (reading? files) ?_
  intro first second hne a ha b hb
  rw [fst_of_reading?_eq_some ha, fst_of_reading?_eq_some hb]
  exact hne

theorem mem_files_iff {readings : List (SourceUnit × String)} {file : String} :
    file ∈ (readings.flatMap (issuesOf base)).map Issue.file ↔
      file ∈ (readings.filter (hasIssues base)).map fun reading => reading.1.name := by
  simp only [List.mem_map, List.mem_flatMap, List.mem_filter]
  constructor
  · rintro ⟨issue, ⟨reading, hreading, hissue⟩, rfl⟩
    refine ⟨reading, ⟨hreading, ?_⟩, (Scan.file_of_mem_source hissue).symm⟩
    cases hissues : issuesOf base reading with
    | nil =>
        rw [hissues] at hissue
        cases hissue
    | cons first rest =>
        rw [hasIssues, hissues]
        rfl
  · rintro ⟨reading, ⟨hreading, hhas⟩, rfl⟩
    cases hissues : issuesOf base reading with
    | nil =>
        rw [hasIssues, hissues] at hhas
        cases hhas
    | cons first rest =>
        have hfirst : first ∈ issuesOf base reading := by
          rw [hissues]
          exact List.mem_cons_self
        exact ⟨first, ⟨reading, hreading, hfirst⟩, Scan.file_of_mem_source hfirst⟩

theorem Tally.filesWithIssues_le {units : List SourceUnit} {result : ScanResult}
    (h : Tally files base units result) : result.filesWithIssues ≤ result.filesScanned := by
  rw [h.filesWithIssues, h.filesScanned]
  exact Nat.le_trans List.countP_le_length (length_readable_le files units)

theorem Tally.filesWithIssues_eq_card {units : List SourceUnit} {result : ScanResult}
    (h : Tally files base units result) (hnames : (units.map SourceUnit.name).Nodup) :
    result.filesWithIssues = (result.issues.map Issue.file).toFinset.card := by
  have hfiles : (result.issues.map Issue.file).toFinset =
      (((readable files units).filter (hasIssues base)).map
        fun reading => reading.1.name).toFinset := by
    rw [h.issues]
    ext file
    rw [List.mem_toFinset, List.mem_toFinset, mem_files_iff]
  have hnodup : (((readable files units).filter (hasIssues base)).map
      fun reading => reading.1.name).Nodup :=
    (names_readable_nodup hnames).sublist (List.filter_sublist.map _)
  rw [hfiles, List.toFinset_card_of_nodup hnodup, List.length_map, h.filesWithIssues,
    List.countP_eq_length_filter]

/--
A session gives the result of the units that it fetched before it was cancelled.
It counts them all, and holds the issues of those that can be read, in their
order.
-/
theorem runUntil_is_run_of_units_before_cancellation (files : FileSystem) (base : KnowledgeBase)
    (isCancelled : Nat → Bool)
    (hmonotone : ∀ first later, first ≤ later → isCancelled first = true →
      isCancelled later = true)
    (units : List SourceUnit) :
    ∃ scanned rest, units = scanned ++ rest ∧
      (∀ number < units.length, isCancelled number = false ↔ number < scanned.length) ∧
      runUntil files base isCancelled units = run files base scanned ∧
      (run files base scanned).filesScanned = scanned.length ∧
      (run files base scanned).issues = (readable files scanned).flatMap (issuesOf base) ∧
      (run files base scanned).filesWithIssues =
        (readable files scanned).countP (hasIssues base) ∧
      (run files base scanned).filesWithIssues ≤ (run files base scanned).filesScanned ∧
      ((scanned.map SourceUnit.name).Nodup →
        (run files base scanned).filesWithIssues =
          ((run files base scanned).issues.map Issue.file).toFinset.card) := by
  rcases exists_runFrom_eq_foldl files base isCancelled .empty 0 units with
    ⟨scanned, rest, hunits, hclear, hset, hrun⟩
  have htally := tally_run files base scanned
  refine ⟨scanned, rest, hunits, ?_, ?_, htally.filesScanned, htally.issues,
    htally.filesWithIssues, htally.filesWithIssues_le, htally.filesWithIssues_eq_card⟩
  · intro number hnumber
    constructor
    · -- A flag that is clear later on was clear at the unit where the session ended.
      intro hfalse
      apply Nat.lt_of_not_le
      intro hle
      have hne : rest ≠ [] := by
        rintro rfl
        rw [hunits, List.append_nil] at hnumber
        omega
      have hflag := hset hne
      rw [Nat.zero_add] at hflag
      have hcancelled := hmonotone scanned.length number hle hflag
      rw [hfalse] at hcancelled
      cases hcancelled
    · intro hlt
      have hfalse := hclear number hlt
      rwa [Nat.zero_add] at hfalse
  · rw [runUntil, hrun, run_eq_foldl]

def mixedBase : KnowledgeBase :=
  .ofDescriptors [Knowledge.Curated.deprecated "" "" "" "f"]

def mixedUnits : List SourceUnit := [
  .ofText "a.js" ")f" (.script .javascript),
  { name := "gone.js", kind := .script .javascript, content := .file "gone.js" },
  .ofText "b.js" ")f" (.script .javascript)]

theorem mixedUnits_cancelled_before_third :
    (runUntil ⟨.directory [], []⟩ mixedBase (fun number => 2 ≤ number)
        mixedUnits).filesWithIssues = 1 ∧
      ∃ scanned rest, mixedUnits = scanned ++ rest ∧ scanned.length = 2 ∧
        runUntil ⟨.directory [], []⟩ mixedBase (fun number => 2 ≤ number) mixedUnits =
          run ⟨.directory [], []⟩ mixedBase scanned ∧
        (run ⟨.directory [], []⟩ mixedBase scanned).filesScanned = 2 := by
  refine ⟨by decide +kernel, ?_⟩
  have hmonotone : ∀ first later, first ≤ later → decide (2 ≤ first) = true →
      decide (2 ≤ later) = true := by
    intro first later hle hfirst
    rw [decide_eq_true_eq] at hfirst ⊢
    omega
  rcases runUntil_is_run_of_units_before_cancellation ⟨.directory [], []⟩ mixedBase
    (fun number => 2 ≤ number) hmonotone mixedUnits with
    ⟨scanned, rest, hunits, hfetched, hrun, hscanned, _⟩
  have hsecond : 1 < scanned.length := (hfetched 1 (by decide)).mp (by decide)
  have hthird : ¬2 < scanned.length := fun hlt => by
    cases (hfetched 2 (by decide)).mpr hlt
  have hlength : scanned.length = 2 := by
    omega
  exact ⟨scanned, rest, hunits, hlength, hrun, hscanned.trans hlength⟩

end Session
end WebCompat
