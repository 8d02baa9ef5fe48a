import Mathlib.Data.List.Destutter
import WebCompat.Proofs.Guidance.Advising
import WebCompat.Proofs.Report.Document
import WebCompat.Proofs.Session

/-!
# The report for readers

The report shows the issues in runs of one file, each below a heading with the
name of the file.  The files of the headings are those of the issues without
repetitions.  After a session over units of different names there is one heading
for each unit with issues.
-/

namespace WebCompat
namespace Report

/-!
## Runs of issues
-/

structure Run where
  file : String
  issues : List Issue
  issues_ne_nil : issues ≠ []
  file_of_mem : ∀ issue ∈ issues, issue.file = file

/-- Whether runs make up a list of issues and none of them could be longer. -/
structure AreRuns (issues : List Issue) (runs : List Run) : Prop where
  flatMap_issues : runs.flatMap Run.issues = issues
  maximal : runs.IsChain fun first second => first.file ≠ second.file

theorem Run.exists_cons (run : Run) :
    ∃ first more, run.issues = first :: more ∧ first.file = run.file ∧
      ∀ issue ∈ more, issue.file = run.file := by
  cases hissues : run.issues with
  | nil =>
      exact absurd hissues run.issues_ne_nil
  | cons first more =>
      have hfile := run.file_of_mem
      rw [hissues, List.forall_mem_cons] at hfile
      exact ⟨first, more, rfl, hfile.left, hfile.right⟩

theorem AreRuns.exists_cons {issues : List Issue} {runs : List Run} (h : AreRuns issues runs)
    (issue : Issue) : ∃ runs, AreRuns (issue :: issues) runs := by
  obtain ⟨rfl, hmaximal⟩ := h
  let alone : Run := ⟨issue.file, [issue], List.cons_ne_nil _ _, by simp⟩
  cases runs with
  | nil =>
      exact ⟨[alone], rfl, List.isChain_singleton _⟩
  | cons run runs =>
      by_cases hfile : issue.file = run.file
      · let longer : Run :=
          ⟨run.file, issue :: run.issues, List.cons_ne_nil _ _,
            List.forall_mem_cons.mpr ⟨hfile, run.file_of_mem⟩⟩
        refine ⟨longer :: runs, rfl, ?_⟩
        rw [List.isChain_cons] at hmaximal ⊢
        exact hmaximal
      · refine ⟨alone :: run :: runs, rfl, ?_⟩
        exact List.isChain_cons_cons.mpr ⟨hfile, hmaximal⟩

theorem exists_areRuns (issues : List Issue) : ∃ runs, AreRuns issues runs := by
  induction issues with
  | nil =>
      exact ⟨[], rfl, List.isChain_nil⟩
  | cons issue issues ih =>
      obtain ⟨runs, hruns⟩ := ih
      exact hruns.exists_cons issue

/-!
## Headings and entries
-/

def Run.text (withAdvice : Bool) (run : Run) : String :=
  heading run.file ++ String.join (run.issues.map (entry withAdvice))

theorem entries_append_of_file {file : String} {issues : List Issue}
    (h : ∀ issue ∈ issues, issue.file = file) (withAdvice : Bool) (rest : List Issue) :
    entries withAdvice (some file) (issues ++ rest) =
      String.join (issues.map (entry withAdvice)) ++ entries withAdvice (some file) rest := by
  induction issues with
  | nil =>
      exact String.empty_append.symm
  | cons issue issues ih =>
      rw [List.forall_mem_cons] at h
      rw [List.cons_append, entries, h.left, if_pos rfl, String.empty_append, ih h.right,
        List.map_cons, String.join_cons, String.append_assoc]

theorem entries_run_append {current : Option String} {run : Run} (h : current ≠ some run.file)
    (withAdvice : Bool) (rest : List Issue) :
    entries withAdvice current (run.issues ++ rest) =
      run.text withAdvice ++ entries withAdvice (some run.file) rest := by
  obtain ⟨first, more, hissues, hfirst, hmore⟩ := run.exists_cons
  rw [Run.text, hissues, List.cons_append, entries, hfirst, if_neg h,
    entries_append_of_file hmore, List.map_cons, String.join_cons]
  simp only [String.append_assoc]

theorem entries_flatMap_runs (withAdvice : Bool) {runs : List Run} {current : Option String}
    (hcurrent : ∀ run ∈ runs.head?, current ≠ some run.file)
    (hmaximal : runs.IsChain fun first second => first.file ≠ second.file) :
    entries withAdvice current (runs.flatMap Run.issues) =
      String.join (runs.map (Run.text withAdvice)) := by
  induction runs generalizing current with
  | nil =>
      rfl
  | cons run runs ih =>
      rw [List.isChain_cons] at hmaximal
      have hnext : ∀ next ∈ runs.head?, some run.file ≠ some next.file := by
        intro next hmem hfile
        exact hmaximal.left next hmem (Option.some.inj hfile)
      rw [List.flatMap_cons, entries_run_append (hcurrent run rfl), ih hnext hmaximal.right,
        List.map_cons, String.join_cons]

theorem AreRuns.entries_eq {issues : List Issue} {runs : List Run} (h : AreRuns issues runs)
    (withAdvice : Bool) :
    entries withAdvice none issues = String.join (runs.map (Run.text withAdvice)) := by
  rw [← h.flatMap_issues]
  apply entries_flatMap_runs withAdvice _ h.maximal
  intro run _ hfile
  cases hfile

/-!
## Texts
-/

theorem banner_eq :
    banner =
      "═══════════════════════════════════════════\n" ++
        "  BASELINE COMPATIBILITY SCAN\n" ++
        "═══════════════════════════════════════════\n\n" := by
  decide +kernel

theorem line_empty : line "" = "\n" := by
  decide

theorem line_noIssues :
    line "No problematic APIs found." = "No problematic APIs found.\n" := by
  decide

theorem counts_eq (result : ScanResult) :
    counts result =
      "files_scanned: " ++ toString result.filesScanned ++ "\n" ++
        "files_with_issues: " ++ toString result.filesWithIssues ++ "\n" ++
        "issues: " ++ toString result.issues.length ++ "\n" ++
        String.join (result.issuesByKind.map fun count =>
          "  " ++ count.1.name ++ ": " ++ toString count.2 ++ "\n") ++ "\n" := by
  rw [counts, line_empty, ScanResult.totalIssues]
  simp only [line, String.append_assoc]

theorem heading_eq (file : String) : heading file = "── " ++ file ++ " ──\n" := by
  rw [heading, line, String.append_assoc, String.append_assoc]
  rfl

theorem advice_eq (given : Advice) :
    advice given =
      "    alternative: " ++ given.alternative ++ "\n" ++
        "    why: " ++ given.explanation ++ "\n" ++
        "    example:\n" ++
        String.join ((Text.endedLines given.codeExample.toList).map fun text =>
          "      " ++ String.ofList text ++ "\n") ++
        "    alternative_support: " ++ given.browserSupport ++ "\n" := by
  have hexample : line "    example:" = "    example:\n" := by
    decide
  rw [advice, hexample]
  simp only [line, String.append_assoc]

theorem entry_eq (withAdvice : Bool) (issue : Issue) :
    entry withAdvice issue =
      "  " ++ toString issue.line ++ ":" ++ toString issue.column ++
        "  [" ++ issue.kind.name ++ "]  " ++ issue.api ++ "\n" ++
        "    " ++ issue.description ++ "\n" ++
        "    suggestion: " ++ issue.suggestion ++ "\n" ++
        "    support: " ++ issue.browserSupport ++ "\n" ++
        (if issue.context = "" then "" else "    > " ++ issue.context ++ "\n") ++
        (if withAdvice then issue.advice.elim "" advice else "") ++ "\n" := by
  unfold entry
  rw [line_empty]
  simp only [line, String.append_assoc, String.isEmpty_iff]
  cases withAdvice with
  | false =>
      rfl
  | true =>
      cases issue.advice <;> rfl

theorem Run.text_eq (withAdvice : Bool) :
    Run.text withAdvice = fun run =>
      "── " ++ run.file ++ " ──\n" ++ String.join (run.issues.map (entry withAdvice)) := by
  funext run
  rw [Run.text, heading_eq]

/-!
## Files of the headings
-/

theorem destutter'_append_of_file {file : String} {issues : List Issue}
    (h : ∀ issue ∈ issues, issue.file = file) (rest : List Issue) :
    ((issues ++ rest).map Issue.file).destutter' (· ≠ ·) file =
      (rest.map Issue.file).destutter' (· ≠ ·) file := by
  induction issues with
  | nil =>
      rfl
  | cons issue issues ih =>
      rw [List.forall_mem_cons] at h
      rw [List.cons_append, List.map_cons, h.left,
        List.destutter'_cons_neg _ (not_not_intro rfl), ih h.right]

theorem destutter'_flatMap_runs {runs : List Run} {file : String}
    (hfile : ∀ run ∈ runs.head?, file ≠ run.file)
    (hmaximal : runs.IsChain fun first second => first.file ≠ second.file) :
    ((runs.flatMap Run.issues).map Issue.file).destutter' (· ≠ ·) file =
      file :: runs.map Run.file := by
  induction runs generalizing file with
  | nil =>
      rfl
  | cons run runs ih =>
      obtain ⟨first, more, hissues, hfirst, hmore⟩ := run.exists_cons
      rw [List.isChain_cons] at hmaximal
      rw [List.flatMap_cons, hissues, List.cons_append, List.map_cons, hfirst,
        List.destutter'_cons_pos _ (hfile run rfl), destutter'_append_of_file hmore,
        ih hmaximal.left hmaximal.right, List.map_cons]

theorem AreRuns.map_file {issues : List Issue} {runs : List Run} (h : AreRuns issues runs) :
    runs.map Run.file = (issues.map Issue.file).destutter (· ≠ ·) := by
  obtain ⟨rfl, hmaximal⟩ := h
  cases runs with
  | nil =>
      rfl
  | cons run runs =>
      obtain ⟨first, more, hissues, hfirst, hmore⟩ := run.exists_cons
      rw [List.isChain_cons] at hmaximal
      rw [List.flatMap_cons, hissues, List.cons_append, List.map_cons (f := Issue.file), hfirst,
        List.destutter_cons', destutter'_append_of_file hmore,
        destutter'_flatMap_runs hmaximal.left hmaximal.right, List.map_cons]

/-!
## Runs of a session
-/

section Session

open Session (issuesOf hasIssues readable)

variable {files : FileSystem} {base : KnowledgeBase}

theorem exists_areRuns_flatMap_issuesOf {readings : List (SourceUnit × String)}
    (h : (readings.map fun reading => reading.1.name).Nodup) :
    ∃ runs, AreRuns (readings.flatMap (issuesOf base)) runs ∧
      runs.map Run.file = (readings.filter (hasIssues base)).map fun reading => reading.1.name := by
  induction readings with
  | nil =>
      exact ⟨[], ⟨rfl, List.isChain_nil⟩, rfl⟩
  | cons reading readings ih =>
      rw [List.map_cons, List.nodup_cons] at h
      obtain ⟨runs, ⟨hissues, hmaximal⟩, hfiles⟩ := ih h.right
      by_cases hempty : issuesOf base reading = []
      · have hnone : ¬hasIssues base reading = true := by
          simp [hasIssues, hempty]
        refine ⟨runs, ⟨?_, hmaximal⟩, ?_⟩
        · rw [List.flatMap_cons, hempty, List.nil_append, hissues]
        · rw [List.filter_cons_of_neg hnone, hfiles]
      · have hsome : hasIssues base reading = true := by
          simp [hasIssues, hempty]
        let run : Run :=
          ⟨reading.1.name, issuesOf base reading, hempty, fun _ => Scan.file_of_mem_source⟩
        refine ⟨run :: runs, ⟨?_, List.isChain_cons.mpr ⟨?_, hmaximal⟩⟩, ?_⟩
        · rw [List.flatMap_cons, List.flatMap_cons, hissues]
        · intro next hnext hfile
          -- The next run bears the name of a later unit.
          have hmem : next.file ∈ runs.map Run.file :=
            List.mem_map_of_mem (List.mem_of_mem_head? hnext)
          rw [hfiles, ← hfile] at hmem
          exact h.left ((List.filter_sublist.map _).subset hmem)
        · rw [List.filter_cons_of_pos hsome, List.map_cons, List.map_cons, hfiles]

theorem AreRuns.length_eq_filesWithIssues {units : List SourceUnit} {result : ScanResult}
    {runs : List Run} (h : AreRuns result.issues runs)
    (hnames : (units.map SourceUnit.name).Nodup)
    (hresult : result.SameButAdvice (Session.run files base units)) :
    runs.length = result.filesWithIssues := by
  have htally := Session.tally_run files base units
  obtain ⟨others, hothers, hfiles⟩ : ∃ others,
      AreRuns ((readable files units).flatMap (issuesOf base)) others ∧
        others.map Run.file =
          ((readable files units).filter (hasIssues base)).map fun reading => reading.1.name :=
    exists_areRuns_flatMap_issuesOf (Session.names_readable_nodup hnames)
  have hsame : result.issues.map Issue.file =
      ((readable files units).flatMap (issuesOf base)).map Issue.file := by
    have hmap := congrArg (List.map Issue.file) hresult.issues
    rw [List.map_map, List.map_map, htally.issues] at hmap
    exact hmap
  calc
    runs.length = (runs.map Run.file).length := (List.length_map _).symm
    _ = (others.map Run.file).length := by
      rw [h.map_file, hothers.map_file, hsame]
    _ = (readable files units).countP (hasIssues base) := by
      rw [hfiles, List.length_map, List.countP_eq_length_filter]
    _ = result.filesWithIssues := by
      rw [hresult.filesWithIssues, htally.filesWithIssues]

end Session
end Report

namespace ScanResult

open Report (AreRuns Run entry)

/--
The report for readers is the banner, the counts, and then the runs of issues of
one file, each with one heading and one entry for every issue.  The counts of the
kinds add up to the number of issues, and after a session over units of different
names there are as many headings as units with issues.
-/
theorem plainReport_shows_runs_of_files (withAdvice : Bool) (result : ScanResult) :
    ∃ (runs : List Run) (counts : List (IssueKind × Nat)),
      AreRuns result.issues runs ∧
      result.plainReport withAdvice =
        ("═══════════════════════════════════════════\n" ++
          "  BASELINE COMPATIBILITY SCAN\n" ++
          "═══════════════════════════════════════════\n\n") ++
        ("files_scanned: " ++ toString result.filesScanned ++ "\n" ++
          "files_with_issues: " ++ toString result.filesWithIssues ++ "\n" ++
          "issues: " ++ toString result.issues.length ++ "\n" ++
          String.join (counts.map fun count =>
            "  " ++ count.1.name ++ ": " ++ toString count.2 ++ "\n") ++ "\n") ++
        (if result.issues = [] then "No problematic APIs found.\n"
          else String.join (runs.map fun run =>
            "── " ++ run.file ++ " ──\n" ++
              String.join (run.issues.map (entry withAdvice)))) ∧
      (∀ issue, entry withAdvice issue =
        "  " ++ toString issue.line ++ ":" ++ toString issue.column ++
          "  [" ++ issue.kind.name ++ "]  " ++ issue.api ++ "\n" ++
          "    " ++ issue.description ++ "\n" ++
          "    suggestion: " ++ issue.suggestion ++ "\n" ++
          "    support: " ++ issue.browserSupport ++ "\n" ++
          (if issue.context = "" then "" else "    > " ++ issue.context ++ "\n") ++
          (if withAdvice then issue.advice.elim "" Report.advice else "") ++ "\n") ∧
      (∀ given, Report.advice given =
        "    alternative: " ++ given.alternative ++ "\n" ++
          "    why: " ++ given.explanation ++ "\n" ++
          "    example:\n" ++
          String.join ((Text.endedLines given.codeExample.toList).map fun text =>
            "      " ++ String.ofList text ++ "\n") ++
          "    alternative_support: " ++ given.browserSupport ++ "\n") ∧
      (∀ kind count, (kind, count) ∈ counts ↔
        count = (result.issues.countP fun issue => issue.kind = kind) ∧ 0 < count) ∧
      (counts.map fun count => count.1.name).Sublist
        ["deprecated", "non-baseline", "unsafe"] ∧
      (counts.map Prod.snd).sum = result.issues.length ∧
      ∀ (files : FileSystem) (base : KnowledgeBase) (units : List SourceUnit),
        (units.map SourceUnit.name).Nodup →
        result.SameButAdvice (Session.run files base units) →
        runs.length = result.filesWithIssues := by
  obtain ⟨runs, hruns⟩ := Report.exists_areRuns result.issues
  refine ⟨runs, result.issuesByKind, hruns, ?_, Report.entry_eq withAdvice, Report.advice_eq,
    fun _ _ => mem_issuesByKind, result.names_issuesByKind_sublist, result.sum_issuesByKind, ?_⟩
  · rw [plainReport, hruns.entries_eq, Report.banner_eq, Report.counts_eq]
    simp only [List.isEmpty_iff, Report.line_noIssues, Run.text_eq]
  · intro files base units hnames hresult
    exact hruns.length_eq_filesWithIssues hnames hresult

/--
The result of a session over two units with an issue, and one that cannot be read,
with advice on the second issue.
-/
def mixedResult : ScanResult :=
  let result := Session.run ⟨.directory [], []⟩ Session.mixedBase Session.mixedUnits
  { result with
    issues := result.issues.map fun issue =>
      if issue.file = "b.js" then
        { issue with advice := some ⟨"g", "f is old.", "g()\r\n\ng()\n", "All"⟩ }
      else issue }

theorem mixedResult_shown_below_two_headings :
    ∃ runs : List Run,
      AreRuns mixedResult.issues runs ∧ runs.length = 2 ∧
      (Session.mixedUnits.map SourceUnit.name).Nodup ∧
      mixedResult.SameButAdvice
        (Session.run ⟨.directory [], []⟩ Session.mixedBase Session.mixedUnits) ∧
      mixedResult.plainReport true =
        "═══════════════════════════════════════════\n" ++
        "  BASELINE COMPATIBILITY SCAN\n" ++
        "═══════════════════════════════════════════\n\n" ++
        "files_scanned: 3\n" ++
        "files_with_issues: 2\n" ++
        "issues: 2\n" ++
        "  deprecated: 2\n\n" ++
        "── a.js ──\n" ++
        "  1:1  [deprecated]  f\n" ++
        "    f is not Baseline-supported\n" ++
        "    suggestion: Consider using a Baseline-supported alternative\n" ++
        "    support: Limited browser support\n" ++
        "    > )f\n\n" ++
        "── b.js ──\n" ++
        "  1:1  [deprecated]  f\n" ++
        "    f is not Baseline-supported\n" ++
        "    suggestion: Consider using a Baseline-supported alternative\n" ++
        "    support: Limited browser support\n" ++
        "    > )f\n" ++
        "    alternative: g\n" ++
        "    why: f is old.\n" ++
        "    example:\n" ++
        "      g()\n" ++
        "      \n" ++
        "      g()\n" ++
        "    alternative_support: All\n\n" := by
  obtain ⟨runs, counts, hruns, -, -, -, -, -, -, hlength⟩ :=
    plainReport_shows_runs_of_files true mixedResult
  have hnames : (Session.mixedUnits.map SourceUnit.name).Nodup := by
    decide
  have hsession : mixedResult.SameButAdvice
      (Session.run ⟨.directory [], []⟩ Session.mixedBase Session.mixedUnits) :=
    ⟨rfl, rfl, by decide +kernel⟩
  have hcount : mixedResult.filesWithIssues = 2 := by
    decide +kernel
  exact ⟨runs, hruns, (hlength _ _ _ hnames hsession).trans hcount, hnames, hsession,
    by decide +kernel⟩

end ScanResult
end WebCompat
