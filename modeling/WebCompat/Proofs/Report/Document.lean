import Mathlib.Algebra.GroupWithZero.Nat
import WebCompat.Proofs.Json.Record
import WebCompat.Proofs.Json.RoundTrip
import WebCompat.Report.Document

/-!
# The report for machines

A result is decoded from its own report, whatever texts its issues hold.  The
counts of the report are those of its issues.
-/

namespace WebCompat

open Json (Value IsWritable natural_isWritable)

/-!
## Advice and issues
-/

theorem Json.Value.size?_natural {n : Nat} (h : n < Nat.pow 2 64) : size? (natural n) = some n :=
  naturalBelow?_toString h

theorem Advice.ofJson?_toJson (advice : Advice) : ofJson? advice.toJson = some advice := by
  rw [ofJson?, toJson, Value.record?_object]
  · rfl
  · simp

theorem Advice.toJson_isWritable (advice : Advice) : IsWritable advice.toJson := by
  apply IsWritable.object
  simp only [List.forall_mem_cons]
  exact ⟨.string _, .string _, .string _, .string _, List.forall_mem_nil _⟩

theorem IssueKind.ofJson?_name (kind : IssueKind) :
    ofJson? (.string kind.name) = some kind := by
  cases kind <;> rfl

namespace Issue

/-- Whether the place of an issue takes words of 64 bits. -/
structure FitsWords (issue : Issue) : Prop where
  line : issue.line < Nat.pow 2 64
  column : issue.column < Nat.pow 2 64

theorem ofJson?_toJson {issue : Issue} (h : issue.FitsWords) :
    ofJson? issue.toJson = some issue := by
  have hline := Value.size?_natural h.line
  have hcolumn := Value.size?_natural h.column
  have hkind := issue.kind.ofJson?_name
  rw [ofJson?, toJson, Value.record?_object]
  · refine Option.bind_eq_some_iff.mpr ⟨_, rfl, ?_⟩
    refine Option.bind_eq_some_iff.mpr ⟨issue.file, rfl, ?_⟩
    refine Option.bind_eq_some_iff.mpr ⟨issue.line, hline, ?_⟩
    refine Option.bind_eq_some_iff.mpr ⟨issue.column, hcolumn, ?_⟩
    refine Option.bind_eq_some_iff.mpr ⟨issue.api, rfl, ?_⟩
    refine Option.bind_eq_some_iff.mpr ⟨issue.kind, hkind, ?_⟩
    refine Option.bind_eq_some_iff.mpr ⟨issue.description, rfl, ?_⟩
    refine Option.bind_eq_some_iff.mpr ⟨issue.suggestion, rfl, ?_⟩
    refine Option.bind_eq_some_iff.mpr ⟨issue.browserSupport, rfl, ?_⟩
    refine Option.bind_eq_some_iff.mpr ⟨issue.context, rfl, ?_⟩
    refine Option.bind_eq_some_iff.mpr ⟨issue.advice, ?_, rfl⟩
    cases issue.advice with
    | none =>
        rfl
    | some advice =>
        exact Option.map_eq_some_iff.mpr ⟨advice, advice.ofJson?_toJson, rfl⟩
  · cases issue.advice <;> simp

theorem toJson_isWritable (issue : Issue) : IsWritable issue.toJson := by
  apply IsWritable.object
  simp only [List.forall_mem_append, List.forall_mem_cons]
  refine ⟨⟨.string _, natural_isWritable _, natural_isWritable _, .string _, .string _,
    .string _, .string _, .string _, .string _, List.forall_mem_nil _⟩, ?_⟩
  intro member hmember
  rcases List.mem_map.mp hmember with ⟨advice, _, rfl⟩
  exact advice.toJson_isWritable

end Issue

/-!
## Counts
-/

namespace ScanResult

theorem mem_issuesByKind {result : ScanResult} {kind : IssueKind} {count : Nat} :
    (kind, count) ∈ result.issuesByKind ↔ count = result.countOf kind ∧ 0 < count := by
  have hall : kind ∈ IssueKind.all := by
    cases kind <;> decide
  rw [issuesByKind, List.mem_filter, List.mem_map, decide_eq_true_iff]
  constructor
  · rintro ⟨⟨_, _, ⟨⟩⟩, hpos⟩
    exact ⟨rfl, hpos⟩
  · rintro ⟨rfl, hpos⟩
    exact ⟨⟨kind, hall, rfl⟩, hpos⟩

theorem names_issuesByKind_sublist (result : ScanResult) :
    (result.issuesByKind.map fun entry => entry.1.name).Sublist
      (IssueKind.all.map IssueKind.name) := by
  have hsublist : (result.issuesByKind.map fun entry => entry.1.name).Sublist
      ((IssueKind.all.map fun kind => (kind, result.countOf kind)).map fun entry =>
        entry.1.name) :=
    List.filter_sublist.map _
  rw [List.map_map] at hsublist
  exact hsublist

theorem nodup_names_issuesByKind (result : ScanResult) :
    (result.issuesByKind.map fun entry => entry.1.name).Nodup := by
  have hnames : (IssueKind.all.map IssueKind.name).Nodup := by
    decide
  exact hnames.sublist result.names_issuesByKind_sublist

theorem sum_countOf (result : ScanResult) :
    (IssueKind.all.map result.countOf).sum = result.totalIssues := by
  rcases result with ⟨_, _, issues⟩
  simp only [countOf, totalIssues, IssueKind.all, List.map_cons, List.map_nil, List.sum_cons,
    List.sum_nil]
  induction issues with
  | nil =>
      rfl
  | cons issue issues ih =>
      rw [List.countP_cons, List.countP_cons, List.countP_cons, List.length_cons, ← ih]
      cases issue.kind <;> simp <;> omega

theorem sum_filter_pos (counts : List Nat) : (counts.filter (0 < ·)).sum = counts.sum := by
  induction counts with
  | nil =>
      rfl
  | cons count counts ih =>
      rw [List.filter_cons, List.sum_cons, ← ih]
      split
      · rfl
      · rename_i hzero
        have hcount : count = 0 := by
          simpa using hzero
        rw [hcount, Nat.zero_add]

theorem sum_issuesByKind (result : ScanResult) :
    (result.issuesByKind.map Prod.snd).sum = result.totalIssues := by
  have hcounts : (IssueKind.all.map fun kind => (kind, result.countOf kind)).map Prod.snd =
      IssueKind.all.map result.countOf := by
    rw [List.map_map]
    rfl
  calc
    (result.issuesByKind.map Prod.snd).sum =
        ((IssueKind.all.map result.countOf).filter (0 < ·)).sum := by
      rw [← hcounts, List.filter_map]
      rfl
    _ = result.totalIssues := by
      rw [sum_filter_pos, sum_countOf]

/-!
## Results
-/

/-- Whether the numbers of a result take words of 64 bits, the widest that are decoded. -/
structure FitsWords (result : ScanResult) : Prop where
  filesScanned : result.filesScanned < Nat.pow 2 64
  filesWithIssues : result.filesWithIssues < Nat.pow 2 64
  issues : ∀ issue ∈ result.issues, issue.FitsWords

theorem toJson_isWritable (timestamp : String) (result : ScanResult) :
    IsWritable (result.toJson timestamp) := by
  have hissues : IsWritable (.array (result.issues.map Issue.toJson)) := by
    apply IsWritable.array
    intro item hitem
    rcases List.mem_map.mp hitem with ⟨issue, _, rfl⟩
    exact issue.toJson_isWritable
  have hcounts : IsWritable result.issuesByKindJson := by
    apply IsWritable.object
    intro member hmember
    rcases List.mem_map.mp hmember with ⟨entry, _, rfl⟩
    exact natural_isWritable entry.2
  apply IsWritable.object
  simp only [List.forall_mem_cons]
  exact ⟨natural_isWritable _, natural_isWritable _, hissues, .string _, natural_isWritable _,
    hcounts, List.forall_mem_nil _⟩

theorem ofJson?_toJson (timestamp : String) {result : ScanResult} (h : result.FitsWords) :
    ofJson? (result.toJson timestamp) = some result := by
  have hscanned := Value.size?_natural h.filesScanned
  have hwith := Value.size?_natural h.filesWithIssues
  have hissues := Value.list?_map fun issue hissue =>
    Issue.ofJson?_toJson (h.issues issue hissue)
  rw [ofJson?, toJson, Value.record?_object]
  · refine Option.bind_eq_some_iff.mpr ⟨_, rfl, ?_⟩
    refine Option.bind_eq_some_iff.mpr ⟨timestamp, rfl, ?_⟩
    refine Option.bind_eq_some_iff.mpr ⟨result.filesScanned, hscanned, ?_⟩
    refine Option.bind_eq_some_iff.mpr ⟨result.filesWithIssues, hwith, ?_⟩
    exact Option.bind_eq_some_iff.mpr ⟨result.issues, hissues, rfl⟩
  · simp

theorem read?_jsonReport (timestamp : String) (result : ScanResult) :
    Json.read? (result.jsonReport timestamp) = some (result.toJson timestamp) := by
  apply Json.read?_pretty (result.toJson_isWritable timestamp)
  intro c hc
  rw [List.mem_singleton.mp hc]
  rfl

/--
The report for machines is a document from which its result is decoded again.  It
has the number of issues, and an object of counts: under the name of each kind
that occurs stands its number of issues, there is nothing else in the object, and
the counts add up to the number of issues.
-/
theorem jsonReport_decodes_to_result (timestamp : String) (result : ScanResult)
    (h : result.FitsWords) :
    ∃ (members : List (String × Value)) (counts : List (String × Nat)),
      Json.read? (result.jsonReport timestamp) = some (.object members) ∧
      (members.map Prod.fst).Nodup ∧
      ofJson? (.object members) = some result ∧
      members.lookup "totalIssues" = some (.natural result.issues.length) ∧
      members.lookup "issuesByType" =
        some (.object (counts.map fun entry => (entry.1, .natural entry.2))) ∧
      (counts.map Prod.fst).Nodup ∧
      (∀ name count, (name, count) ∈ counts ↔
        ∃ kind : IssueKind, name = kind.name ∧ 0 < count ∧
          count = result.issues.countP fun issue => issue.kind = kind) ∧
      (counts.map Prod.snd).sum = result.issues.length := by
  refine ⟨_, result.issuesByKind.map fun entry => (entry.1.name, entry.2),
    result.read?_jsonReport timestamp, ?_, ofJson?_toJson timestamp h, rfl, ?_, ?_, ?_, ?_⟩
  · simp
  · rw [List.map_map]
    rfl
  · rw [List.map_map]
    exact result.nodup_names_issuesByKind
  · intro name count
    rw [List.mem_map]
    constructor
    · rintro ⟨⟨kind, _⟩, hentry, ⟨⟩⟩
      rcases mem_issuesByKind.mp hentry with ⟨hcount, hpos⟩
      exact ⟨kind, rfl, hpos, hcount⟩
    · rintro ⟨kind, rfl, hpos, hcount⟩
      exact ⟨(kind, count), mem_issuesByKind.mpr ⟨hcount, hpos⟩, rfl⟩
  · rw [List.map_map]
    exact result.sum_issuesByKind

def awkwardIssue : Issue where
  file := "C:\\pages\\\"new\".js"
  line := 3
  column := Nat.pow 2 64 - 1
  api := "webkitURL"
  kind := .deprecated
  description := ""
  suggestion := "\t\u0007\u001f\r\n"
  browserSupport := "\u007f é 😀"
  context := "null, \"\\ud800\" ]"
  advice := some {
    alternative := "URL"
    explanation := "\\"
    codeExample := "new URL(\"/\", base)\n"
    browserSupport := "/" }

def awkwardResult : ScanResult where
  filesScanned := 2
  filesWithIssues := 1
  issues := [awkwardIssue, { awkwardIssue with kind := .nonBaseline, advice := none },
    { awkwardIssue with line := 4 }]

theorem awkwardResult_fitsWords : awkwardResult.FitsWords where
  filesScanned := by decide
  filesWithIssues := by decide
  issues := by
    simp only [awkwardResult, List.forall_mem_cons]
    exact ⟨⟨by decide, by decide⟩, ⟨by decide, by decide⟩, ⟨by decide, by decide⟩,
      List.forall_mem_nil _⟩

theorem awkwardResult_decoded :
    awkwardResult.FitsWords ∧
    ∃ (members : List (String × Value)) (counts : List (String × Nat)),
      Json.read? (awkwardResult.jsonReport "2026-01-01T00:00:00Z") = some (.object members) ∧
      ofJson? (.object members) = some awkwardResult ∧
      members.lookup "totalIssues" = some (.natural 3) ∧
      members.lookup "issuesByType" =
        some (.object (counts.map fun entry => (entry.1, .natural entry.2))) ∧
      ("deprecated", 2) ∈ counts ∧ ("non-baseline", 1) ∈ counts ∧
      ∀ count, ("unsafe", count) ∉ counts := by
  refine ⟨awkwardResult_fitsWords, ?_⟩
  rcases jsonReport_decodes_to_result "2026-01-01T00:00:00Z" awkwardResult awkwardResult_fitsWords
    with ⟨members, counts, hread, _, hresult, htotal, hcounts, _, hmem, _⟩
  refine ⟨members, counts, hread, hresult, htotal, hcounts, ?_, ?_, ?_⟩
  · exact (hmem _ _).mpr ⟨.deprecated, rfl, by decide, by decide⟩
  · exact (hmem _ _).mpr ⟨.nonBaseline, rfl, by decide, by decide⟩
  · intro count hcount
    rcases (hmem _ _).mp hcount with ⟨kind, hname, hpos, rfl⟩
    cases kind with
    | deprecated =>
        exact absurd hname (by decide)
    | nonBaseline =>
        exact absurd hname (by decide)
    | hazardous =>
        exact absurd hpos (by decide)

end ScanResult
end WebCompat
