import Mathlib.Data.List.Sort
import WebCompat.Proofs.Knowledge.Precedence
import WebCompat.Proofs.Scan.PlainOrder
import WebCompat.Proofs.Scan.TreeOrder
import WebCompat.Scan.Source

/-!
# Findings of a larger knowledge base

A knowledge base that knows more APIs finds more issues, but it neither loses
nor changes those of the APIs that were known before.  No API gets in the way of
another one: neither in a tree, nor in a line that is searched for all of them,
nor in the scripts of a markup document.
-/

namespace WebCompat
namespace KnowledgeBase

/-- Whether a knowledge base has all descriptors of another one. -/
def PartOf (base larger : KnowledgeBase) : Prop :=
  ∀ api descriptor, base.lookup api = some descriptor → larger.lookup api = some descriptor

theorem curated_partOf_ofDataset (dataset : Knowledge.Dataset) :
    curated.PartOf (ofDataset dataset) := by
  intro api descriptor hcurated
  rw [lookup_ofDataset, hcurated]
  rfl

end KnowledgeBase

namespace Scan

open Knowledge (Descriptor)

variable {base larger : KnowledgeBase}

def known (base : KnowledgeBase) (issues : List Issue) : List Issue :=
  issues.filter fun issue => base.contains issue.api

/-- What a part of a knowledge base reports on one API, by whatever rule. -/
theorem map_lookup_eq_filter (h : base.PartOf larger) (api : String)
    {report : Descriptor → Issue}
    (hreport : ∀ descriptor, (report descriptor).api = descriptor.api) :
    (base.lookup api).map report =
      ((larger.lookup api).map report).filter fun issue => base.contains issue.api := by
  cases hbase : base.lookup api with
  | some descriptor =>
      have hcontains : base.contains (report descriptor).api = true := by
        rw [hreport, KnowledgeBase.api_of_lookup_eq_some hbase,
          KnowledgeBase.contains_eq_isSome_lookup, hbase]
        rfl
      rw [h api descriptor hbase, Option.map_some, Option.filter_some, if_pos hcontains]
  | none =>
      cases hlarger : larger.lookup api with
      | none =>
          rfl
      | some descriptor =>
          have hcontains : ¬base.contains (report descriptor).api = true := by
            rw [hreport, KnowledgeBase.api_of_lookup_eq_some hlarger,
              KnowledgeBase.contains_eq_isSome_lookup, hbase]
            exact Bool.false_ne_true
          rw [Option.map_some, Option.filter_some, if_neg hcontains]
          rfl

/-!
## Trees
-/

theorem descriptor?_eq_bind_usedPath? (base : KnowledgeBase) (source : List Char)
    (node : Script.Tree) :
    descriptor? base source node =
      (node.usedPath? source).bind fun path => base.lookup (String.ofList path) :=
  (Option.bind_assoc _ _ _).symm

theorem nodeIssue?_eq_filter (h : base.PartOf larger) (file : String) (source : List Char)
    (node : Script.Tree) :
    nodeIssue? base file source node =
      (nodeIssue? larger file source node).filter fun issue => base.contains issue.api := by
  rw [nodeIssue?, nodeIssue?, descriptor?_eq_bind_usedPath?, descriptor?_eq_bind_usedPath?]
  cases node.usedPath? source with
  | none =>
      rfl
  | some path =>
      exact map_lookup_eq_filter h (String.ofList path) fun _ => rfl

theorem tree_eq_known (h : base.PartOf larger) (file source : String) (root : Script.Tree) :
    tree base file source root = known base (tree larger file source root) := by
  rw [known, tree, tree, List.filter_filterMap]
  congr 1
  funext node
  exact nodeIssue?_eq_filter h file source.toList node

/-!
## Plain texts

The issues of a line are strictly ordered, so they are compared one by one and
not through the sorting.
-/

theorem hitIssue?_eq_filter (h : base.PartOf larger) (file : String) (number : Nat)
    (text : List Char) (hit : Hit) :
    hitIssue? base file number text hit =
      (hitIssue? larger file number text hit).filter fun issue => base.contains issue.api :=
  map_lookup_eq_filter h hit.api fun _ => rfl

theorem mem_line_iff_mem_known (h : base.PartOf larger) (file : String) (number : Nat)
    (text : List Char) (issue : Issue) :
    issue ∈ line base file number text ↔ issue ∈ known base (line larger file number text) := by
  rw [known, List.mem_filter, mem_line_iff, mem_line_iff]
  simp only [hitIssue?_eq_filter h, Option.filter_eq_some_iff]
  constructor
  · rintro ⟨hit, hoffset, hissue, hknown⟩
    exact ⟨⟨hit, hoffset, hissue⟩, hknown⟩
  · rintro ⟨⟨hit, hoffset, hissue⟩, hknown⟩
    exact ⟨hit, hoffset, hissue, hknown⟩

theorem line_eq_known (h : base.PartOf larger) (file : String) (number : Nat)
    (text : List Char) :
    line base file number text = known base (line larger file number text) := by
  have hirrefl : Std.Irrefl Issue.Before := ⟨fun _ hbefore => hbefore.asymm hbefore⟩
  have hantisymm : Std.Antisymm Issue.Before :=
    ⟨fun _ _ hbefore hbehind => absurd hbehind hbefore.asymm⟩
  apply (line_before base file number text).eq_of_mem_iff
  · exact (line_before larger file number text).filter _
  · exact mem_line_iff_mem_known h file number text

theorem plain_eq_known (h : base.PartOf larger) (file source : String) :
    plain base file source = known base (plain larger file source) := by
  rw [known, plain, plain, List.filter_flatMap]
  congr 1
  funext numbered
  exact line_eq_known h file (numbered.2 + 1) numbered.1

/-!
## Sources
-/

theorem script_eq_known (h : base.PartOf larger) (file source : String)
    (dialect : Script.Dialect) :
    script base file source dialect = known base (script larger file source dialect) := by
  unfold script
  split
  · exact tree_eq_known h file source _
  · exact plain_eq_known h file source

theorem block_eq_known (h : base.PartOf larger) (file : String) (found : Markup.Block) :
    block base file found = known base (block larger file found) := by
  rw [known, block, block, script_eq_known h, List.filter_map]
  rfl

theorem markup_eq_known (h : base.PartOf larger) (file document : String) :
    markup base file document = known base (markup larger file document) := by
  rw [known, markup, markup, List.filter_flatMap]
  congr 1
  funext found
  exact block_eq_known h file found

theorem source_eq_known (h : base.PartOf larger) (file text : String) (kind : SourceKind) :
    source base file text kind = known base (source larger file text kind) := by
  cases kind with
  | script dialect =>
      exact script_eq_known h file text dialect
  | markup =>
      exact markup_eq_known h file text

/--
A larger knowledge base finds the issues of a smaller one, in their order and
unchanged, among those of other APIs.  So the findings on curated APIs are the
same with every dataset.
-/
theorem source_keeps_findings (base larger : KnowledgeBase)
    (h : ∀ api descriptor, base.lookup api = some descriptor →
      larger.lookup api = some descriptor)
    (file text : String) (kind : SourceKind) :
    source base file text kind =
        (source larger file text kind).filter (fun issue => base.contains issue.api) ∧
      ∀ dataset,
        (source (.ofDataset dataset) file text kind).filter
            (fun issue => KnowledgeBase.curated.contains issue.api) =
          source .curated file text kind := by
  refine ⟨source_eq_known h file text kind, ?_⟩
  intro dataset
  exact (source_eq_known (KnowledgeBase.curated_partOf_ofDataset dataset) file text kind).symm

def functionBase (apis : List String) : KnowledgeBase :=
  .ofDescriptors (apis.map (Knowledge.Curated.deprecated "" "" ""))

theorem functionBase_partOf : (functionBase ["f"]).PartOf (functionBase ["f", "g"]) := by
  intro api descriptor hlookup
  rw [functionBase, KnowledgeBase.lookup_ofDescriptors] at hlookup
  have hmem := List.mem_of_find?_eq_some hlookup
  have hapi : descriptor.api = api := by
    simpa using List.find?_some hlookup
  rw [List.map_singleton, List.reverse_singleton, List.mem_singleton] at hmem
  rw [← hapi, hmem]
  decide

def functionPage : String :=
  "<script>)g\n)f</script>"

theorem function_findings_kept :
    (source (functionBase ["f", "g"]) "page.html" functionPage .markup).map
        (fun issue => (issue.line, issue.api)) = [(1, "g"), (2, "f")] ∧
      (source (functionBase ["f"]) "page.html" functionPage .markup).map
        (fun issue => (issue.line, issue.api)) = [(2, "f")] ∧
      source (functionBase ["f"]) "page.html" functionPage .markup =
        (source (functionBase ["f", "g"]) "page.html" functionPage .markup).filter
          (fun issue => (functionBase ["f"]).contains issue.api) := by
  refine ⟨by decide +kernel, by decide +kernel, ?_⟩
  exact (source_keeps_findings (functionBase ["f"]) (functionBase ["f", "g"])
    functionBase_partOf "page.html" functionPage .markup).left

end Scan
end WebCompat
