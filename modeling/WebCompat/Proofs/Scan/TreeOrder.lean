import WebCompat.Proofs.Knowledge.Base
import WebCompat.Proofs.Scan.Place
import WebCompat.Proofs.Script.Layout

/-!
# Order of the issues of a tree

Several nodes of a tree may begin at one place: the member accesses of a chain
all begin with its first name.  Walking from the top meets the longest of them
first.  So the issues of a tree ascend by place, and at one place their paths
get shorter.
-/

namespace WebCompat
namespace Script

def partCount (path : List Char) : Nat :=
  path.count '.' + 1

namespace Tree

variable {source : List Char}

def usedPath? (source : List Char) (node : Tree) : Option (List Char) :=
  node.target?.bind fun target => target.path? source

theorem usedPath?_cases {node : Tree} {path : List Char}
    (h : node.usedPath? source = some path) :
    (node.kind.isMember = true ∧ node.path? source = some path) ∨
      ((node.kind = .call ∨ node.kind = .construct) ∧ ∃ callee,
        node.child? .callee = some callee ∧ callee.kind = .identifier ∧
          callee.path? source = some path) := by
  rcases Option.bind_eq_some_iff.mp h with ⟨target, htarget, hpath⟩
  have hcallee : (node.child? .callee).filter (fun callee => callee.kind = .identifier) =
      some target → ∃ callee, node.child? .callee = some callee ∧
        callee.kind = .identifier ∧ callee.path? source = some path := by
    intro hfilter
    rcases Option.filter_eq_some_iff.mp hfilter with ⟨hchild, hkind⟩
    exact ⟨target, hchild, by simpa using hkind, hpath⟩
  unfold target? at htarget
  split at htarget
  · rename_i hkind
    cases htarget
    exact Or.inl ⟨by rw [hkind]; rfl, hpath⟩
  · rename_i hkind
    cases htarget
    exact Or.inl ⟨by rw [hkind]; rfl, hpath⟩
  · rename_i hkind
    exact Or.inr ⟨Or.inl hkind, hcallee htarget⟩
  · rename_i hkind
    exact Or.inr ⟨Or.inr hkind, hcallee htarget⟩
  · cases htarget

theorem usedPath?_of_identifier {node : Tree} (h : node.kind = .identifier) :
    node.usedPath? source = none := by
  rw [usedPath?, target?, h]
  rfl

/-!
## Nodes with a path are not empty
-/

theorem lt_of_text_ne_nil {node : Tree} (h : node.text source ≠ []) :
    node.start < node.stop ∧ node.start < source.length := by
  have hlength := List.length_pos_iff.mpr h
  rw [text, slice, List.length_take, List.length_drop] at hlength
  omega

theorem WellPlaced.lt_of_path? {tree : Tree} (h : tree.WellPlaced source) {path : List Char}
    (hpath : tree.path? source = some path) :
    tree.start < tree.stop ∧ tree.start < source.length := by
  induction tree using induction_on_children generalizing path with
  | h tree ih =>
      rcases path?_eq_some_iff.mp hpath with
        ⟨hkind, _⟩ | ⟨hkind, object, property, before, hobject, _, hbefore, _⟩
      · exact lt_of_text_ne_nil (h.placed.identifier_text hkind)
      · rcases h.placed.member_object hkind object hobject with ⟨hmem, hstart⟩
        have hfirst := ih object hmem (h.child hmem) hbefore
        have hinside := h.placed.inside object hmem
        omega

theorem WellPlaced.callee {tree : Tree} (h : tree.WellPlaced source) {callee : Tree}
    (hkind : tree.kind = .call ∨ tree.kind = .construct)
    (hcallee : tree.child? .callee = some callee) :
    callee ∈ tree.children ∧
      (tree.kind = .call → callee.start = tree.start) ∧
        (tree.kind = .construct → tree.start < callee.start) := by
  have hmem : callee ∈ tree.children := by
    refine mem_children_of_child? ?_ hcallee
    rcases hkind with hkind | hkind <;> rw [hkind] <;> decide
  refine ⟨hmem, ?_, ?_⟩
  · intro hcall
    exact h.placed.call_callee hcall callee hcallee
  · intro hconstruct
    exact h.placed.construct_children hconstruct callee hmem

theorem WellPlaced.lt_of_usedPath? {tree : Tree} (h : tree.WellPlaced source)
    {path : List Char} (hpath : tree.usedPath? source = some path) :
    tree.start < tree.stop ∧ tree.start < source.length := by
  rcases usedPath?_cases hpath with ⟨_, hpath⟩ | ⟨hkind, callee, hcallee, _, hpath⟩
  · exact h.lt_of_path? hpath
  · rcases h.callee hkind hcallee with ⟨hmem, _, _⟩
    have hlt := (h.child hmem).lt_of_path? hpath
    have hinside := h.placed.inside callee hmem
    omega

/-!
## Nodes that begin at one place
-/

theorem WellPlaced.mem_preorder_of_start_eq {tree : Tree} (h : tree.WellPlaced source)
    {first node : Tree} (hfirst : first ∈ tree.children) (hstart : first.start = tree.start)
    (hfirstLt : first.start < first.stop) (hnode : node ∈ preorderAll tree.children)
    (hnodeStart : node.start = tree.start) (hnodeLt : node.start < node.stop) :
    node ∈ first.preorder := by
  rcases mem_preorderAll_iff.mp hnode with ⟨child, hchild, hmem⟩
  have hinside := (h.child hchild).inside hmem
  rcases h.separated hfirst hchild with heq | hbehind | hahead
  · rw [heq]
    exact hmem
  · omega
  · omega

theorem WellPlaced.mem_object_of_start_eq {tree : Tree} (h : tree.WellPlaced source)
    {path : List Char} (hkind : tree.kind.isMember = true)
    (hpath : tree.path? source = some path) :
    ∃ object before, object ∈ tree.children ∧ object.start = tree.start ∧
      object.path? source = some before ∧ before.count '.' < path.count '.' ∧
        ∀ node ∈ preorderAll tree.children, node.start = tree.start →
          node.start < node.stop → node ∈ object.preorder := by
  rcases path?_eq_some_iff.mp hpath with
    ⟨hidentifier, _⟩ | ⟨_, object, property, before, hobject, hproperty, hbefore, hjoin⟩
  · rw [hidentifier] at hkind
    cases hkind
  · rcases h.placed.member_object hkind object hobject with ⟨hmem, hstart⟩
    have hlt := (h.child hmem).lt_of_path? hbefore
    refine ⟨object, before, hmem, hstart, hbefore, ?_, ?_⟩
    · rw [hjoin, List.count_append, List.count_cons_self]
      omega
    · intro node hnode hnodeStart hnodeLt
      exact h.mem_preorder_of_start_eq hmem hstart hlt.left hnode hnodeStart hnodeLt

theorem WellPlaced.count_le_of_path? {tree : Tree} (h : tree.WellPlaced source)
    {path nodePath : List Char} {node : Tree} (hpath : tree.path? source = some path)
    (hnode : node ∈ tree.preorder) (hstart : node.start = tree.start)
    (hnodePath : node.usedPath? source = some nodePath) :
    nodePath.count '.' ≤ path.count '.' := by
  induction tree using induction_on_children generalizing path with
  | h tree ih =>
      have hnodeLt := (h.of_mem_preorder hnode).lt_of_usedPath? hnodePath
      rw [preorder_eq_cons, List.mem_cons] at hnode
      rcases path?_eq_some_iff.mp hpath with ⟨hkind, _⟩ | ⟨hkind, _⟩
      · -- A plain name has nothing below it and uses no API by itself.
        rw [h.placed.identifier_children hkind] at hnode
        rcases hnode with rfl | hnone
        · rw [usedPath?_of_identifier hkind] at hnodePath
          cases hnodePath
        · cases hnone
      · rcases hnode with rfl | hbelow
        · rcases usedPath?_cases hnodePath with ⟨_, hsame⟩ | ⟨hother, _⟩
          · rw [hpath, Option.some.injEq] at hsame
            exact Nat.le_of_eq (by rw [hsame])
          · rcases hother with hother | hother <;>
            · rw [hother] at hkind
              cases hkind
        · rcases h.mem_object_of_start_eq hkind hpath with
            ⟨object, before, hmem, hobjectStart, hbefore, hcount, hbelowObject⟩
          have hinObject := hbelowObject node hbelow hstart hnodeLt.left
          have hle := ih object hmem (h.child hmem) hbefore hinObject
            (hstart.trans hobjectStart.symm)
          omega

theorem WellPlaced.lt_or_shorter_below {tree : Tree} (h : tree.WellPlaced source)
    {path nodePath : List Char} {node : Tree} (hpath : tree.usedPath? source = some path)
    (hnode : node ∈ preorderAll tree.children)
    (hnodePath : node.usedPath? source = some nodePath) :
    tree.start < node.start ∨
      tree.start = node.start ∧ nodePath.count '.' < path.count '.' := by
  have hmem : node ∈ tree.preorder := by
    rw [preorder_eq_cons]
    exact List.mem_cons_of_mem _ hnode
  have hinside := h.inside hmem
  rcases Nat.lt_or_eq_of_le hinside.left with hlt | hstart
  · exact Or.inl hlt
  · right
    refine ⟨hstart, ?_⟩
    have hnodeLt := (h.of_mem_preorder hmem).lt_of_usedPath? hnodePath
    rcases usedPath?_cases hpath with
      ⟨hkind, hmember⟩ | ⟨hkind, callee, hcallee, hidentifier, hcalleePath⟩
    · rcases h.mem_object_of_start_eq hkind hmember with
        ⟨object, before, hobject, hobjectStart, hbefore, hcount, hbelowObject⟩
      have hinObject := hbelowObject node hnode hstart.symm hnodeLt.left
      have hle := (h.child hobject).count_le_of_path? hbefore hinObject
        (hstart.symm.trans hobjectStart.symm) hnodePath
      omega
    · rcases h.callee hkind hcallee with ⟨hchild, hcall, hconstruct⟩
      rcases hkind with hkind | hkind
      · -- A call begins with a plain name, which uses no API by itself.
        have hlt := (h.child hchild).lt_of_path? hcalleePath
        have hinCallee := h.mem_preorder_of_start_eq hchild (hcall hkind) hlt.left hnode
          hstart.symm hnodeLt.left
        rw [preorder_eq_cons, (h.child hchild).placed.identifier_children hidentifier,
          preorderAll, List.mem_singleton] at hinCallee
        rw [hinCallee, usedPath?_of_identifier hidentifier] at hnodePath
        cases hnodePath
      · -- Nothing below a construction begins before its first word ends.
        rcases mem_preorderAll_iff.mp hnode with ⟨child, hchild, hdeeper⟩
        have hlater := h.placed.construct_children hkind child hchild
        have hchildInside := (h.child hchild).inside hdeeper
        omega

/-!
## Order of the walk
-/

/--
Whether, of two nodes that use APIs, the second one begins later, or at the
same place with a shorter path.
-/
def Follows (source : List Char) (first second : Tree) : Prop :=
  ∀ path laterPath, first.usedPath? source = some path →
    second.usedPath? source = some laterPath →
      first.start < second.start ∨
        first.start = second.start ∧ partCount laterPath < partCount path

theorem WellPlaced.follows_below {tree : Tree} (h : tree.WellPlaced source) {node : Tree}
    (hnode : node ∈ preorderAll tree.children) : Follows source tree node := by
  intro path nodePath hpath hnodePath
  unfold partCount
  rcases h.lt_or_shorter_below hpath hnode hnodePath with hlt | ⟨hstart, hcount⟩
  · exact Or.inl hlt
  · exact Or.inr ⟨hstart, Nat.succ_lt_succ hcount⟩

theorem follows_of_stop_le {first second : Tree} (hfirst : first.WellPlaced source)
    (hsecond : second.WellPlaced source) (hle : first.stop ≤ second.start) {a b : Tree}
    (ha : a ∈ first.preorder) (hb : b ∈ second.preorder) : Follows source a b := by
  intro path laterPath hpath hlaterPath
  have hlt := (hfirst.of_mem_preorder ha).lt_of_usedPath? hpath
  have hinsideA := hfirst.inside ha
  have hinsideB := hsecond.inside hb
  left
  omega

theorem preorderAll_follows {trees : List Tree}
    (hplaced : ∀ tree ∈ trees, tree.WellPlaced source)
    (heach : ∀ tree ∈ trees, tree.preorder.Pairwise (Follows source))
    (hordered : trees.Pairwise fun first second => first.stop ≤ second.start) :
    (preorderAll trees).Pairwise (Follows source) := by
  induction trees with
  | nil =>
      exact List.Pairwise.nil
  | cons tree rest ih =>
      rw [List.pairwise_cons] at hordered
      rw [preorderAll, List.pairwise_append]
      refine ⟨heach tree List.mem_cons_self, ih ?_ ?_ hordered.right, ?_⟩
      · intro other hother
        exact hplaced other (List.mem_cons_of_mem _ hother)
      · intro other hother
        exact heach other (List.mem_cons_of_mem _ hother)
      · intro a ha b hb
        rcases mem_preorderAll_iff.mp hb with ⟨other, hother, hmem⟩
        exact follows_of_stop_le (hplaced tree List.mem_cons_self)
          (hplaced other (List.mem_cons_of_mem _ hother)) (hordered.left other hother) ha hmem

theorem WellPlaced.preorder_follows {tree : Tree} (h : tree.WellPlaced source) :
    tree.preorder.Pairwise (Follows source) := by
  induction tree using induction_on_children with
  | h tree ih =>
      rw [preorder_eq_cons, List.pairwise_cons]
      constructor
      · intro node hnode
        exact h.follows_below hnode
      · apply preorderAll_follows
        · intro child hchild
          exact h.child hchild
        · intro child hchild
          exact ih child hchild (h.child hchild)
        · exact h.placed.ordered

end Tree
end Script

/-!
## Order of the issues
-/

namespace Scan

open Script (Tree partCount)

theorem descriptor?_eq_some {base : KnowledgeBase} {source : List Char} {node : Tree}
    {descriptor : Knowledge.Descriptor} (h : descriptor? base source node = some descriptor) :
    ∃ path, node.usedPath? source = some path ∧ descriptor.api = String.ofList path := by
  rcases Option.bind_eq_some_iff.mp h with ⟨target, htarget, hrest⟩
  rcases Option.bind_eq_some_iff.mp hrest with ⟨path, hpath, hlookup⟩
  refine ⟨path, ?_, KnowledgeBase.api_of_lookup_eq_some hlookup⟩
  rw [Tree.usedPath?, htarget]
  exact hpath

theorem nodeIssue?_of_follows {base : KnowledgeBase} {file : String} {source : List Char}
    {first second : Tree} (hfirst : first.WellPlaced source)
    (hfollows : Tree.Follows source first second) {a b : Issue}
    (ha : nodeIssue? base file source first = some a)
    (hb : nodeIssue? base file source second = some b) :
    a.Precedes b ∨
      a.SamePlace b ∧ partCount b.api.toList < partCount a.api.toList := by
  rcases Option.map_eq_some_iff.mp ha with ⟨descriptorA, hdescriptorA, rfl⟩
  rcases Option.map_eq_some_iff.mp hb with ⟨descriptorB, hdescriptorB, rfl⟩
  rcases descriptor?_eq_some hdescriptorA with ⟨pathA, hpathA, hapiA⟩
  rcases descriptor?_eq_some hdescriptorB with ⟨pathB, hpathB, hapiB⟩
  rcases hfollows pathA pathB hpathA hpathB with hlt | ⟨hstart, hparts⟩
  · have hlength := (hfirst.lt_of_usedPath? hpathA).right
    exact Or.inl (precedes_issueAt hlt hlength file descriptorA descriptorB)
  · right
    constructor
    · rw [hstart]
      exact ⟨rfl, rfl⟩
    · show partCount descriptorB.api.toList < partCount descriptorA.api.toList
      rw [hapiA, hapiB, String.toList_ofList, String.toList_ofList]
      exact hparts

/--
The issues of a tree ascend by line and column.  At one place the paths of their
APIs get shorter, so no API is reported twice there.
-/
theorem tree_ordered_by_place_and_length (base : KnowledgeBase) (file source : String)
    (root : Tree) (h : root.WellPlaced source.toList) :
    ((tree base file source root).Pairwise fun a b =>
      a.Precedes b ∨
        a.SamePlace b ∧ partCount b.api.toList < partCount a.api.toList) ∧
      (tree base file source root).Pairwise fun a b =>
        ¬(a.line = b.line ∧ a.column = b.column ∧ a.api = b.api) := by
  have hordered : (tree base file source root).Pairwise fun a b =>
      a.Precedes b ∨
        a.SamePlace b ∧ partCount b.api.toList < partCount a.api.toList := by
    apply List.pairwise_filterMap.mpr
    refine List.Pairwise.imp_of_mem ?_ h.preorder_follows
    intro first second hfirst _ hfollows a ha b hb
    exact nodeIssue?_of_follows (h.of_mem_preorder hfirst) hfollows ha hb
  refine ⟨hordered, hordered.imp ?_⟩
  rintro a b hab ⟨hline, hcolumn, hapi⟩
  rcases hab with (hlt | ⟨_, hlt⟩) | ⟨_, hparts⟩
  · omega
  · omega
  · rw [hapi] at hparts
    exact Nat.lt_irrefl _ hparts

/-- The tree of the script `a.b.c(d)`. -/
def chainTree : Tree :=
  .node .program none 0 8 [
    .node .statement none 0 8 [
      .node .call none 0 8 [
        .node .member (some .callee) 0 5 [
          .node .member (some .object) 0 3 [
            .node .identifier (some .object) 0 1 [],
            .node .propertyName (some .property) 2 3 []],
          .node .propertyName (some .property) 4 5 []],
        .node .arguments none 5 8 [
          .node .identifier none 6 7 []]]]]

theorem chainTree_wellPlaced : chainTree.WellPlaced "a.b.c(d)".toList := by
  intro node hnode
  simp only [chainTree, Tree.preorder, Tree.preorderAll, List.append_nil, List.nil_append,
    List.cons_append, List.mem_cons, List.not_mem_nil, or_false] at hnode
  rcases hnode with rfl | rfl | rfl | rfl | rfl | rfl | rfl | rfl | rfl | rfl <;>
    constructor <;>
    simp [Tree.kind, Tree.field, Tree.start, Tree.stop, Tree.children, Tree.text, Script.slice,
      Tree.child?, Script.Kind.isMember]

def chainBase : KnowledgeBase :=
  .ofDescriptors (["a.b", "a.b.c"].map (Knowledge.Curated.deprecated "" "" ""))

theorem chainTree_issues :
    tree chainBase "chain.js" "a.b.c(d)" chainTree =
      ["a.b.c", "a.b"].map fun api =>
        issueAt "chain.js" "a.b.c(d)".toList (.ofOffset "a.b.c(d)".toList 0)
          (Knowledge.Curated.deprecated "" "" "" api) := by
  have hname : (Script.Tree.node .identifier (some .object) 0 1 []).path? "a.b.c(d)".toList =
      some ['a'] :=
    Tree.path?_eq_some_iff.mpr (.inl ⟨rfl, by decide⟩)
  have hshort : (Script.Tree.node .member (some .object) 0 3 [
        .node .identifier (some .object) 0 1 [],
        .node .propertyName (some .property) 2 3 []]).path? "a.b.c(d)".toList =
      some "a.b".toList :=
    Tree.path?_eq_some_iff.mpr (.inr ⟨rfl, _, _, _, rfl, rfl, hname, by decide⟩)
  have hlong : (Script.Tree.node .member (some .callee) 0 5 [
        .node .member (some .object) 0 3 [
          .node .identifier (some .object) 0 1 [],
          .node .propertyName (some .property) 2 3 []],
        .node .propertyName (some .property) 4 5 []]).path? "a.b.c(d)".toList =
      some "a.b.c".toList :=
    Tree.path?_eq_some_iff.mpr (.inr ⟨rfl, _, _, _, rfl, rfl, hshort, by decide⟩)
  simp only [tree, chainTree, Tree.preorder, Tree.preorderAll, List.append_nil, List.nil_append,
    List.cons_append]
  have hlookup : ∀ api ∈ ["a.b.c", "a.b"], chainBase.lookup (String.ofList api.toList) =
      some (Knowledge.Curated.deprecated "" "" "" api) := by
    decide
  -- Before the chain there is no use, and the nodes behind its two beginnings are none either.
  rw [List.filterMap_cons_none rfl, List.filterMap_cons_none rfl, List.filterMap_cons_none rfl,
    List.filterMap_cons, nodeIssue?_of_path? rfl hlong, hlookup "a.b.c" (by decide),
    List.filterMap_cons, nodeIssue?_of_path? rfl hshort, hlookup "a.b" (by decide)]
  rfl

theorem chainTree_issues_ordered :
    chainTree.WellPlaced "a.b.c(d)".toList ∧
      (tree chainBase "chain.js" "a.b.c(d)" chainTree).map
          (fun issue => (issue.line, issue.column, issue.api)) =
        [(1, 0, "a.b.c"), (1, 0, "a.b")] ∧
      ((tree chainBase "chain.js" "a.b.c(d)" chainTree).Pairwise fun a b =>
        a.Precedes b ∨
          a.SamePlace b ∧ partCount b.api.toList < partCount a.api.toList) ∧
      (tree chainBase "chain.js" "a.b.c(d)" chainTree).Pairwise fun a b =>
        ¬(a.line = b.line ∧ a.column = b.column ∧ a.api = b.api) := by
  refine ⟨chainTree_wellPlaced, by rw [chainTree_issues]; decide, ?_⟩
  exact tree_ordered_by_place_and_length chainBase "chain.js" "a.b.c(d)" chainTree
    chainTree_wellPlaced

end Scan
end WebCompat
