import WebCompat.Proofs.Scan.PlainOrder
import WebCompat.Proofs.Scan.TreeOrder

/-!
# Issues of a tree in the plain text

A source without a tree is searched as plain text instead.  This loses no issue
of a tree whose API is written out in the source: the line, the column and the
context that the tree gives by rows and bytes are those that the search gives by
lines and offsets.
-/

namespace WebCompat
namespace Script
namespace Tree

open Text (Position firstLine lastLine)

/-- Whether all calls of a tree begin where the expressions that they call begin. -/
def CallsBeginWithCallee (tree : Tree) : Prop :=
  ∀ node ∈ tree.preorder, node.kind = .call → ∀ callee, node.child? .callee = some callee →
    callee.start = node.start

theorem WellPlaced.callsBeginWithCallee {source : List Char} {tree : Tree}
    (h : tree.WellPlaced source) : tree.CallsBeginWithCallee := by
  intro node hnode
  exact (h node hnode).call_callee

/--
Whether a node is written in the source as nothing but the given path, on one
line and as a word of its own.
-/
structure WrittenOut (source : List Char) (tree : Tree) (path : List Char) : Prop where
  text : tree.text source = path
  unbroken : '\n' ∉ path
  first : path.head?.any Text.isWord = true
  last : path.getLast?.any Text.isWord = true
  before : (source.take tree.start).getLast?.any Text.isWord = false
  behind : (source.drop tree.stop).head?.any Text.isWord = false

namespace WrittenOut

variable {source path : List Char} {tree : Tree}

theorem path_ne_nil (h : tree.WrittenOut source path) : path ≠ [] := by
  intro hnil
  have hfirst := h.first
  rw [hnil] at hfirst
  cases hfirst

theorem drop_start_eq (h : tree.WrittenOut source path) :
    source.drop tree.start = path ++ source.drop tree.stop := by
  have hne : tree.text source ≠ [] := by
    rw [h.text]
    exact h.path_ne_nil
  have hlt := (lt_of_text_ne_nil hne).left
  have hsplit := List.take_append_drop (tree.stop - tree.start) (source.drop tree.start)
  rw [List.drop_drop, Nat.add_sub_of_le (Nat.le_of_lt hlt)] at hsplit
  rw [← h.text]
  exact hsplit.symm

theorem getElem?_lines (h : tree.WrittenOut source path) :
    (Text.lines source)[(Position.ofOffset source tree.start).row]? =
      some (lastLine (source.take tree.start) ++ (path ++ firstLine (source.drop tree.stop))) := by
  rw [Position.getElem?_lines_ofOffset, h.drop_start_eq,
    Text.firstLine_append_of_notMem h.unbroken]

theorem occursAt (h : tree.WrittenOut source path) :
    Text.occursAt path (lastLine (source.take tree.start)).getLast?
      (path ++ firstLine (source.drop tree.stop)) = true := by
  apply Text.occursAt_append h.first h.last
  · rw [Text.getLast?_lastLine]
    exact Text.any_filter_eq_false h.before
  · rw [Text.head?_firstLine]
    exact Text.any_filter_eq_false h.behind

end WrittenOut

theorem start_eq_of_target? {node target : Tree} (htarget : node.target? = some target)
    (hkind : node.kind.isMember = true ∨ node.kind = .call)
    (hcallee : node.kind = .call → ∀ callee, node.child? .callee = some callee →
      callee.start = node.start) : target.start = node.start := by
  unfold target? at htarget
  split at htarget
  · cases htarget
    rfl
  · cases htarget
    rfl
  · rename_i hcall
    exact hcallee hcall target (Option.filter_eq_some_iff.mp htarget).left
  · rename_i hconstruct
    rw [hconstruct] at hkind
    rcases hkind with hkind | hkind <;> cases hkind
  · cases htarget

end Tree
end Script

/-!
# The search reaches what a tree shows

A path that is written out is found where it stands, unless a hit in front of it
reaches over that place.
-/

namespace Scan

open Script (Tree)
open Text (Position utf8Length)

/-- Whether no earlier hit of an API on the line of a place reaches over that place. -/
def Unobstructed (base : KnowledgeBase) (source : List Char) (place : Position) (api : String) :
    Prop :=
  ∀ line, (Text.lines source)[place.row]? = some line → ∀ hit ∈ base.hits line, hit.api = api →
    hit.offset < place.byteColumn → hit.offset + utf8Length api.toList ≤ place.byteColumn

theorem lookup_api_of_descriptor? {base : KnowledgeBase} {source : List Char} {node : Tree}
    {descriptor : Knowledge.Descriptor} (h : descriptor? base source node = some descriptor) :
    base.lookup descriptor.api = some descriptor := by
  rcases Option.bind_eq_some_iff.mp h with ⟨target, _, hrest⟩
  rcases Option.bind_eq_some_iff.mp hrest with ⟨path, _, hlookup⟩
  rw [KnowledgeBase.api_of_lookup_eq_some hlookup, hlookup]

theorem mem_occurrences_of_writtenOut {base : KnowledgeBase} {source : List Char} {target : Tree}
    {api : String} {descriptor : Knowledge.Descriptor}
    (hlookup : base.lookup api = some descriptor) (hwritten : target.WrittenOut source api.toList)
    (hclear : Unobstructed base source (.ofOffset source target.start) api) {line : List Char}
    (hline : (Text.lines source)[(Position.ofOffset source target.start).row]? = some line) :
    (Position.ofOffset source target.start).byteColumn ∈ Text.occurrences api.toList line := by
  have hparts := hwritten.getElem?_lines
  rw [hline, Option.some.injEq] at hparts
  have hcolumn := Position.byteColumn_ofOffset source target.start
  have hearlier := hclear line hline
  rw [hcolumn] at hearlier ⊢
  rw [hparts] at hearlier ⊢
  apply Text.mem_occurrences_of_occursAt hwritten.path_ne_nil hwritten.occursAt
  intro found hfound hlt
  have hhit : (⟨found, api⟩ : Hit) ∈ base.hits _ :=
    mem_hits_iff.mpr ⟨KnowledgeBase.mem_apis_of_lookup_eq_some hlookup, hfound⟩
  exact hearlier ⟨found, api⟩ hhit rfl hlt

theorem hitIssue?_eq_issueAt {base : KnowledgeBase} {file : String} {source line : List Char}
    {place : Position} {api : String} {descriptor : Knowledge.Descriptor}
    (hlookup : base.lookup api = some descriptor)
    (hline : (Text.lines source)[place.row]? = some line) :
    hitIssue? base file (place.row + 1) line ⟨place.byteColumn, api⟩ =
      some (issueAt file source place descriptor) := by
  rw [hitIssue?, hlookup, issueAt, hline]
  rfl

/--
An issue that a tree gives for a member access or a call whose API is written out
is found in the plain text, too, and is the same in all respects.
-/
theorem mem_plain_of_written_out (base : KnowledgeBase) (file source : String) (root : Tree)
    (hcalls : root.CallsBeginWithCallee) (node : Tree) (hnode : node ∈ root.preorder)
    (hkind : node.kind.isMember = true ∨ node.kind = .call) (issue : Issue)
    (hissue : nodeIssue? base file source.toList node = some issue) (target : Tree)
    (htarget : node.target? = some target)
    (hwritten : target.WrittenOut source.toList issue.api.toList)
    (hclear : Unobstructed base source.toList (.ofOffset source.toList node.start) issue.api) :
    issue ∈ tree base file source root ∧ issue ∈ plain base file source := by
  refine ⟨List.mem_filterMap.mpr ⟨node, hnode, hissue⟩, ?_⟩
  rcases Option.map_eq_some_iff.mp hissue with ⟨descriptor, hdescriptor, rfl⟩
  change target.WrittenOut source.toList descriptor.api.toList at hwritten
  change Unobstructed base source.toList _ descriptor.api at hclear
  -- The tree reports the place of the node, and the search that of the path: both are one.
  have hstart := Tree.start_eq_of_target? htarget hkind (hcalls node hnode)
  rw [← hstart] at hclear ⊢
  have hlookup := lookup_api_of_descriptor? hdescriptor
  have hline := hwritten.getElem?_lines
  apply mem_plain_iff.mpr
  refine ⟨_, _, hline, mem_line_iff.mpr ?_⟩
  refine ⟨⟨(Position.ofOffset source.toList target.start).byteColumn, descriptor.api⟩, ?_, ?_⟩
  · exact mem_occurrences_of_writtenOut hlookup hwritten hclear hline
  · exact hitIssue?_eq_issueAt hlookup hline

/-! # A call behind characters of several bytes -/

def accentScript : String :=
  "'é';\n'é' + f(d)"

def accentCallee : Tree :=
  .node .identifier (some .callee) 11 12 []

def accentCall : Tree :=
  .node .call none 11 15 [
    accentCallee,
    .node .arguments none 12 15 [.node .identifier none 13 14 []]]

def accentTree : Tree :=
  .node .program none 0 15 [
    .node .statement none 0 4 [.node .literal none 0 3 []],
    .node .statement none 5 15 [
      .node .binary none 5 15 [.node .literal none 5 8 [], accentCall]]]

def accentBase : KnowledgeBase :=
  .ofDescriptors [Knowledge.Curated.deprecated "" "" "" "f"]

theorem accentTree_wellPlaced : accentTree.WellPlaced accentScript.toList := by
  intro node hnode
  simp only [accentTree, accentCall, accentCallee, Tree.preorder, Tree.preorderAll, List.append_nil,
    List.nil_append, List.cons_append, List.mem_cons, List.not_mem_nil, or_false] at hnode
  rcases hnode with rfl | rfl | rfl | rfl | rfl | rfl | rfl | rfl | rfl | rfl <;>
    constructor <;>
    simp [Tree.kind, Tree.field, Tree.start, Tree.stop, Tree.children, Tree.text, Script.slice,
      Tree.child?, Script.Kind.isMember, accentScript]

theorem accentCall_unobstructed :
    Unobstructed accentBase accentScript.toList (.ofOffset accentScript.toList 11) "f" := by
  intro line hline
  have hsecond : (Text.lines accentScript.toList)[1]? = some "'é' + f(d)".toList := by
    decide
  cases hsecond.symm.trans hline
  decide

theorem nodeIssue?_accentCall :
    nodeIssue? accentBase "accent.js" accentScript.toList accentCall =
      some (issueAt "accent.js" accentScript.toList (.ofOffset accentScript.toList 11)
        (Knowledge.Curated.deprecated "" "" "" "f")) := by
  have hpath : accentCallee.path? accentScript.toList = some ['f'] :=
    Tree.path?_eq_some_iff.mpr (Or.inl ⟨rfl, by decide⟩)
  have htarget : accentCall.target? = some accentCallee :=
    rfl
  have hlookup : accentBase.lookup (String.ofList ['f']) =
      some (Knowledge.Curated.deprecated "" "" "" "f") := by
    decide
  rw [nodeIssue?_of_path? htarget hpath, hlookup]
  rfl

theorem accentCall_found_in_plain_text :
    ∃ issue, nodeIssue? accentBase "accent.js" accentScript.toList accentCall = some issue ∧
      (issue.line, issue.column, issue.api) = (2, 6, "f") ∧
        issue ∈ tree accentBase "accent.js" accentScript accentTree ∧
          issue ∈ plain accentBase "accent.js" accentScript := by
  refine ⟨_, nodeIssue?_accentCall, by decide, ?_⟩
  apply mem_plain_of_written_out accentBase "accent.js" accentScript accentTree
    accentTree_wellPlaced.callsBeginWithCallee accentCall _ (Or.inr rfl) _ nodeIssue?_accentCall
    accentCallee rfl
  · constructor <;> decide
  · exact accentCall_unobstructed
  · simp [accentTree, accentCall, accentCallee, Tree.preorder, Tree.preorderAll]

end Scan
end WebCompat
