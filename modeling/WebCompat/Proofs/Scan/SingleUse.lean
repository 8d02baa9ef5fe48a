import WebCompat.Proofs.Knowledge.Base
import WebCompat.Proofs.Scan.Place
import WebCompat.Proofs.Script.Names

/-!
# Reports of a single use

A call or a construction names its callee by a chain of names.  The walk meets
all member accesses of the chain, the longest first, and all of them begin with
the first name.  The call counts by itself only where the chain is one name.
So a use is reported once, and once more for each shorter chain of at least two
names that is known to be problematic too.
-/

namespace WebCompat
namespace Script

def Kind.mayUse : Kind → Bool
  | .member | .queriedMember | .call | .construct => true
  | _ => false

namespace Tree

variable {source : List Char} {tree : Tree} {names : List (List Char)}

/-- Whether nothing in a tree may use an API. -/
def IsInert (tree : Tree) : Prop :=
  ∀ node ∈ tree.preorder, node.kind.mayUse = false

instance (tree : Tree) : Decidable tree.IsInert :=
  inferInstanceAs (Decidable (∀ node ∈ tree.preorder, node.kind.mayUse = false))

/-- Whether a node has the given child and nothing beside it may use an API. -/
def HasOnly (tree child : Tree) : Prop :=
  ∃ front back, tree.children = front ++ child :: back ∧
    ∀ other ∈ front ++ back, other.IsInert

/-- Whether a node is a chain of names, each but the first one looked up in what stands before. -/
inductive IsChain (source : List Char) : Tree → List (List Char) → Prop
  | name {tree : Tree} :
      tree.kind = .identifier → tree.IsInert → IsChain source tree [tree.text source]
  | member {tree object property : Tree} {names : List (List Char)} :
      tree.kind.isMember = true →
      tree.child? .object = some object → tree.child? .property = some property →
      tree.HasOnly object → object.start = tree.start →
      IsChain source object names →
      IsChain source tree (names ++ [property.text source])

/-- A call or a construction of which only the callee, a chain of names, may use an API. -/
structure IsUse (source : List Char) (use callee : Tree) (names : List (List Char)) : Prop where
  kind : use.kind = .call ∨ use.kind = .construct
  child : use.child? .callee = some callee
  only : use.HasOnly callee
  chain : IsChain source callee names

/-- Whether nothing around a node of a tree may use an API. -/
inductive LoneIn (use : Tree) : Tree → Prop
  | here : LoneIn use use
  | inside {root child : Tree} :
      root.kind.mayUse = false → root.HasOnly child → LoneIn use child → LoneIn use root

theorem preorderAll_append (first second : List Tree) :
    preorderAll (first ++ second) = preorderAll first ++ preorderAll second := by
  induction first with
  | nil =>
      rfl
  | cons tree rest ih =>
      rw [List.cons_append, preorderAll, preorderAll, ih, List.append_assoc]

theorem target?_of_mayUse_eq_false (h : tree.kind.mayUse = false) : tree.target? = none := by
  unfold target?
  split <;> simp_all [Kind.mayUse]

theorem target?_of_isMember (h : tree.kind.isMember = true) : tree.target? = some tree := by
  unfold Kind.isMember at h
  split at h <;> simp_all [target?]

theorem IsUse.target? {use callee : Tree} (h : use.IsUse source callee names) :
    use.target? = if callee.kind = .identifier then some callee else none := by
  rcases h.kind with hkind | hkind <;> simp [Tree.target?, hkind, h.child, Option.filter]

/-!
## Chains of names
-/

/-- The beginnings of a row of names that have at least two names, the longest first. -/
def beginnings (names : List (List Char)) : List (List (List Char)) :=
  (List.range' 2 (names.length - 1)).reverse.map names.take

theorem beginnings_concat (hnames : names ≠ []) (name : List Char) :
    beginnings (names ++ [name]) = (names ++ [name]) :: beginnings names := by
  have hpos : 0 < names.length := List.length_pos_iff.mpr hnames
  have hlength : (names ++ [name]).length = names.length + 1 := List.length_append
  have hcounts : List.range' 2 names.length =
      List.range' 2 (names.length - 1) ++ [names.length + 1] := by
    have hlast : 2 + (names.length - 1) = names.length + 1 := by omega
    rw [← hlast, ← List.range'_1_concat, Nat.sub_add_cancel hpos]
  have hshorter : ∀ count ∈ (List.range' 2 (names.length - 1)).reverse,
      (names ++ [name]).take count = names.take count := by
    intro count hcount
    rw [List.mem_reverse, List.mem_range'_1] at hcount
    exact List.take_append_of_le_length (by omega)
  rw [beginnings, hlength, Nat.add_sub_cancel, hcounts, List.reverse_concat, List.map_cons,
    List.take_of_length_le (Nat.le_of_eq hlength), List.map_congr_left hshorter, beginnings]

namespace IsChain

theorem spells (h : IsChain source tree names) : tree.Spells source names := by
  induction h with
  | name hkind _ =>
      exact .name hkind
  | member hkind hobject hproperty _ _ _ ih =>
      exact .member hkind hobject hproperty ih

theorem ne_nil (h : IsChain source tree names) : names ≠ [] :=
  h.spells.ne_nil

theorem path? (h : IsChain source tree names) :
    tree.path? source = some (['.'].intercalate names) :=
  h.spells.path?

theorem kind_eq_identifier_iff (h : IsChain source tree names) :
    tree.kind = .identifier ↔ names.length = 1 :=
  h.spells.kind_eq_identifier_iff

end IsChain
end Tree
end Script

namespace Scan

open Script (Tree)
open Text (Position)

variable {base : KnowledgeBase} {file source : String} {names : List (List Char)}

def dotted (names : List (List Char)) : String :=
  String.ofList (['.'].intercalate names)

def reportAt (base : KnowledgeBase) (file : String) (source : List Char) (start : Nat)
    (names : List (List Char)) : Option Issue :=
  (base.lookup (dotted names)).map (issueAt file source (.ofOffset source start))

theorem isSome_reportAt (base : KnowledgeBase) (file : String) (source : List Char) (start : Nat)
    (names : List (List Char)) :
    (reportAt base file source start names).isSome = base.contains (dotted names) := by
  rw [reportAt, Option.isSome_map, KnowledgeBase.contains_eq_isSome_lookup]

theorem place_of_mem_reportAt {source : List Char} {start : Nat} {issue : Issue}
    (h : issue ∈ reportAt base file source start names) :
    issue.api = dotted names ∧
      issue.line = (Position.ofOffset source start).row + 1 ∧
        issue.column = Position.column16 source start := by
  rcases Option.map_eq_some_iff.mp h with ⟨descriptor, hlookup, rfl⟩
  refine ⟨KnowledgeBase.api_of_lookup_eq_some hlookup, ?_, ?_⟩
  · exact line_issueAt file source start descriptor
  · exact column_issueAt file source start descriptor

/-!
## Where the issues of a tree come from
-/

theorem nodeIssue?_of_mayUse_eq_false {source : List Char} {node : Tree}
    (h : node.kind.mayUse = false) : nodeIssue? base file source node = none := by
  rw [nodeIssue?, descriptor?, Tree.target?_of_mayUse_eq_false h]
  rfl

theorem nodeIssue?_of_target? {source : List Char} {node target : Tree}
    (htarget : node.target? = some target) (hchain : target.IsChain source names) :
    nodeIssue? base file source node = reportAt base file source node.start names := by
  rw [nodeIssue?_of_path? htarget hchain.path?]
  rfl

theorem filterMap_preorderAll_of_isInert {source : List Char} {trees : List Tree}
    (h : ∀ tree ∈ trees, tree.IsInert) :
    (Tree.preorderAll trees).filterMap (nodeIssue? base file source) = [] := by
  apply List.filterMap_eq_nil_iff.mpr
  intro node hnode
  rcases Tree.mem_preorderAll_iff.mp hnode with ⟨tree, htree, hmem⟩
  exact nodeIssue?_of_mayUse_eq_false (h tree htree node hmem)

theorem tree_of_isInert {root : Tree} (h : root.IsInert) : tree base file source root = [] := by
  apply List.filterMap_eq_nil_iff.mpr
  intro node hnode
  exact nodeIssue?_of_mayUse_eq_false (h node hnode)

theorem tree_of_hasOnly {root child : Tree} (h : root.HasOnly child) :
    tree base file source root =
      (nodeIssue? base file source.toList root).toList ++ tree base file source child := by
  rcases h with ⟨front, back, hchildren, hinert⟩
  have hbelow : (Tree.preorderAll root.children).filterMap (nodeIssue? base file source.toList) =
      tree base file source child := by
    have hfront : ∀ other ∈ front, other.IsInert := by
      intro other hother
      exact hinert other (List.mem_append_left back hother)
    have hback : ∀ other ∈ back, other.IsInert := by
      intro other hother
      exact hinert other (List.mem_append_right front hother)
    rw [hchildren, Tree.preorderAll_append, Tree.preorderAll, List.filterMap_append,
      List.filterMap_append, filterMap_preorderAll_of_isInert hfront,
      filterMap_preorderAll_of_isInert hback, List.append_nil, List.nil_append, tree]
  rw [tree, Tree.preorder_eq_cons, List.filterMap_eq_flatMap_toList, List.flatMap_cons,
    ← List.filterMap_eq_flatMap_toList, hbelow]

theorem tree_of_loneIn {use root : Tree} (h : use.LoneIn root) :
    tree base file source root = tree base file source use := by
  induction h with
  | here =>
      rfl
  | inside hkind honly _ ih =>
      rw [tree_of_hasOnly honly, nodeIssue?_of_mayUse_eq_false hkind, ih]
      rfl

theorem tree_of_isChain {callee : Tree} (h : callee.IsChain source.toList names) :
    tree base file source callee =
      (Tree.beginnings names).filterMap (reportAt base file source.toList callee.start) := by
  induction h with
  | name _ hinert =>
      rw [tree_of_isInert hinert]
      rfl
  | member hkind hobject hproperty honly hstart hchain ih =>
      have hwhole := Tree.IsChain.member hkind hobject hproperty honly hstart hchain
      rw [tree_of_hasOnly honly, nodeIssue?_of_target? (Tree.target?_of_isMember hkind) hwhole, ih,
        hstart, Tree.beginnings_concat hchain.ne_nil, List.filterMap_eq_flatMap_toList,
        List.filterMap_eq_flatMap_toList, List.flatMap_cons]

theorem nodeIssue?_of_isUse {use callee : Tree} (h : use.IsUse source.toList callee names) :
    nodeIssue? base file source.toList use =
      if names.length = 1 then reportAt base file source.toList use.start names else none := by
  have htarget := h.target?
  split
  · rename_i hsingle
    rw [if_pos (h.chain.kind_eq_identifier_iff.mpr hsingle)] at htarget
    exact nodeIssue?_of_target? htarget h.chain
  · rename_i hlonger
    rw [if_neg (mt h.chain.kind_eq_identifier_iff.mp hlonger)] at htarget
    rw [nodeIssue?, descriptor?, htarget]
    rfl

/--
A single use whose callee is one name is reported where the use begins, if the
name is known.  With more names, each beginning of the chain of at least two
names that is known is reported once, the longest first, where the chain begins.
-/
theorem tree_of_single_use (base : KnowledgeBase) (file source : String)
    {root use callee : Tree} {names : List (List Char)} (hlone : use.LoneIn root)
    (huse : use.IsUse source.toList callee names) :
    (names.length = 1 →
      tree base file source root =
        (reportAt base file source.toList use.start names).toList) ∧
    (2 ≤ names.length →
      tree base file source root =
        (List.range' 2 (names.length - 1)).reverse.filterMap fun count =>
          reportAt base file source.toList callee.start (names.take count)) ∧
    ∀ start row,
      (reportAt base file source.toList start row).isSome = base.contains (dotted row) ∧
        ∀ issue ∈ reportAt base file source.toList start row,
          issue.api = dotted row ∧
            issue.line = (Position.ofOffset source.toList start).row + 1 ∧
              issue.column = Position.column16 source.toList start := by
  have hissues : tree base file source root =
      (nodeIssue? base file source.toList use).toList ++
        (Tree.beginnings names).filterMap (reportAt base file source.toList callee.start) := by
    rw [tree_of_loneIn hlone, tree_of_hasOnly huse.only, tree_of_isChain huse.chain]
  refine ⟨?_, ?_, ?_⟩
  · intro hsingle
    rw [hissues, nodeIssue?_of_isUse huse, if_pos hsingle, Tree.beginnings, hsingle]
    exact List.append_nil _
  · intro hlonger
    rw [hissues, nodeIssue?_of_isUse huse, if_neg (by omega), Tree.beginnings,
      List.filterMap_map]
    rfl
  · intro start row
    refine ⟨isSome_reportAt base file source.toList start row, ?_⟩
    intro issue hissue
    exact place_of_mem_reportAt hissue

def constructedChain : Tree :=
  .node .member (some .callee) 4 9 [
    .node .member (some .object) 4 7 [
      .node .identifier (some .object) 4 5 [],
      .node .propertyName (some .property) 6 7 []],
    .node .propertyName (some .property) 8 9 []]

def construction : Tree :=
  .node .construct none 0 12 [
    constructedChain,
    .node .arguments none 9 12 [
      .node .identifier none 10 11 []]]

/-- The tree of the script `new a.b.c(d)`. -/
def constructionTree : Tree :=
  .node .program none 0 12 [.node .statement none 0 12 [construction]]

def constructionBase : KnowledgeBase :=
  .ofDescriptors (["a", "a.b", "a.b.c", "d"].map (Knowledge.Curated.deprecated "" "" ""))

theorem construction_loneIn : construction.LoneIn constructionTree :=
  .inside rfl ⟨[], [], rfl, nofun⟩ (.inside rfl ⟨[], [], rfl, nofun⟩ .here)

theorem constructedChain_isChain :
    constructedChain.IsChain "new a.b.c(d)".toList [['a'], ['b'], ['c']] := by
  refine @Tree.IsChain.member _ _ _ (.node .propertyName (some .property) 8 9 []) [['a'], ['b']]
    rfl rfl rfl ⟨[], _, rfl, by decide⟩ rfl ?_
  refine @Tree.IsChain.member _ _ _ (.node .propertyName (some .property) 6 7 []) [['a']]
    rfl rfl rfl ⟨[], _, rfl, by decide⟩ rfl ?_
  exact .name rfl (by decide)

theorem construction_isUse :
    construction.IsUse "new a.b.c(d)".toList constructedChain [['a'], ['b'], ['c']] where
  kind := .inr rfl
  child := rfl
  only := ⟨[], _, rfl, by decide⟩
  chain := constructedChain_isChain

/-- The tree of the expression `d(a)`. -/
def plainCall : Tree :=
  .node .call none 0 4 [
    .node .identifier (some .callee) 0 1 [],
    .node .arguments none 1 4 [
      .node .identifier none 2 3 []]]

theorem plainCall_isUse :
    plainCall.IsUse "d(a)".toList (.node .identifier (some .callee) 0 1 []) [['d']] where
  kind := .inl rfl
  child := rfl
  only := ⟨[], _, rfl, by decide⟩
  chain := .name rfl (by decide)

theorem construction_and_plainCall_reported :
    construction.LoneIn constructionTree ∧
      construction.IsUse "new a.b.c(d)".toList constructedChain [['a'], ['b'], ['c']] ∧
      tree constructionBase "new.js" "new a.b.c(d)" constructionTree =
        [3, 2].filterMap (fun count =>
          reportAt constructionBase "new.js" "new a.b.c(d)".toList 4
            ([['a'], ['b'], ['c']].take count)) ∧
      (tree constructionBase "new.js" "new a.b.c(d)" constructionTree).map
          (fun issue => (issue.line, issue.column, issue.api)) =
        [(1, 4, "a.b.c"), (1, 4, "a.b")] ∧
      plainCall.IsUse "d(a)".toList (.node .identifier (some .callee) 0 1 []) [['d']] ∧
      tree constructionBase "call.js" "d(a)" plainCall =
        (reportAt constructionBase "call.js" "d(a)".toList 0 [['d']]).toList ∧
      (tree constructionBase "call.js" "d(a)" plainCall).map
          (fun issue => (issue.line, issue.column, issue.api)) =
        [(1, 0, "d")] := by
  have hnew := (tree_of_single_use constructionBase "new.js" "new a.b.c(d)" construction_loneIn
    construction_isUse).right.left (by decide)
  have hcall :=
    (tree_of_single_use constructionBase "call.js" "d(a)" .here plainCall_isUse).left rfl
  refine ⟨construction_loneIn, construction_isUse, hnew, ?_, plainCall_isUse, hcall, ?_⟩
  · rw [hnew]
    decide +kernel
  · rw [hcall]
    decide +kernel

end Scan
end WebCompat
