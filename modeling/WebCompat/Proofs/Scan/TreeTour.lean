import WebCompat.Proofs.Scan.Place
import WebCompat.Proofs.Script.Tour

/-!
# The tour of a scan

The issues of a tree are gathered on a tour of its nodes.  The tour ends, whatever
the shape of the tree, with each node visited once and in preorder, and never
leaves the tree that it was begun on, even where that is a part of a larger one.
-/

namespace WebCompat
namespace Scan

open Script (Address TreeCursor Moves Tour Tree)

def report {κ : Type} (moves : Moves κ) (base : KnowledgeBase) (file : String)
    (source : List Char) (issues : List Issue) (cursor : κ) : List Issue :=
  issues ++ (nodeIssue? base file source (moves.node cursor)).toList

theorem foldl_report {κ : Type} (moves : Moves κ) (base : KnowledgeBase) (file : String)
    (source : List Char) (issues : List Issue) (visited : List κ) :
    visited.foldl (report moves base file source) issues =
      issues ++ (visited.map moves.node).filterMap (nodeIssue? base file source) := by
  induction visited generalizing issues with
  | nil =>
      rw [List.foldl_nil, List.map_nil, List.filterMap_nil, List.append_nil]
  | cons cursor rest ih =>
      rw [List.foldl_cons, ih, report, List.append_assoc, List.map_cons, List.filterMap_cons]
      cases nodeIssue? base file source (moves.node cursor) <;> rfl

/--
The tour of a cursor that is created on a node is over after at most two turns for
each node from there on.  It visits each of them exactly once, in preorder, and
never leaves the subtree.  With reports as visits, it leaves the issues of the tree.
-/
theorem tour_visits_each_node_once {κ : Type} (moves : Moves κ) (whole : Tree)
    (origin : Address) (place : κ → Address) (h : moves.Follow whole origin place) (start : κ)
    (hstart : place start = origin) :
    ∃ visited : List κ,
      (∀ {σ : Type} (visit : σ → κ → σ) (seen : σ) (limit : Nat), 2 * visited.length ≤ limit →
        Tour.finish? moves visit limit (.startAt start seen) =
          some (visited.foldl visit seen)) ∧
      visited.map moves.node = (moves.node start).preorder ∧
      (visited.map place).Pairwise (· < ·) ∧
      (∀ address, address ∈ visited.map place ↔
        origin <+: address ∧ (whole.at? address).isSome = true) ∧
      (∀ {σ : Type} (visit : σ → κ → σ) (seen : σ) (later : Tour κ σ),
        Tour.Reaches moves visit (.startAt start seen) later →
          origin <+: place later.cursor) ∧
      ∀ (base : KnowledgeBase) (file source : String) (limit : Nat),
        2 * visited.length ≤ limit →
          Tour.finish? moves (report moves base file source.toList) limit (.startAt start []) =
            some (tree base file source (moves.node start)) := by
  have hbelow : origin <+: place start := hstart ▸ List.prefix_rfl
  rcases Tour.coversBelow h rfl hbelow with ⟨visited, back, turns, hback, hturns, hcovers⟩
  have hfinish : ∀ {σ : Type} (visit : σ → κ → σ) (seen : σ) (limit : Nat),
      2 * visited.length ≤ limit →
        Tour.finish? moves visit limit (.startAt start seen) =
          some (visited.foldl visit seen) := by
    intro σ visit seen limit hlimit
    rcases h.stays back (hback.trans hstart) with ⟨hsibling, hparent⟩
    obtain ⟨spare, rfl⟩ : ∃ spare, limit = spare + 1 + turns := ⟨limit - turns - 1, by omega⟩
    rw [Tour.startAt, hcovers.finish?, Tour.finish?_over hsibling hparent]
  refine ⟨visited, hfinish, hcovers.nodes, ?_, ?_, ?_, ?_⟩
  · rw [hcovers.places]
    exact Tree.map_append_addresses_ascending _ _
  · intro address
    have hnode := h.node start
    rw [hstart] at hnode
    rw [hcovers.places, hstart]
    exact Tree.mem_map_append_addresses_iff hnode
  · intro σ visit seen later hreaches
    exact Tour.isPrefix_place_of_reaches h hbelow hreaches
  · intro base file source limit hlimit
    rw [hfinish _ _ limit hlimit, foldl_report, hcovers.nodes, List.nil_append, tree]

/-! # A tour of the first of two statements -/

/-- The tree of the script `f(a.b); g`. -/
def twoStatements : Tree :=
  .node .program none 0 9 [
    .node .statement none 0 7 [
      .node .call none 0 6 [
        .node .identifier (some .callee) 0 1 [],
        .node .arguments none 1 6 [
          .node .member none 2 5 [
            .node .identifier (some .object) 2 3 [],
            .node .propertyName (some .property) 4 5 []]]]],
    .node .statement none 8 9 [.node .identifier none 8 9 []]]

def firstStatement : TreeCursor twoStatements [0] where
  place := [0]
  node := .node .statement none 0 7 [
    .node .call none 0 6 [
      .node .identifier (some .callee) 0 1 [],
      .node .arguments none 1 6 [
        .node .member none 2 5 [
          .node .identifier (some .object) 2 3 [],
          .node .propertyName (some .property) 4 5 []]]]]
  isAt := rfl
  isBelow := List.prefix_rfl

def argumentBase : KnowledgeBase :=
  .ofDescriptors [Knowledge.Curated.deprecated "" "" "" "a.b"]

theorem tree_firstStatement :
    tree argumentBase "two.js" "f(a.b); g" firstStatement.node =
      [issueAt "two.js" "f(a.b); g".toList (.ofOffset "f(a.b); g".toList 2)
        (Knowledge.Curated.deprecated "" "" "" "a.b")] := by
  have hcallee : (Script.Tree.node .identifier (some .callee) 0 1 []).path? "f(a.b); g".toList =
      some ['f'] :=
    Tree.path?_eq_some_iff.mpr (.inl ⟨rfl, by decide⟩)
  have hobject : (Script.Tree.node .identifier (some .object) 2 3 []).path? "f(a.b); g".toList =
      some ['a'] :=
    Tree.path?_eq_some_iff.mpr (.inl ⟨rfl, by decide⟩)
  have hargument : (Script.Tree.node .member none 2 5 [
        .node .identifier (some .object) 2 3 [],
        .node .propertyName (some .property) 4 5 []]).path? "f(a.b); g".toList =
      some "a.b".toList :=
    Tree.path?_eq_some_iff.mpr (.inr ⟨rfl, _, _, _, rfl, rfl, hobject, by decide⟩)
  have hunknown : argumentBase.lookup (String.ofList ['f']) = none := by
    decide
  have hknown : argumentBase.lookup (String.ofList "a.b".toList) =
      some (Knowledge.Curated.deprecated "" "" "" "a.b") := by
    decide
  simp only [tree, firstStatement, Tree.preorder, Tree.preorderAll, List.append_nil,
    List.nil_append, List.cons_append]
  rw [List.filterMap_cons_none rfl, List.filterMap_cons, nodeIssue?_of_path? rfl hcallee,
    hunknown, List.filterMap_cons_none rfl, List.filterMap_cons_none rfl, List.filterMap_cons,
    nodeIssue?_of_path? rfl hargument, hknown]
  rfl

theorem firstStatement_toured :
    (TreeCursor.moves twoStatements [0]).Follow twoStatements [0] TreeCursor.place ∧
      firstStatement.place = [0] ∧
      ∃ visited : List (TreeCursor twoStatements [0]),
        (∀ seen : List Nat,
          Tour.finish? (TreeCursor.moves twoStatements [0])
              (fun starts cursor => starts ++ [cursor.node.start]) 14
              (.startAt firstStatement seen) =
            some (visited.foldl (fun starts cursor => starts ++ [cursor.node.start]) seen)) ∧
        visited.map (fun cursor => (cursor.node.kind, cursor.node.start)) =
          [(.statement, 0), (.call, 0), (.identifier, 0), (.arguments, 1), (.member, 2),
            (.identifier, 2), (.propertyName, 4)] ∧
        (visited.map TreeCursor.place).Pairwise (· < ·) ∧
        [0, 0, 1, 0, 1] ∈ visited.map TreeCursor.place ∧
        [1] ∉ visited.map TreeCursor.place ∧
        Tour.finish? (TreeCursor.moves twoStatements [0])
            (report (TreeCursor.moves twoStatements [0]) argumentBase "two.js" "f(a.b); g".toList)
            14 (.startAt firstStatement []) =
          some (tree argumentBase "two.js" "f(a.b); g" firstStatement.node) ∧
        (tree argumentBase "two.js" "f(a.b); g" firstStatement.node).map
            (fun issue => (issue.line, issue.column, issue.api)) =
          [(1, 2, "a.b")] := by
  have hfollow := TreeCursor.moves_follow twoStatements [0]
  rcases tour_visits_each_node_once (TreeCursor.moves twoStatements [0]) twoStatements [0]
    TreeCursor.place hfollow firstStatement rfl with
    ⟨visited, hfinish, hnodes, hascending, hplaces, _, hissues⟩
  have hlimit : 2 * visited.length ≤ 14 := by
    rw [← List.length_map, hnodes]
    exact Nat.le_refl 14
  refine ⟨hfollow, rfl, visited, fun seen => hfinish _ seen 14 hlimit, ?_, hascending, ?_, ?_,
    ?_, by rw [tree_firstStatement]; decide⟩
  · have hpreorder := congrArg (List.map fun node => (node.kind, node.start)) hnodes
    rw [List.map_map] at hpreorder
    exact hpreorder
  · exact (hplaces [0, 0, 1, 0, 1]).mpr ⟨by decide, rfl⟩
  · intro hmem
    exact absurd ((hplaces [1]).mp hmem).left (by decide)
  · exact hissues argumentBase "two.js" "f(a.b); g" 14 hlimit

end Scan
end WebCompat
