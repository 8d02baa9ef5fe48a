import Mathlib.Logic.Relation
import WebCompat.Proofs.Script.Address
import WebCompat.Scan.Tree

/-!
# Tours of a tree

A tree is toured without recursion and without a stack: a cursor stands on one
node at a time and moves to the first child, the next sibling or the parent, and
one flag says whether the nodes below the cursor have been visited.

A cursor that moves as on a tree, and neither aside nor up from the node where it
was created, visits exactly the nodes from there on, each once and in preorder,
and the tour ends.
-/

namespace WebCompat
namespace Script

/-- The moves of a cursor.  A move fails where it leads to no node. -/
structure Moves (κ : Type) where
  node : κ → Tree
  firstChild? : κ → Option κ
  nextSibling? : κ → Option κ
  parent? : κ → Option κ

structure Tour (κ σ : Type) where
  cursor : κ
  /-- Whether the node under the cursor and all nodes below it have been visited. -/
  isBack : Bool
  seen : σ

namespace Tour

variable {κ σ : Type}

/--
Leaves a node with all below it behind, for the next sibling or else for the
parent.  Without either the tour is over.
-/
def leave (moves : Moves κ) (cursor : κ) (seen : σ) : Tour κ σ ⊕ σ :=
  match moves.nextSibling? cursor with
  | some sibling => .inl ⟨sibling, false, seen⟩
  | none =>
      match moves.parent? cursor with
      | some parent => .inl ⟨parent, true, seen⟩
      | none => .inr seen

def turn (moves : Moves κ) (visit : σ → κ → σ) (tour : Tour κ σ) : Tour κ σ ⊕ σ :=
  if tour.isBack then leave moves tour.cursor tour.seen
  else
    let seen := visit tour.seen tour.cursor
    match moves.firstChild? tour.cursor with
    | some child => .inl ⟨child, false, seen⟩
    | none => leave moves tour.cursor seen

/--
What a tour has gathered at its end.  A tour that is not over after `limit` turns
gives nothing.
-/
def finish? (moves : Moves κ) (visit : σ → κ → σ) : Nat → Tour κ σ → Option σ
  | 0, _ => none
  | limit + 1, tour =>
      match turn moves visit tour with
      | .inl next => finish? moves visit limit next
      | .inr seen => some seen

def startAt (cursor : κ) (seen : σ) : Tour κ σ :=
  ⟨cursor, false, seen⟩

def Reaches (moves : Moves κ) (visit : σ → κ → σ) : Tour κ σ → Tour κ σ → Prop :=
  Relation.ReflTransGen fun tour next => turn moves visit tour = .inl next

end Tour

/--
Whether a cursor moves as on a whole tree, and neither aside nor up from the node
with the address `origin`.
-/
structure Moves.Follow {κ : Type} (moves : Moves κ) (whole : Tree) (origin : Address)
    (place : κ → Address) : Prop where
  node : ∀ cursor, whole.at? (place cursor) = some (moves.node cursor)
  firstChild : ∀ cursor,
    (moves.firstChild? cursor).map place = whole.present? (place cursor ++ [0])
  nextSibling : ∀ cursor front index, place cursor ≠ origin → place cursor = front ++ [index] →
    (moves.nextSibling? cursor).map place = whole.present? (front ++ [index + 1])
  parent : ∀ cursor front index, place cursor ≠ origin → place cursor = front ++ [index] →
    (moves.parent? cursor).map place = whole.present? front
  stays : ∀ cursor, place cursor = origin →
    moves.nextSibling? cursor = none ∧ moves.parent? cursor = none

/-!
## Turns
-/

namespace Tour

variable {κ σ : Type} {moves : Moves κ} {visit : σ → κ → σ} {limit : Nat} {cursor : κ}
  {seen : σ}

theorem finish?_of_turn_eq {tour next : Tour κ σ}
    (h : turn moves visit tour = turn moves visit next) :
    finish? moves visit limit tour = finish? moves visit limit next := by
  cases limit with
  | zero => rfl
  | succ limit => rw [finish?, h, ← finish?]

theorem finish?_of_turn_eq_inl {tour next : Tour κ σ} (h : turn moves visit tour = .inl next) :
    finish? moves visit (limit + 1) tour = finish? moves visit limit next := by
  rw [finish?, h]

theorem finish?_down {child : κ} (h : moves.firstChild? cursor = some child) :
    finish? moves visit (limit + 1) ⟨cursor, false, seen⟩ =
      finish? moves visit limit ⟨child, false, visit seen cursor⟩ := by
  apply finish?_of_turn_eq_inl
  simp [turn, h]

theorem finish?_leaf (h : moves.firstChild? cursor = none) :
    finish? moves visit limit ⟨cursor, false, seen⟩ =
      finish? moves visit limit ⟨cursor, true, visit seen cursor⟩ := by
  apply finish?_of_turn_eq
  simp [turn, h]

theorem finish?_aside {sibling : κ} (h : moves.nextSibling? cursor = some sibling) :
    finish? moves visit (limit + 1) ⟨cursor, true, seen⟩ =
      finish? moves visit limit ⟨sibling, false, seen⟩ := by
  apply finish?_of_turn_eq_inl
  simp [turn, leave, h]

theorem finish?_up {parent : κ} (hlast : moves.nextSibling? cursor = none)
    (h : moves.parent? cursor = some parent) :
    finish? moves visit (limit + 1) ⟨cursor, true, seen⟩ =
      finish? moves visit limit ⟨parent, true, seen⟩ := by
  apply finish?_of_turn_eq_inl
  simp [turn, leave, hlast, h]

theorem finish?_over (hlast : moves.nextSibling? cursor = none)
    (h : moves.parent? cursor = none) :
    finish? moves visit (limit + 1) ⟨cursor, true, seen⟩ = some seen := by
  have hturn : turn moves visit ⟨cursor, true, seen⟩ = .inr seen := by
    simp [turn, leave, hlast, h]
  rw [finish?, hturn]

end Tour

/-!
## Moves on a tree
-/

namespace Moves.Follow

variable {κ : Type} {moves : Moves κ} {whole : Tree} {origin : Address} {place : κ → Address}

theorem exists_of_map_place (h : moves.Follow whole origin place) {move : Option κ}
    {address : Address} {node : Tree} (hmove : move.map place = whole.present? address)
    (hnode : whole.at? address = some node) :
    ∃ next, move = some next ∧ place next = address ∧ moves.node next = node := by
  rw [Tree.present?_eq_some hnode] at hmove
  rcases Option.map_eq_some_iff.mp hmove with ⟨next, hnext, hplace⟩
  refine ⟨next, hnext, hplace, ?_⟩
  rw [← hplace, h.node next, Option.some.injEq] at hnode
  exact hnode

end Moves.Follow

/-!
## Whole tours
-/

namespace Tour

variable {κ : Type} {moves : Moves κ} {whole : Tree} {origin : Address} {place : κ → Address}

/--
Whether a tour that comes to the cursor `start` visits the given cursors, which
stand on the given nodes at the given addresses, and is then, after `turns` turns,
back at a cursor.
-/
structure Covers (moves : Moves κ) (place : κ → Address) (start back : κ) (nodes : List Tree)
    (addresses : List Address) (visited : List κ) (turns : Nat) : Prop where
  nodes : visited.map moves.node = nodes
  places : visited.map place = addresses
  finish? : ∀ {σ : Type} (visit : σ → κ → σ) (limit : Nat) (seen : σ),
    finish? moves visit (limit + turns) ⟨start, false, seen⟩ =
      finish? moves visit limit ⟨back, true, visited.foldl visit seen⟩

/--
Whether a tour covers a node with all below it and is then back at its place.  Two
of the turns that the visits allow are left, for the moves aside and up.
-/
def CoversBelow (moves : Moves κ) (place : κ → Address) (start : κ) : Prop :=
  ∃ visited back turns, place back = place start ∧ turns + 2 ≤ 2 * visited.length ∧
    Covers moves place start back (moves.node start).preorder
      ((moves.node start).addresses.map (place start ++ ·)) visited turns

theorem exists_covers_child {front : Address} {parent : Tree} (horigin : origin <+: front)
    (hbelow : ∀ cursor, moves.node cursor ∈ parent.children → origin <+: place cursor →
      CoversBelow moves place cursor) {rest : List Tree} {index : Nat} {cursor : κ}
    (hplace : place cursor = front ++ [index])
    (hdrop : parent.children.drop index = moves.node cursor :: rest) :
    ∃ visited last turns, place last = front ++ [index] ∧ place last ≠ origin ∧
      turns + 2 ≤ 2 * visited.length ∧
      Covers moves place cursor last (moves.node cursor).preorder
        ((moves.node cursor).addresses.map (front ++ [index] ++ ·)) visited turns := by
  have hmem : moves.node cursor ∈ parent.children :=
    List.mem_of_mem_drop (hdrop ▸ List.mem_cons_self)
  have hinside : origin <+: place cursor :=
    hplace ▸ horigin.trans (List.prefix_append front [index])
  rcases hbelow cursor hmem hinside with ⟨visited, last, turns, hlast, hturns, hcovers⟩
  rw [hplace] at hlast hcovers
  refine ⟨visited, last, turns, hlast, ?_, hturns, hcovers⟩
  rw [hlast]
  exact Address.concat_ne_of_isPrefix horigin index

theorem exists_covers_siblings (h : moves.Follow whole origin place) {front : Address}
    {parent : Tree} (hparent : whole.at? front = some parent) (horigin : origin <+: front)
    (hbelow : ∀ cursor, moves.node cursor ∈ parent.children → origin <+: place cursor →
      CoversBelow moves place cursor) {rest : List Tree} {index : Nat} {cursor : κ}
    (hplace : place cursor = front ++ [index])
    (hdrop : parent.children.drop index = moves.node cursor :: rest) :
    ∃ visited back turns, place back = front ∧ turns < 2 * visited.length ∧
      Covers moves place cursor back (Tree.preorderAll (moves.node cursor :: rest))
        ((Tree.addressesFrom index (moves.node cursor :: rest)).map (front ++ ·)) visited
        turns := by
  -- On the later siblings: from the last one the tour goes up, from the others aside.
  induction rest generalizing index cursor with
  | nil =>
      rcases exists_covers_child horigin hbelow hplace hdrop with
        ⟨visited, last, turns, hlast, hne, hturns, hcovers⟩
      have hnone : parent.children[index + 1]? = none := by
        rw [← List.getElem?_drop, hdrop]
        rfl
      have hsibling : moves.nextSibling? last = none := by
        apply Tree.eq_none_of_map_eq_present? (h.nextSibling last front index hne hlast)
        rw [Tree.at?_concat hparent, hnone]
      rcases h.exists_of_map_place (h.parent last front index hne hlast) hparent with
        ⟨back, hback, hplaceBack, _⟩
      refine ⟨visited, back, 1 + turns, hplaceBack, by omega, ?_, ?_, ?_⟩
      · rw [hcovers.nodes, Tree.preorderAll, Tree.preorderAll, List.append_nil]
      · rw [hcovers.places, Tree.map_addressesFrom_cons, Tree.addressesFrom, List.map_nil,
          List.append_nil]
      · intro σ visit limit seen
        rw [← Nat.add_assoc, hcovers.finish?, finish?_up hsibling hback]
  | cons next rest ih =>
      rcases exists_covers_child horigin hbelow hplace hdrop with
        ⟨visited, last, turns, hlast, hne, hturns, hcovers⟩
      have hnext : whole.at? (front ++ [index + 1]) = some next := by
        rw [Tree.at?_concat hparent, ← List.getElem?_drop, hdrop]
        rfl
      rcases h.exists_of_map_place (h.nextSibling last front index hne hlast) hnext with
        ⟨sibling, hsibling, hplaceSibling, rfl⟩
      have hlater : parent.children.drop (index + 1) = moves.node sibling :: rest := by
        rw [← List.drop_drop, hdrop]
        rfl
      rcases ih hplaceSibling hlater with ⟨others, back, later, hback, hlaterTurns, hothers⟩
      refine ⟨visited ++ others, back, later + 1 + turns, hback, ?_, ?_, ?_, ?_⟩
      · rw [List.length_append]
        omega
      · rw [List.map_append, hcovers.nodes, hothers.nodes, ← Tree.preorderAll]
      · rw [List.map_append, hcovers.places, hothers.places]
        exact (Tree.map_addressesFrom_cons front index _ _).symm
      · intro σ visit limit seen
        rw [← Nat.add_assoc, hcovers.finish?, ← Nat.add_assoc, finish?_aside hsibling,
          hothers.finish?, List.foldl_append]

theorem coversBelow (h : moves.Follow whole origin place) {tree : Tree} {cursor : κ}
    (hnode : moves.node cursor = tree) (horigin : origin <+: place cursor) :
    CoversBelow moves place cursor := by
  -- The cursor is general, since the tour meets the nodes below with cursors of its own.
  induction tree using Tree.induction_on_children generalizing cursor with
  | h tree ih =>
      have hparent := h.node cursor
      rw [CoversBelow, Tree.preorder_eq_cons, Tree.addresses_eq_cons, List.map_cons,
        List.append_nil]
      cases hchildren : (moves.node cursor).children with
      | nil =>
          have hleaf : moves.firstChild? cursor = none := by
            apply Tree.eq_none_of_map_eq_present? (h.firstChild cursor)
            rw [Tree.at?_concat hparent, hchildren]
            rfl
          refine ⟨[cursor], cursor, 0, rfl, Nat.le_refl _, rfl, rfl, ?_⟩
          intro σ visit limit seen
          exact finish?_leaf hleaf
      | cons first rest =>
          have hfirst : whole.at? (place cursor ++ [0]) = some first := by
            rw [Tree.at?_concat hparent, hchildren]
            rfl
          rcases h.exists_of_map_place (h.firstChild cursor) hfirst with
            ⟨child, hchild, hplace, rfl⟩
          have hbelow : ∀ other, moves.node other ∈ (moves.node cursor).children →
              origin <+: place other → CoversBelow moves place other := by
            intro other hmem hother
            exact ih (moves.node other) (hnode ▸ hmem) rfl hother
          rcases exists_covers_siblings h hparent horigin hbelow hplace hchildren with
            ⟨visited, back, turns, hback, hturns, hcovers⟩
          refine ⟨cursor :: visited, back, turns + 1, hback, ?_, ?_, ?_, ?_⟩
          · rw [List.length_cons]
            omega
          · rw [List.map_cons, hcovers.nodes]
          · rw [List.map_cons, hcovers.places]
          · intro σ visit limit seen
            rw [← Nat.add_assoc, finish?_down hchild, hcovers.finish?, List.foldl_cons]

/-!
## Inside the subtree
-/

theorem isPrefix_place_of_leave {σ : Type} {seen : σ} {cursor : κ} {next : Tour κ σ}
    (h : moves.Follow whole origin place) (hbelow : origin <+: place cursor)
    (hleave : leave moves cursor seen = .inl next) : origin <+: place next.cursor := by
  have hne : place cursor ≠ origin := by
    intro heq
    rcases h.stays cursor heq with ⟨hsibling, hparent⟩
    rw [leave, hsibling, hparent] at hleave
    cases hleave
  rcases Address.exists_concat_of_isPrefix hbelow hne with ⟨front, index, hplace, horigin⟩
  unfold leave at hleave
  split at hleave
  · rename_i sibling hsibling
    cases hleave
    rw [Tree.place_eq_of_map_eq_present? (h.nextSibling _ front index hne hplace) hsibling]
    exact horigin.trans (List.prefix_append front [index + 1])
  · split at hleave
    · rename_i parent hparent
      cases hleave
      rw [Tree.place_eq_of_map_eq_present? (h.parent _ front index hne hplace) hparent]
      exact horigin
    · cases hleave

theorem isPrefix_place_of_turn {σ : Type} {visit : σ → κ → σ} {tour next : Tour κ σ}
    (h : moves.Follow whole origin place) (hbelow : origin <+: place tour.cursor)
    (hturn : turn moves visit tour = .inl next) : origin <+: place next.cursor := by
  unfold turn at hturn
  split at hturn
  · exact isPrefix_place_of_leave h hbelow hturn
  · dsimp only at hturn
    split at hturn
    · rename_i child hchild
      cases hturn
      rw [Tree.place_eq_of_map_eq_present? (h.firstChild tour.cursor) hchild]
      exact hbelow.trans (List.prefix_append _ [0])
    · exact isPrefix_place_of_leave h hbelow hturn

theorem isPrefix_place_of_reaches {σ : Type} {visit : σ → κ → σ} {tour later : Tour κ σ}
    (h : moves.Follow whole origin place) (hbelow : origin <+: place tour.cursor)
    (hreaches : Reaches moves visit tour later) : origin <+: place later.cursor := by
  induction hreaches with
  | refl =>
      exact hbelow
  | tail _ hturn ih =>
      exact isPrefix_place_of_turn h ih hturn

end Tour

/-!
## Cursors by address

A cursor that keeps the address of its node can tour any node of any tree.
-/

/-- A cursor on a node of a whole tree, at the address `origin` or below it. -/
structure TreeCursor (whole : Tree) (origin : Address) where
  place : Address
  node : Tree
  isAt : whole.at? place = some node
  isBelow : origin <+: place

namespace TreeCursor

variable {whole : Tree} {origin : Address}

def ofAddress? (whole : Tree) {address : Address} (isBelow : origin <+: address) :
    Option (TreeCursor whole origin) :=
  match isAt : whole.at? address with
  | some node => some ⟨address, node, isAt, isBelow⟩
  | none => none

theorem map_place_ofAddress? {address : Address} (isBelow : origin <+: address) :
    (ofAddress? whole isBelow).map place = whole.present? address := by
  unfold ofAddress?
  split
  · rename_i node hnode
    rw [Tree.present?_eq_some hnode]
    rfl
  · rename_i hnone
    rw [Tree.present?_eq_none hnone]
    rfl

theorem isBelow_dropLast (cursor : TreeCursor whole origin) (h : cursor.place ≠ origin) :
    origin <+: cursor.place.dropLast := by
  rcases Address.exists_concat_of_isPrefix cursor.isBelow h with ⟨front, index, hplace, horigin⟩
  rw [hplace, List.dropLast_concat]
  exact horigin

def firstChild? (cursor : TreeCursor whole origin) : Option (TreeCursor whole origin) :=
  ofAddress? whole (cursor.isBelow.trans (List.prefix_append cursor.place [0]))

def nextSibling? (cursor : TreeCursor whole origin) : Option (TreeCursor whole origin) :=
  if h : cursor.place = origin then none
  else
    ofAddress? whole ((cursor.isBelow_dropLast h).trans
      (List.prefix_append _ [cursor.place.getLastD 0 + 1]))

def parent? (cursor : TreeCursor whole origin) : Option (TreeCursor whole origin) :=
  if h : cursor.place = origin then none
  else ofAddress? whole (cursor.isBelow_dropLast h)

def moves (whole : Tree) (origin : Address) : Moves (TreeCursor whole origin) where
  node := node
  firstChild? := firstChild?
  nextSibling? := nextSibling?
  parent? := parent?

theorem moves_follow (whole : Tree) (origin : Address) :
    (moves whole origin).Follow whole origin place where
  node := isAt
  firstChild cursor := map_place_ofAddress? _
  nextSibling cursor front index hne hplace := by
    change (nextSibling? cursor).map place = _
    rw [nextSibling?, dif_neg hne, map_place_ofAddress?, hplace, List.dropLast_concat,
      List.getLastD_concat]
  parent cursor front index hne hplace := by
    change (parent? cursor).map place = _
    rw [parent?, dif_neg hne, map_place_ofAddress?, hplace, List.dropLast_concat]
  stays cursor h := ⟨dif_pos h, dif_pos h⟩

end TreeCursor
end Script
end WebCompat
