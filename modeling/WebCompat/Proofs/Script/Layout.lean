import WebCompat.Scan.Path

/-!
# Layout of syntax trees

The nodes of a tree lie in the source as its parser places them: a child lies
inside its parent, behind the children before it, and a member access or a call
begins where the expression that it is about begins.  A construction begins
with a word of its own.
-/

namespace WebCompat
namespace Script
namespace Tree

/-!
## Nodes of a tree
-/

theorem preorder_eq_cons (tree : Tree) :
    tree.preorder = tree :: preorderAll tree.children := by
  cases tree with
  | node kind field start stop children =>
      rw [preorder]
      rfl

theorem mem_preorderAll_iff {node : Tree} {trees : List Tree} :
    node ∈ preorderAll trees ↔ ∃ tree ∈ trees, node ∈ tree.preorder := by
  induction trees with
  | nil =>
      simp [preorderAll]
  | cons tree rest ih =>
      simp [preorderAll, ih]

theorem mem_preorder_iff {node tree : Tree} :
    node ∈ tree.preorder ↔ node = tree ∨ ∃ child ∈ tree.children, node ∈ child.preorder := by
  rw [preorder_eq_cons, List.mem_cons, mem_preorderAll_iff]

theorem sizeOf_lt_of_mem_children {child tree : Tree} (h : child ∈ tree.children) :
    sizeOf child < sizeOf tree := by
  cases tree with
  | node kind field start stop children =>
      have hlt : sizeOf child < sizeOf children := List.sizeOf_lt_of_mem h
      simp only [node.sizeOf_spec]
      omega

theorem induction_on_children {P : Tree → Prop}
    (h : ∀ tree : Tree, (∀ child ∈ tree.children, P child) → P tree) (tree : Tree) : P tree := by
  apply h
  intro child hchild
  exact induction_on_children h child
termination_by tree
decreasing_by exact sizeOf_lt_of_mem_children hchild

theorem mem_children_of_child? {part : Field} {tree child : Tree}
    (hkind : tree.kind ≠ .queriedMember) (h : tree.child? part = some child) :
    child ∈ tree.children := by
  cases tree with
  | node kind field start stop children =>
      change kind ≠ .queriedMember at hkind
      unfold child? at h
      split at h
      · rename_i found hfound
        cases h
        exact List.mem_of_find?_eq_some hfound
      · split at h
        · exact absurd rfl hkind
        · cases h

/-!
## Placement
-/

/-- What is known about the place of a node in a source, and of its children. -/
structure Placed (source : List Char) (tree : Tree) : Prop where
  inside : ∀ child ∈ tree.children, tree.start ≤ child.start ∧ child.stop ≤ tree.stop
  /-- The children stand one behind the other. -/
  ordered : tree.children.Pairwise fun first second => first.stop ≤ second.start
  /-- A name is a single token. -/
  identifier_children : tree.kind = .identifier → tree.children = []
  identifier_text : tree.kind = .identifier → tree.text source ≠ []
  /-- A member access begins with its object, which is one of its children. -/
  member_object : tree.kind.isMember → ∀ object, tree.child? .object = some object →
    object ∈ tree.children ∧ object.start = tree.start
  /-- A call begins with what it calls. -/
  call_callee : tree.kind = .call → ∀ callee, tree.child? .callee = some callee →
    callee.start = tree.start
  /-- A construction begins with the word `new`. -/
  construct_children : tree.kind = .construct → ∀ child ∈ tree.children,
    tree.start < child.start

def WellPlaced (source : List Char) (tree : Tree) : Prop :=
  ∀ node ∈ tree.preorder, node.Placed source

namespace WellPlaced

variable {source : List Char} {tree : Tree}

theorem placed (h : tree.WellPlaced source) : tree.Placed source :=
  h tree (mem_preorder_iff.mpr (Or.inl rfl))

theorem child (h : tree.WellPlaced source) {child : Tree} (hchild : child ∈ tree.children) :
    child.WellPlaced source := by
  intro node hnode
  exact h node (mem_preorder_iff.mpr (Or.inr ⟨child, hchild, hnode⟩))

theorem of_mem_preorder (h : tree.WellPlaced source) {node : Tree}
    (hnode : node ∈ tree.preorder) : node.WellPlaced source := by
  induction tree using induction_on_children with
  | h tree ih =>
      rcases mem_preorder_iff.mp hnode with rfl | ⟨child, hchild, hmem⟩
      · exact h
      · exact ih child hchild (h.child hchild) hmem

theorem inside (h : tree.WellPlaced source) {node : Tree} (hnode : node ∈ tree.preorder) :
    tree.start ≤ node.start ∧ node.stop ≤ tree.stop := by
  induction tree using induction_on_children with
  | h tree ih =>
      rcases mem_preorder_iff.mp hnode with rfl | ⟨child, hchild, hmem⟩
      · exact ⟨Nat.le_refl _, Nat.le_refl _⟩
      · have hinside := h.placed.inside child hchild
        have hdeeper := ih child hchild (h.child hchild) hmem
        omega

theorem separated (h : tree.WellPlaced source) {first second : Tree}
    (hfirst : first ∈ tree.children) (hsecond : second ∈ tree.children) :
    first = second ∨ first.stop ≤ second.start ∨ second.stop ≤ first.start := by
  rcases List.mem_iff_append.mp hfirst with ⟨front, back, hchildren⟩
  have hordered := h.placed.ordered
  rw [hchildren, List.pairwise_append, List.pairwise_cons] at hordered
  rw [hchildren, List.mem_append, List.mem_cons] at hsecond
  rcases hsecond with hfront | heq | hback
  · exact Or.inr (Or.inr (hordered.right.right second hfront first List.mem_cons_self))
  · exact Or.inl heq.symm
  · exact Or.inr (Or.inl (hordered.right.left.left second hback))

end WellPlaced

/-!
## Paths
-/

theorem path?_eq_some_iff {source : List Char} {tree : Tree} {path : List Char} :
    tree.path? source = some path ↔
      (tree.kind = .identifier ∧ path = tree.text source) ∨
        (tree.kind.isMember = true ∧ ∃ object property before,
          tree.child? .object = some object ∧ tree.child? .property = some property ∧
            object.path? source = some before ∧ path = before ++ '.' :: property.text source) := by
  rw [path?]
  by_cases hidentifier : tree.kind = .identifier
  · rw [if_pos hidentifier, Option.some.injEq]
    constructor
    · intro htext
      exact Or.inl ⟨hidentifier, htext.symm⟩
    · rintro (⟨_, htext⟩ | ⟨hmember, _⟩)
      · exact htext.symm
      · rw [hidentifier] at hmember
        cases hmember
  · rw [if_neg hidentifier]
    by_cases hmember : tree.kind.isMember = true
    · rw [if_pos hmember]
      cases hobject : tree.child? .object with
      | none =>
          simp [hidentifier]
      | some object =>
          cases hproperty : tree.child? .property with
          | none =>
              simp [hidentifier]
          | some property =>
              simp only [Option.map_eq_some_iff]
              constructor
              · rintro ⟨before, hbefore, hpath⟩
                exact Or.inr
                  ⟨hmember, object, property, before, rfl, rfl, hbefore, hpath.symm⟩
              · rintro (⟨hkind, _⟩ | ⟨_, _, _, before, hfirst, hsecond, hbefore, hpath⟩)
                · exact absurd hkind hidentifier
                · cases hfirst
                  cases hsecond
                  exact ⟨before, hbefore, hpath.symm⟩
    · simp [hidentifier, hmember]

end Tree
end Script
end WebCompat
