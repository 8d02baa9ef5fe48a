import WebCompat.Proofs.Script.Layout

/-!
# Addresses of nodes

A node of a tree is found by the positions of the children that lead to it from
the top.  Two nodes may look the same, but no two nodes have one address.  In the
lexicographic order of addresses a node comes before everything below it, and
everything below a child before the next child: this is the preorder.
-/

namespace WebCompat
namespace Script

/-- The positions of the children that lead to a node from the top of a tree. -/
abbrev Address :=
  List Nat

namespace Address

variable {origin front address : Address}

theorem concat_ne_of_isPrefix (h : origin <+: front) (index : Nat) :
    front ++ [index] ≠ origin := by
  intro heq
  have hle := h.length_le
  rw [← heq, List.length_append, List.length_singleton] at hle
  omega

theorem exists_concat_of_isPrefix (h : origin <+: address) (hne : address ≠ origin) :
    ∃ front index, address = front ++ [index] ∧ origin <+: front := by
  rcases h with ⟨rest, hrest⟩
  rcases List.eq_nil_or_concat rest with hnil | ⟨others, index, hothers⟩
  · rw [hnil, List.append_nil] at hrest
    exact absurd hrest.symm hne
  · refine ⟨origin ++ others, index, ?_, List.prefix_append origin others⟩
    rw [← hrest, hothers, List.append_assoc, List.concat_eq_append]

end Address

namespace Tree

def at? : Tree → Address → Option Tree
  | tree, [] => some tree
  | tree, index :: rest => tree.children[index]?.bind fun child => child.at? rest

def present? (tree : Tree) (address : Address) : Option Address :=
  (tree.at? address).map fun _ => address

mutual

/-- The addresses of the nodes of a tree, each before those below it. -/
def addresses : Tree → List Address
  | node _ _ _ _ children => [] :: addressesFrom 0 children

def addressesFrom (index : Nat) : List Tree → List Address
  | [] => []
  | tree :: trees => tree.addresses.map (index :: ·) ++ addressesFrom (index + 1) trees

end

/-!
## Look-ups
-/

theorem at?_append (tree : Tree) (first second : Address) :
    tree.at? (first ++ second) = (tree.at? first).bind fun node => node.at? second := by
  induction first generalizing tree with
  | nil =>
      rfl
  | cons index rest ih =>
      rw [List.cons_append, at?, at?, Option.bind_assoc]
      congr 1
      funext child
      exact ih child

theorem at?_concat {whole parent : Tree} {front : Address} (h : whole.at? front = some parent)
    (index : Nat) : whole.at? (front ++ [index]) = parent.children[index]? := by
  rw [at?_append, h, Option.bind_some, at?]
  exact Option.bind_fun_some _

theorem present?_eq_some {whole node : Tree} {address : Address}
    (h : whole.at? address = some node) : whole.present? address = some address := by
  rw [present?, h]
  rfl

theorem present?_eq_none {whole : Tree} {address : Address}
    (h : whole.at? address = none) : whole.present? address = none := by
  rw [present?, h]
  rfl

theorem place_eq_of_map_eq_present? {κ : Type} {place : κ → Address} {move : Option κ}
    {whole : Tree} {address : Address} (h : move.map place = whole.present? address) {next : κ}
    (hnext : move = some next) : place next = address := by
  rw [hnext, Option.map_some] at h
  rcases Option.map_eq_some_iff.mp h.symm with ⟨_, _, haddress⟩
  exact haddress.symm

theorem eq_none_of_map_eq_present? {κ : Type} {place : κ → Address} {move : Option κ}
    {whole : Tree} {address : Address} (h : move.map place = whole.present? address)
    (hnone : whole.at? address = none) : move = none := by
  rw [present?_eq_none hnone] at h
  exact Option.map_eq_none_iff.mp h

/-!
## All addresses
-/

theorem addresses_eq_cons (tree : Tree) :
    tree.addresses = [] :: addressesFrom 0 tree.children := by
  cases tree with
  | node kind field start stop children =>
      rw [addresses]
      rfl

theorem mem_addressesFrom_iff {index : Nat} {trees : List Tree} {address : Address} :
    address ∈ addressesFrom index trees ↔
      ∃ offset tree rest, trees[offset]? = some tree ∧ rest ∈ tree.addresses ∧
        address = (index + offset) :: rest := by
  induction trees generalizing index with
  | nil =>
      simp [addressesFrom]
  | cons tree trees ih =>
      rw [addressesFrom, List.mem_append, List.mem_map, ih]
      constructor
      · rintro (⟨rest, hrest, rfl⟩ | ⟨offset, found, rest, hfound, hrest, rfl⟩)
        · exact ⟨0, tree, rest, rfl, hrest, rfl⟩
        · exact ⟨offset + 1, found, rest, hfound, hrest, by rw [Nat.add_right_comm, Nat.add_assoc]⟩
      · rintro ⟨offset, found, rest, hfound, hrest, rfl⟩
        cases offset with
        | zero =>
            cases hfound
            exact Or.inl ⟨rest, hrest, rfl⟩
        | succ offset =>
            exact Or.inr
              ⟨offset, found, rest, hfound, hrest, by rw [Nat.add_right_comm, Nat.add_assoc]⟩

theorem mem_addresses_iff {tree : Tree} {address : Address} :
    address ∈ tree.addresses ↔ (tree.at? address).isSome = true := by
  induction address generalizing tree with
  | nil =>
      simp [addresses_eq_cons, at?]
  | cons index rest ih =>
      rw [addresses_eq_cons, List.mem_cons, mem_addressesFrom_iff, at?]
      constructor
      · rintro (hnil | ⟨offset, child, below, hchild, hbelow, haddress⟩)
        · cases hnil
        · rw [List.cons.injEq, Nat.zero_add] at haddress
          rcases haddress with ⟨rfl, rfl⟩
          rw [hchild, Option.bind_some]
          exact ih.mp hbelow
      · intro hsome
        rcases Option.isSome_iff_exists.mp hsome with ⟨node, hnode⟩
        rcases Option.bind_eq_some_iff.mp hnode with ⟨child, hchild, hbelow⟩
        refine Or.inr ⟨index, child, rest, hchild, ?_, by rw [Nat.zero_add]⟩
        exact ih.mpr (Option.isSome_iff_exists.mpr ⟨node, hbelow⟩)

theorem addressesFrom_ascending {index : Nat} {trees : List Tree}
    (h : ∀ tree ∈ trees, tree.addresses.Pairwise (· < ·)) :
    (addressesFrom index trees).Pairwise (· < ·) := by
  induction trees generalizing index with
  | nil =>
      exact List.Pairwise.nil
  | cons tree trees ih =>
      rw [addressesFrom, List.pairwise_append]
      refine ⟨?_, ih fun other hother => h other (List.mem_cons_of_mem _ hother), ?_⟩
      · apply List.pairwise_map.mpr
        refine (h tree List.mem_cons_self).imp ?_
        intro first second hlt
        exact List.cons_lt_cons_iff.mpr (Or.inr ⟨rfl, hlt⟩)
      · -- What lies below later children begins with a greater position.
        intro first hfirst second hsecond
        rcases List.mem_map.mp hfirst with ⟨rest, _, rfl⟩
        rcases mem_addressesFrom_iff.mp hsecond with ⟨offset, _, later, _, _, rfl⟩
        exact List.cons_lt_cons_iff.mpr (Or.inl (by omega))

theorem addresses_ascending (tree : Tree) : tree.addresses.Pairwise (· < ·) := by
  induction tree using induction_on_children with
  | h tree ih =>
      rw [addresses_eq_cons, List.pairwise_cons]
      constructor
      · intro address haddress
        rcases mem_addressesFrom_iff.mp haddress with ⟨offset, _, rest, _, _, rfl⟩
        exact List.nil_lt_cons _ _
      · exact addressesFrom_ascending ih

theorem mem_map_append_addresses_iff {whole tree : Tree} {origin address : Address}
    (h : whole.at? origin = some tree) :
    address ∈ tree.addresses.map (origin ++ ·) ↔
      origin <+: address ∧ (whole.at? address).isSome = true := by
  rw [List.mem_map]
  constructor
  · rintro ⟨rest, hrest, rfl⟩
    refine ⟨List.prefix_append origin rest, ?_⟩
    rw [at?_append, h, Option.bind_some]
    exact mem_addresses_iff.mp hrest
  · rintro ⟨⟨rest, rfl⟩, hsome⟩
    rw [at?_append, h, Option.bind_some] at hsome
    exact ⟨rest, mem_addresses_iff.mpr hsome, rfl⟩

theorem map_addressesFrom_cons (front : Address) (index : Nat) (tree : Tree)
    (trees : List Tree) :
    (addressesFrom index (tree :: trees)).map (front ++ ·) =
      tree.addresses.map (front ++ [index] ++ ·) ++
        (addressesFrom (index + 1) trees).map (front ++ ·) := by
  rw [addressesFrom, List.map_append, List.map_map]
  congr 1
  apply List.map_congr_left
  intro address _
  rw [Function.comp_apply, List.append_assoc, List.singleton_append]

theorem map_append_addresses_ascending (tree : Tree) (origin : Address) :
    (tree.addresses.map (origin ++ ·)).Pairwise (· < ·) := by
  apply List.pairwise_map.mpr
  refine tree.addresses_ascending.imp ?_
  intro first second hlt
  exact List.append_left_lt hlt

end Tree
end Script
end WebCompat
