import WebCompat.Proofs.Script.Layout

/-!
# Names in a path

A node has a path just if it is a row of names: a plain name, or a member access
whose object is such a row.  The path joins the names by points.  As long as no
name has a point in it, the names are found again in the path.
-/

namespace WebCompat
namespace Script
namespace Tree

variable {source : List Char} {tree : Tree} {names : List (List Char)}

/-- Whether a node spells a row of names, each but the first one looked up in those before. -/
inductive Spells (source : List Char) : Tree → List (List Char) → Prop
  | name {tree : Tree} : tree.kind = .identifier → Spells source tree [tree.text source]
  | member {tree object property : Tree} {names : List (List Char)} :
      tree.kind.isMember = true →
      tree.child? .object = some object → tree.child? .property = some property →
      Spells source object names → Spells source tree (names ++ [property.text source])

def ArePointless (names : List (List Char)) : Prop :=
  ∀ name ∈ names, '.' ∉ name

instance (names : List (List Char)) : Decidable (ArePointless names) :=
  inferInstanceAs (Decidable (∀ name ∈ names, '.' ∉ name))

/-!
## Joined names
-/

theorem intercalate_concat (hnames : names ≠ []) (name : List Char) :
    ['.'].intercalate (names ++ [name]) = ['.'].intercalate names ++ '.' :: name := by
  induction names with
  | nil =>
      exact absurd rfl hnames
  | cons first rest ih =>
      cases rest with
      | nil =>
          simp
      | cons second rest =>
          have hrest := ih (List.cons_ne_nil second rest)
          rw [List.cons_append] at hrest
          simp [hrest]

theorem eq_of_intercalate_eq {otherNames : List (List Char)} (hne : names ≠ [])
    (hotherNe : otherNames ≠ []) (hnames : ArePointless names)
    (hotherNames : ArePointless otherNames)
    (h : ['.'].intercalate names = ['.'].intercalate otherNames) : names = otherNames := by
  have hsplit := congrArg (List.splitOn '.') h
  rwa [List.splitOn_intercalate '.' hnames hne,
    List.splitOn_intercalate '.' hotherNames hotherNe] at hsplit

/-!
## Nodes that spell names
-/

namespace Spells

theorem ne_nil (h : tree.Spells source names) : names ≠ [] := by
  cases h with
  | name =>
      exact List.cons_ne_nil _ _
  | member =>
      exact List.append_ne_nil_of_right_ne_nil _ (List.cons_ne_nil _ _)

theorem path? (h : tree.Spells source names) :
    tree.path? source = some (['.'].intercalate names) := by
  induction h with
  | name hkind =>
      exact path?_eq_some_iff.mpr (Or.inl ⟨hkind, List.intercalate_singleton⟩)
  | @member tree object property names hkind hobject hproperty hnames ih =>
      apply path?_eq_some_iff.mpr
      right
      refine ⟨hkind, object, property, _, hobject, hproperty, ih, ?_⟩
      exact intercalate_concat hnames.ne_nil _

theorem kind_eq_identifier_iff (h : tree.Spells source names) :
    tree.kind = .identifier ↔ names.length = 1 := by
  cases h with
  | name hkind =>
      simp [hkind]
  | member hkind _ _ hrest =>
      have hpos := List.length_pos_iff.mpr hrest.ne_nil
      rw [List.length_append, List.length_singleton]
      constructor
      · intro hidentifier
        rw [hidentifier] at hkind
        cases hkind
      · omega

theorem kind_eq_identifier_of_notMem (h : tree.Spells source names)
    (hpoint : '.' ∉ ['.'].intercalate names) : tree.kind = .identifier := by
  cases h with
  | name hkind =>
      exact hkind
  | member _ _ _ hrest =>
      rw [intercalate_concat hrest.ne_nil] at hpoint
      exact absurd (List.mem_append_right _ List.mem_cons_self) hpoint

end Spells

theorem exists_spells_of_path? {tree : Tree} {path : List Char}
    (h : tree.path? source = some path) :
    ∃ names, tree.Spells source names ∧ path = ['.'].intercalate names := by
  rcases path?_eq_some_iff.mp h with
    ⟨hkind, rfl⟩ | ⟨hmember, object, property, before, hobject, hproperty, hbefore, rfl⟩
  · exact ⟨_, .name hkind, List.intercalate_singleton.symm⟩
  · rcases exists_spells_of_path? hbefore with ⟨names, hnames, rfl⟩
    refine ⟨_, .member hmember hobject hproperty hnames, ?_⟩
    exact (intercalate_concat hnames.ne_nil _).symm
termination_by tree
decreasing_by exact sizeOf_lt_of_child? hobject

theorem path?_eq_some_iff_spells {path : List Char} :
    tree.path? source = some path ↔
      ∃ names, tree.Spells source names ∧ path = ['.'].intercalate names := by
  constructor
  · exact exists_spells_of_path?
  · rintro ⟨names, hnames, rfl⟩
    exact hnames.path?

theorem isSome_path?_iff :
    (tree.path? source).isSome = true ↔
      tree.kind = .identifier ∨ tree.kind.isMember = true ∧ ∃ object property,
        tree.child? .object = some object ∧ tree.child? .property = some property ∧
          (object.path? source).isSome = true := by
  constructor
  · intro hsome
    rcases Option.isSome_iff_exists.mp hsome with ⟨path, hpath⟩
    rcases path?_eq_some_iff.mp hpath with
      ⟨hkind, _⟩ | ⟨hmember, object, property, before, hobject, hproperty, hbefore, _⟩
    · exact Or.inl hkind
    · exact Or.inr ⟨hmember, object, property, hobject, hproperty,
        Option.isSome_iff_exists.mpr ⟨before, hbefore⟩⟩
  · rintro (hkind | ⟨hmember, object, property, hobject, hproperty, hsome⟩)
    · exact Option.isSome_iff_exists.mpr ⟨_, path?_eq_some_iff.mpr (Or.inl ⟨hkind, rfl⟩)⟩
    · rcases Option.isSome_iff_exists.mp hsome with ⟨before, hbefore⟩
      apply Option.isSome_iff_exists.mpr
      exact ⟨_, path?_eq_some_iff.mpr
        (Or.inr ⟨hmember, object, property, before, hobject, hproperty, hbefore, rfl⟩)⟩

theorem path?_eq_iff_names_eq {otherSource : List Char} {other : Tree}
    {otherNames : List (List Char)} (h : tree.Spells source names)
    (hother : other.Spells otherSource otherNames) (hnames : ArePointless names)
    (hotherNames : ArePointless otherNames) :
    tree.path? source = other.path? otherSource ↔ names = otherNames := by
  rw [h.path?, hother.path?, Option.some.injEq]
  constructor
  · exact eq_of_intercalate_eq h.ne_nil hother.ne_nil hnames hotherNames
  · intro heq
    rw [heq]

end Tree
end Script
end WebCompat
