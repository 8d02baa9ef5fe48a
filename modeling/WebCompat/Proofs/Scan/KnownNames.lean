import WebCompat.Proofs.Scan.SingleUse

/-!
# Names behind the APIs that are found

An API is looked up by its path.  A path stands for one row of names only, as long
as no name has a point in it, so that an API of the knowledge base is found by one
row of names, and an API without a point by plain names only.
-/

namespace WebCompat
namespace Scan

open Script (Tree)
open Script.Tree (ArePointless)

theorem exists_spells_of_descriptor? {base : KnowledgeBase} {source : List Char} {node : Tree}
    {descriptor : Knowledge.Descriptor} (h : descriptor? base source node = some descriptor) :
    ∃ target names, node.target? = some target ∧ target.Spells source names ∧
      descriptor.api = dotted names := by
  rcases Option.bind_eq_some_iff.mp h with ⟨target, htarget, hrest⟩
  rcases Option.bind_eq_some_iff.mp hrest with ⟨path, hpath, hlookup⟩
  rcases Tree.exists_spells_of_path? hpath with ⟨names, hnames, rfl⟩
  exact ⟨target, names, htarget, hnames, KnowledgeBase.api_of_lookup_eq_some hlookup⟩

/--
A node has a path just if it spells a row of names, that is, if it is a plain name
or a member access whose object has a path.  The path joins the names by points and,
as long as no name has a point in it, belongs to these names alone.  So two nodes by
which one API is found spell the same names, and an API without a point is found by
plain names only.
-/
theorem path_of_names_unambiguous (source : List Char) (node : Tree) :
    ((node.path? source).isSome = true ↔
      node.kind = .identifier ∨ node.kind.isMember = true ∧ ∃ object property,
        node.child? .object = some object ∧ node.child? .property = some property ∧
          (object.path? source).isSome = true) ∧
    (∀ path, node.path? source = some path ↔
      ∃ names, node.Spells source names ∧ path = ['.'].intercalate names) ∧
    (∀ (otherSource : List Char) (other : Tree) (names otherNames : List (List Char)),
      node.Spells source names → other.Spells otherSource otherNames →
        ArePointless names → ArePointless otherNames →
          (node.path? source = other.path? otherSource ↔ names = otherNames)) ∧
    (∀ path, node.path? source = some path → '.' ∉ path → node.kind = .identifier) ∧
    ∀ (base : KnowledgeBase) (descriptor : Knowledge.Descriptor),
      descriptor? base source node = some descriptor →
        ∃ target names, node.target? = some target ∧ target.Spells source names ∧
          descriptor.api = dotted names ∧
          ('.' ∉ descriptor.api.toList → target.kind = .identifier) ∧
          ∀ (otherSource : List Char) (other : Tree),
            (descriptor? base otherSource other).map (·.api) = some descriptor.api →
              ∃ otherTarget otherNames, other.target? = some otherTarget ∧
                otherTarget.Spells otherSource otherNames ∧
                (ArePointless names → ArePointless otherNames → otherNames = names) := by
  refine ⟨Tree.isSome_path?_iff, fun path => Tree.path?_eq_some_iff_spells, ?_, ?_, ?_⟩
  · intro otherSource other names otherNames hnames hother
    exact Tree.path?_eq_iff_names_eq hnames hother
  · intro path hpath hpoint
    rcases Tree.exists_spells_of_path? hpath with ⟨names, hnames, rfl⟩
    exact hnames.kind_eq_identifier_of_notMem hpoint
  · intro base descriptor hdescriptor
    rcases exists_spells_of_descriptor? hdescriptor with
      ⟨target, names, htarget, hnames, hapi⟩
    refine ⟨target, names, htarget, hnames, hapi, ?_, ?_⟩
    · intro hpoint
      rw [hapi, dotted, String.toList_ofList] at hpoint
      exact hnames.kind_eq_identifier_of_notMem hpoint
    · intro otherSource other hother
      rcases Option.map_eq_some_iff.mp hother with ⟨otherDescriptor, hotherDescriptor, hsame⟩
      rcases exists_spells_of_descriptor? hotherDescriptor with
        ⟨otherTarget, otherNames, hotherTarget, hotherNames, hotherApi⟩
      refine ⟨otherTarget, otherNames, hotherTarget, hotherNames, ?_⟩
      intro hpointless hotherPointless
      rw [hotherApi, hapi] at hsame
      exact Tree.eq_of_intercalate_eq hotherNames.ne_nil hnames.ne_nil hotherPointless
        hpointless (String.ofList_injective hsame)

/-- The chain of the script `a?.b . c`. -/
def spacedChain : Tree :=
  .node .member none 0 8 [
    .node .member (some .object) 0 4 [
      .node .identifier (some .object) 0 1 [],
      .node .propertyName (some .property) 3 4 []],
    .node .propertyName (some .property) 7 8 []]

theorem spacedChain_spells : spacedChain.Spells "a?.b . c".toList [['a'], ['b'], ['c']] := by
  refine @Tree.Spells.member _ _ _ (.node .propertyName (some .property) 7 8 []) [['a'], ['b']]
    rfl rfl rfl ?_
  refine @Tree.Spells.member _ _ _ (.node .propertyName (some .property) 3 4 []) [['a']]
    rfl rfl rfl ?_
  exact .name rfl

theorem descriptor?_plainCall :
    descriptor? constructionBase "d(a)".toList plainCall =
      some (Knowledge.Curated.deprecated "" "" "" "d") := by
  have hpath :
      (Script.Tree.node .identifier (some .callee) 0 1 []).path? "d(a)".toList = some ['d'] :=
    Tree.path?_eq_some_iff.mpr (Or.inl ⟨rfl, by decide⟩)
  exact Option.bind_eq_some_iff.mpr ⟨['d'], hpath, by decide⟩

theorem spacedChain_shares_path :
    constructedChain.Spells "new a.b.c(d)".toList [['a'], ['b'], ['c']] ∧
      spacedChain.Spells "a?.b . c".toList [['a'], ['b'], ['c']] ∧
      ArePointless [['a'], ['b'], ['c']] ∧
      constructedChain.path? "new a.b.c(d)".toList = spacedChain.path? "a?.b . c".toList ∧
      descriptor? constructionBase "d(a)".toList plainCall =
        some (Knowledge.Curated.deprecated "" "" "" "d") ∧
      ∃ target names, plainCall.target? = some target ∧
        target.Spells "d(a)".toList names ∧ "d" = dotted names ∧ target.kind = .identifier := by
  have hchain := constructedChain_isChain.spells
  have hpointless : ArePointless [['a'], ['b'], ['c']] := by
    decide
  refine ⟨hchain, spacedChain_spells, hpointless, ?_, descriptor?_plainCall, ?_⟩
  · have hpaths :=
      (path_of_names_unambiguous "new a.b.c(d)".toList constructedChain).right.right.left
    exact (hpaths "a?.b . c".toList spacedChain _ _ hchain spacedChain_spells hpointless
      hpointless).mpr rfl
  · have hknown := (path_of_names_unambiguous "d(a)".toList plainCall).right.right.right.right
    rcases hknown constructionBase _ descriptor?_plainCall with
      ⟨target, names, htarget, hnames, hapi, hplain, _⟩
    exact ⟨target, names, htarget, hnames, hapi, hplain (by decide)⟩

end Scan
end WebCompat
