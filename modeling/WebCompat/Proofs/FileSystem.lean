import Mathlib.Data.List.Nodup
import WebCompat.FileSystem
import WebCompat.Proofs.Path

/-!
# File systems as trees of names

Entries of one directory have different names, and no name leads to another
place than the entry.  What stands where then says everything about a file
system but the order in which the entries of its directories are met, and that
order does not matter to where paths lead.
-/

namespace WebCompat
namespace FileNode

inductive WellFormed : FileNode → Prop
  | file (content : Option String) : WellFormed (file content)
  | link (target : String) : WellFormed (link target)
  | directory {entries : List (String × FileNode)}
      (nodup : (entries.map Prod.fst).Nodup)
      (isName : ∀ entry ∈ entries, Path.IsName entry.1)
      (inner : ∀ entry ∈ entries, WellFormed entry.2) : WellFormed (directory entries)

theorem wellFormed_directory_iff {entries : List (String × FileNode)} :
    (directory entries).WellFormed ↔ (entries.map Prod.fst).Nodup ∧
      ∀ entry ∈ entries, Path.IsName entry.1 ∧ entry.2.WellFormed := by
  constructor
  · intro h
    cases h with
    | directory nodup isName inner =>
        exact ⟨nodup, fun entry hentry => ⟨isName entry hentry, inner entry hentry⟩⟩
  · rintro ⟨nodup, h⟩
    constructor
    · exact nodup
    · exact fun entry hentry => (h entry hentry).left
    · exact fun entry hentry => (h entry hentry).right

theorem wellFormed_of_perm {entries others : List (String × FileNode)}
    (h : (directory entries).WellFormed) (hperm : entries.Perm others) :
    (directory others).WellFormed := by
  rw [wellFormed_directory_iff] at h ⊢
  refine ⟨(hperm.map Prod.fst).nodup_iff.mp h.left, ?_⟩
  intro entry hentry
  exact h.right entry (hperm.mem_iff.mpr hentry)

theorem mem_iff_lookup_eq_some {entries : List (String × FileNode)}
    (hnodup : (entries.map Prod.fst).Nodup) {name : String} {node : FileNode} :
    (name, node) ∈ entries ↔ entries.lookup name = some node := by
  rw [List.lookup_eq_some_iff]
  constructor
  · intro hmem
    obtain ⟨before, behind, rfl⟩ := List.append_of_mem hmem
    rw [List.map_append, List.map_cons, List.nodup_middle, List.nodup_cons] at hnodup
    refine ⟨before, behind, rfl, ?_⟩
    intro entry hentry
    rw [bne_iff_ne]
    rintro rfl
    have hkey : entry.1 ∈ before.map Prod.fst := List.mem_map_of_mem hentry
    exact hnodup.left (List.mem_append_left _ hkey)
  · rintro ⟨before, behind, rfl, -⟩
    exact List.mem_append_right _ List.mem_cons_self

theorem wellFormed_entries {present : Option FileNode}
    (hpresent : ∀ node ∈ present, node.WellFormed) : (directory (entries present)).WellFormed := by
  have hempty : (directory []).WellFormed := by
    simp [wellFormed_directory_iff]
  cases present with
  | none => exact hempty
  | some node =>
      cases node with
      | file | link => exact hempty
      | directory => exact hpresent _ rfl

theorem wellFormed_put {node : FileNode} (hnode : node.WellFormed) {names : List String}
    (hnames : ∀ name ∈ names, Path.IsName name) {present : Option FileNode}
    (hpresent : ∀ node ∈ present, node.WellFormed) : (put node names present).WellFormed := by
  induction names generalizing present with
  | nil =>
      cases present with
      | none => exact hnode
      | some found => exact hpresent found rfl
  | cons name rest ih =>
      rw [List.forall_mem_cons] at hnames
      cases wellFormed_entries hpresent with
      | directory nodup isName inner =>
          have hinner : (put node rest ((entries present).lookup name)).WellFormed := by
            apply ih hnames.right
            intro found hfound
            exact inner (name, found) ((mem_iff_lookup_eq_some nodup).mpr hfound)
          constructor
          · rw [List.map_append, List.map_singleton, List.nodup_append]
            refine ⟨nodup.sublist (List.filter_sublist.map _), List.nodup_singleton name, ?_⟩
            simp
          · rw [List.forall_mem_append, List.forall_mem_singleton]
            exact ⟨fun entry hentry => isName entry (List.mem_of_mem_filter hentry), hnames.left⟩
          · rw [List.forall_mem_append, List.forall_mem_singleton]
            exact ⟨fun entry hentry => inner entry (List.mem_of_mem_filter hentry), hinner⟩

theorem descend?_append (node : FileNode) (first second : List String) :
    node.descend? (first ++ second) =
      (node.descend? first).bind fun next => next.descend? second := by
  induction first generalizing node with
  | nil => rfl
  | cons name rest ih =>
      rw [List.cons_append, descend?, descend?, Option.bind_assoc]
      congr 1
      funext next
      exact ih next

theorem WellFormed.descend? {node : FileNode} (h : node.WellFormed) {names : List String}
    {found : FileNode} (hfound : node.descend? names = some found) : found.WellFormed := by
  induction names generalizing node with
  | nil =>
      cases hfound
      exact h
  | cons name rest ih =>
      obtain ⟨next, hnext, hrest⟩ := Option.bind_eq_some_iff.mp hfound
      cases h with
      | file | link => cases hnext
      | directory nodup isName inner =>
          exact ih (inner (name, next) ((mem_iff_lookup_eq_some nodup).mpr hnext)) hrest

theorem WellFormed.isName_of_descend? {node : FileNode} (h : node.WellFormed) {names : List String}
    {found : FileNode} (hfound : node.descend? names = some found) :
    ∀ name ∈ names, Path.IsName name := by
  induction names generalizing node with
  | nil => exact List.forall_mem_nil _
  | cons name rest ih =>
      obtain ⟨next, hnext, hrest⟩ := Option.bind_eq_some_iff.mp hfound
      cases h with
      | file | link => cases hnext
      | directory nodup isName inner =>
          have hentry := (mem_iff_lookup_eq_some nodup).mpr hnext
          rw [List.forall_mem_cons]
          exact ⟨isName _ hentry, ih (inner _ hentry) hrest⟩

/-!
## Trees up to the order of entries
-/

/-- What is left of a node when its entries are not looked at. -/
def bare : FileNode → FileNode
  | directory _ => directory []
  | node => node

/-- The trees have the same at every place, whatever the order of entries. -/
def SameTree (node other : FileNode) : Prop :=
  ∀ names, (node.descend? names).map bare = (other.descend? names).map bare

theorem sameTree_directory {entries others : List (String × FileNode)}
    (h : ∀ name, Option.Rel SameTree (entries.lookup name) (others.lookup name)) :
    SameTree (directory entries) (directory others) := by
  intro names
  cases names with
  | nil => rfl
  | cons name rest =>
      have hname := h name
      rw [descend?, descend?, entry?, entry?]
      generalize entries.lookup name = node at hname ⊢
      generalize others.lookup name = other at hname ⊢
      cases hname with
      | none => rfl
      | some hsame => exact hsame rest

theorem sameTree_of_perm {entries others : List (String × FileNode)}
    (hnodup : (entries.map Prod.fst).Nodup) (hperm : entries.Perm others) :
    SameTree (directory entries) (directory others) := by
  apply sameTree_directory
  intro name
  have hlookup : entries.lookup name = others.lookup name := by
    apply Option.ext
    intro node
    rw [← mem_iff_lookup_eq_some hnodup,
      ← mem_iff_lookup_eq_some ((hperm.map Prod.fst).nodup_iff.mp hnodup), hperm.mem_iff]
  rw [hlookup]
  cases others.lookup name with
  | none => exact .none
  | some node => exact .some fun _ => rfl

theorem sameTree_put {node other : FileNode} (h : SameTree node other) (names : List String)
    (present : Option FileNode) : SameTree (put node names present) (put other names present) := by
  induction names generalizing present with
  | nil =>
      cases present with
      | none => exact h
      | some found => exact fun _ => rfl
  | cons name rest ih =>
      apply sameTree_directory
      intro key
      rw [List.lookup_append, List.lookup_append]
      cases ((entries present).filter (·.1 != name)).lookup key with
      | some found => exact .some fun _ => rfl
      | none =>
          rw [Option.none_or, Option.none_or, List.lookup_cons, List.lookup_cons]
          cases key == name with
          | true => exact .some (ih _)
          | false => exact .none

end FileNode

/-!
# File systems that differ in the order of entries

Links are followed step by step, and each step asks only which node has a name.
-/

namespace FileSystem

theorem wellFormed_put {files : FileSystem} (hfiles : files.root.WellFormed) {node : FileNode}
    (hnode : node.WellFormed) {place : List String} (hplace : ∀ name ∈ place, Path.IsName name) :
    (files.put place node).root.WellFormed := by
  apply FileNode.wellFormed_put hnode hplace
  intro present hpresent
  cases hpresent
  exact hfiles

theorem node?_append (files : FileSystem) (place names : List String) :
    files.node? (place ++ names) = (files.node? place).bind fun node => node.descend? names :=
  FileNode.descend?_append files.root place names

theorem node?_entry {files : FileSystem} {place : List String}
    {entries : List (String × FileNode)} (hnode : files.node? place = some (.directory entries))
    (hnodup : (entries.map Prod.fst).Nodup) {entry : String × FileNode} (hentry : entry ∈ entries) :
    files.node? (place ++ [entry.1]) = some entry.2 := by
  have hlookup := (FileNode.mem_iff_lookup_eq_some hnodup).mp hentry
  rw [node?_append, hnode, Option.bind_some, FileNode.descend?, FileNode.entry?, hlookup]
  rfl

theorem exists_entries_of_isDirectoryAt {files : FileSystem} {place : List String}
    (h : files.isDirectoryAt place = true) :
    ∃ entries, files.node? place = some (.directory entries) := by
  obtain ⟨node, hnode, hdirectory⟩ := (Option.any_eq_true _ _).mp h
  cases node with
  | file | link => cases hdirectory
  | directory entries => exact ⟨entries, hnode⟩

/-- The file systems are the same but for the order in which entries are met. -/
structure SameFiles (files others : FileSystem) : Prop where
  root : files.root.SameTree others.root
  workingDirectory : files.workingDirectory = others.workingDirectory

namespace SameFiles

variable {files others : FileSystem}

theorem map_bare_node? (h : files.SameFiles others) (place : List String) :
    (files.node? place).map FileNode.bare = (others.node? place).map FileNode.bare :=
  h.root place

theorem node?_cases (h : files.SameFiles others) (place : List String) :
    (files.node? place = none ∧ others.node? place = none) ∨
      (∃ content, files.node? place = some (.file content) ∧
        others.node? place = some (.file content)) ∨
      (∃ target, files.node? place = some (.link target) ∧
        others.node? place = some (.link target)) ∨
      ∃ found found', files.node? place = some (.directory found) ∧
        others.node? place = some (.directory found') := by
  have hbare := h.map_bare_node? place
  generalize files.node? place = first at hbare ⊢
  generalize others.node? place = second at hbare ⊢
  rcases first with _ | (_ | _ | _) <;> rcases second with _ | (_ | _ | _) <;>
    simp_all [FileNode.bare]

theorem isSome_node? (h : files.SameFiles others) (place : List String) :
    (files.node? place).isSome = (others.node? place).isSome := by
  rw [← Option.isSome_map, h.map_bare_node?, Option.isSome_map]

theorem node?_eq_file_iff (h : files.SameFiles others) (place : List String)
    (content : Option String) :
    files.node? place = some (.file content) ↔ others.node? place = some (.file content) := by
  rcases h.node?_cases place with ⟨hfirst, hsecond⟩ | ⟨_, hfirst, hsecond⟩ | ⟨_, hfirst, hsecond⟩ |
    ⟨_, _, hfirst, hsecond⟩ <;> rw [hfirst, hsecond]
  simp

theorem isDirectoryAt_eq (h : files.SameFiles others) (place : List String) :
    files.isDirectoryAt place = others.isDirectoryAt place := by
  rw [isDirectoryAt, isDirectoryAt]
  rcases h.node?_cases place with ⟨hfirst, hsecond⟩ | ⟨_, hfirst, hsecond⟩ | ⟨_, hfirst, hsecond⟩ |
    ⟨_, _, hfirst, hsecond⟩ <;> rw [hfirst, hsecond]
  rfl

theorem advance_eq (h : files.SameFiles others)
    (follow : List String → List Step → Option (List String)) (place : List String)
    (steps : List Step) : files.advance follow place steps = others.advance follow place steps := by
  induction steps generalizing place with
  | nil => rw [advance, advance, h.isSome_node?]
  | cons step rest ih =>
      cases step with
      | root => exact ih []
      | here => rw [advance, advance, h.isDirectoryAt_eq, ih]
      | up => rw [advance, advance, h.isDirectoryAt_eq, ih]
      | name text =>
          rw [advance, advance]
          rcases h.node?_cases (place ++ [text]) with ⟨hfirst, hsecond⟩ | ⟨_, hfirst, hsecond⟩ |
            ⟨_, hfirst, hsecond⟩ | ⟨_, _, hfirst, hsecond⟩ <;> rw [hfirst, hsecond]
          · exact ih _
          · exact ih _

theorem locateWithin_eq (h : files.SameFiles others) (links : Nat) :
    files.locateWithin links = others.locateWithin links := by
  induction links with
  | zero => rfl
  | succ links ih =>
      funext place steps
      rw [locateWithin, locateWithin, ih, h.advance_eq]

theorem locate?_eq (h : files.SameFiles others) (path : String) :
    files.locate? path = others.locate? path := by
  rw [locate?, locate?, h.locateWithin_eq, h.workingDirectory]

end SameFiles
end FileSystem
end WebCompat
