import Mathlib.Data.List.Sort
import Mathlib.Data.String.Basic
import WebCompat.Proofs.FileSystem
import WebCompat.Walk

/-!
# What a walk finds

A walk lists every file that it is to find exactly once: this is so for the
files of an entry if it is so for those of the entries inside of it.  Sorting
then leaves one list, which depends on what stands where and not on the order
in which the entries are met.
-/

namespace WebCompat
namespace Ignore

variable {files others : FileSystem}

theorem Level.rulesAt_eq (h : files.SameFiles others) (place names : List String) :
    rulesAt files place names = rulesAt others place names := by
  rw [rulesAt, rulesAt, h.locateWithin_eq]
  cases others.locateWithin FileSystem.maxLinks place (names.map .name) with
  | none => rfl
  | some found =>
      rw [Option.bind_some, Option.bind_some]
      rcases h.node?_cases found with ⟨hfirst, hsecond⟩ | ⟨_, hfirst, hsecond⟩ |
        ⟨_, hfirst, hsecond⟩ | ⟨_, _, hfirst, hsecond⟩ <;> rw [hfirst, hsecond]

theorem Level.ofDirectory_eq (h : files.SameFiles others) :
    ofDirectory files = ofDirectory others := by
  funext place below
  rw [ofDirectory, ofDirectory]
  simp only [rulesAt_eq h, h.locateWithin_eq]

theorem Chain.ofPlace_eq (h : files.SameFiles others) : ofPlace files = ofPlace others := by
  funext place
  rw [ofPlace, ofPlace, Level.ofDirectory_eq h]

theorem Chain.enter_eq (h : files.SameFiles others) : enter files = enter others := by
  funext place name chain
  rw [enter, enter, Level.ofDirectory_eq h]

end Ignore

namespace Walk

variable {context : Context}

/-!
## The files to be scanned
-/

namespace Place

def start (context : Context) (root : String) (place : List String) : Place where
  names := place
  userPath := userNames root
  relative := []
  chain := .ofPlace context.files place

def descend (context : Context) (place : Place) (names : List String) : Place :=
  names.foldl (fun place name => place.enter context name) place

end Place

/-- Whether a row of names leads from a place to a file that is to be scanned. -/
structure IsScanned (context : Context) (place : Place) (names : List String) : Prop where
  isFile : ∃ content, context.files.node? (place.names ++ names) = some (.file content)
  /-- Neither the file nor a directory on the way to it is passed over. -/
  notSkipped : ∀ directories name behind, names = directories ++ name :: behind →
    (place.descend context directories).isSkipped context name (!behind.isEmpty) = false
  /-- No directory on the way is excluded; the file may have such a name. -/
  notExcluded : ∀ name ∈ names.dropLast, name ∉ context.selection.excludedDirectories
  extension : ∃ name ∈ names.getLast?, ∃ extension ∈ Path.extensionOfName? name,
    ∃ known ∈ context.selection.extensions, known.toLower = extension.toLower

theorem isSelected_iff {selection : Selection} {name : String} :
    isSelected selection name = true ↔ ∃ extension ∈ Path.extensionOfName? name,
      ∃ known ∈ selection.extensions, known.toLower = extension.toLower := by
  simp [isSelected, Selection.hasExtension, Option.any_eq_true]

theorem isExcluded_eq_false_iff {selection : Selection} {name : String} :
    selection.isExcluded name = false ↔ name ∉ selection.excludedDirectories := by
  simp [Selection.isExcluded]

theorem IsScanned.ne_nil {place : Place} {names : List String}
    (h : IsScanned context place names) : names ≠ [] := by
  rintro rfl
  obtain ⟨name, hname, -⟩ := h.extension
  cases hname

theorem isScanned_singleton_iff {place : Place} {name : String} :
    IsScanned context place [name] ↔
      (∃ content, context.files.node? (place.names ++ [name]) = some (.file content)) ∧
        place.isSkipped context name false = false ∧
        isSelected context.selection name = true := by
  rw [isSelected_iff]
  constructor
  · intro h
    obtain ⟨last, hlast, hextension⟩ := h.extension
    cases hlast
    exact ⟨h.isFile, h.notSkipped [] name [] rfl, hextension⟩
  · rintro ⟨hfile, hskipped, hextension⟩
    refine ⟨hfile, ?_, List.forall_mem_nil _, name, rfl, hextension⟩
    intro directories other behind hnames
    cases directories with
    | nil =>
        cases hnames
        exact hskipped
    | cons => simp at hnames

theorem isScanned_cons_iff {place : Place} {name : String} {behind : List String}
    (hbehind : behind ≠ []) :
    IsScanned context place (name :: behind) ↔
      place.isSkipped context name true = false ∧ context.selection.isExcluded name = false ∧
        IsScanned context (place.enter context name) behind := by
  have hplace : place.names ++ name :: behind = (place.enter context name).names ++ behind := by
    simp [Place.enter]
  have hmore : (!behind.isEmpty) = true := by
    simp [hbehind]
  rw [isExcluded_eq_false_iff]
  constructor
  · intro h
    have hskipped := h.notSkipped [] name behind rfl
    rw [hmore] at hskipped
    have hexcluded := h.notExcluded
    rw [List.dropLast_cons_of_ne_nil hbehind, List.forall_mem_cons] at hexcluded
    refine ⟨hskipped, hexcluded.left, ?_⟩
    constructor
    · rw [← hplace]
      exact h.isFile
    · intro directories other rest hrest
      exact h.notSkipped (name :: directories) other rest (by rw [hrest]; rfl)
    · exact hexcluded.right
    · have hextension := h.extension
      rwa [List.getLast?_cons_of_ne_nil hbehind] at hextension
  · rintro ⟨hskipped, hexcluded, h⟩
    constructor
    · rw [hplace]
      exact h.isFile
    · intro directories other rest hrest
      cases directories with
      | nil =>
          cases hrest
          rw [hmore]
          exact hskipped
      | cons first directories =>
          cases hrest
          exact h.notSkipped directories other rest rfl
    · rw [List.dropLast_cons_of_ne_nil hbehind, List.forall_mem_cons]
      exact ⟨hexcluded, h.notExcluded⟩
    · rw [List.getLast?_cons_of_ne_nil hbehind]
      exact h.extension

/-!
## One listing of each file
-/

/-- The paths are those of the rows of names with a property, each of them once. -/
def ListsBelow (place : Place) (paths : List (List String)) (P : List String → Prop) : Prop :=
  paths.Nodup ∧ ∀ path, path ∈ paths ↔ ∃ names, path = place.relative ++ names ∧ P names

theorem directoryFiles_eq_flatMap (context : Context) (place : Place)
    (entries : List (String × FileNode)) :
    directoryFiles context place entries =
      entries.flatMap fun entry => entryFiles context place entry.1 entry.2 := by
  induction entries with
  | nil => rw [directoryFiles, List.flatMap_nil]
  | cons entry rest ih => rw [directoryFiles, ih, List.flatMap_cons]

theorem directoryFiles_listsBelow_of_entries {place : Place} {entries : List (String × FileNode)}
    (hnode : context.files.node? place.names = some (.directory entries))
    (hnodup : (entries.map Prod.fst).Nodup)
    (hentries : ∀ entry ∈ entries, ListsBelow place (entryFiles context place entry.1 entry.2)
      fun names => names.head? = some entry.1 ∧ IsScanned context place names) :
    ListsBelow place (directoryFiles context place entries) (IsScanned context place) := by
  rw [directoryFiles_eq_flatMap]
  constructor
  · rw [List.nodup_flatMap]
    refine ⟨fun entry hentry => (hentries entry hentry).left, ?_⟩
    apply (List.pairwise_map.mp hnodup).imp_of_mem
    intro first second hfirst hsecond hne path hpath hother
    obtain ⟨names, rfl, hhead, -⟩ := ((hentries first hfirst).right path).mp hpath
    obtain ⟨names', heq, hhead', -⟩ := ((hentries second hsecond).right _).mp hother
    rw [List.append_cancel_left heq, hhead'] at hhead
    exact hne (Option.some.inj hhead).symm
  · intro path
    rw [List.mem_flatMap]
    constructor
    · rintro ⟨entry, hentry, hpath⟩
      obtain ⟨names, hnames, -, hscanned⟩ := ((hentries entry hentry).right path).mp hpath
      exact ⟨names, hnames, hscanned⟩
    · rintro ⟨names, hnames, hscanned⟩
      cases names with
      | nil => exact absurd rfl hscanned.ne_nil
      | cons name behind =>
          obtain ⟨content, hfile⟩ := hscanned.isFile
          rw [FileSystem.node?_append, hnode, Option.bind_some, FileNode.descend?] at hfile
          obtain ⟨node, hlookup, -⟩ := Option.bind_eq_some_iff.mp hfile
          have hentry := (FileNode.mem_iff_lookup_eq_some hnodup).mpr hlookup
          exact ⟨_, hentry, ((hentries _ hentry).right path).mpr ⟨_, hnames, rfl, hscanned⟩⟩

section Entry

variable {place : Place} {name : String}

theorem node?_cons {node : FileNode}
    (hnode : context.files.node? (place.names ++ [name]) = some node) (behind : List String) :
    context.files.node? (place.names ++ name :: behind) = node.descend? behind := by
  rw [List.append_cons, FileSystem.node?_append, hnode, Option.bind_some]

theorem isScanned_iff_of_file {content : Option String} {names : List String}
    (hnode : context.files.node? (place.names ++ [name]) = some (.file content)) :
    names.head? = some name ∧ IsScanned context place names ↔
      names = [name] ∧ place.isSkipped context name false = false ∧
        isSelected context.selection name = true := by
  constructor
  · rintro ⟨hhead, hscanned⟩
    obtain ⟨behind, rfl⟩ := List.head?_eq_some_iff.mp hhead
    obtain ⟨_, hfile⟩ := hscanned.isFile
    rw [node?_cons hnode] at hfile
    cases behind with
    | nil => exact ⟨rfl, (isScanned_singleton_iff.mp hscanned).right⟩
    | cons => cases hfile
  · rintro ⟨rfl, hkept⟩
    exact ⟨rfl, isScanned_singleton_iff.mpr ⟨⟨content, hnode⟩, hkept⟩⟩

theorem not_isScanned_of_link {target : String} {names : List String}
    (hnode : context.files.node? (place.names ++ [name]) = some (.link target))
    (hhead : names.head? = some name) : ¬IsScanned context place names := by
  intro hscanned
  obtain ⟨behind, rfl⟩ := List.head?_eq_some_iff.mp hhead
  obtain ⟨_, hfile⟩ := hscanned.isFile
  rw [node?_cons hnode] at hfile
  cases behind with
  | nil => cases hfile
  | cons => cases hfile

theorem isScanned_iff_of_directory {entries : List (String × FileNode)} {names : List String}
    (hnode : context.files.node? (place.names ++ [name]) = some (.directory entries)) :
    names.head? = some name ∧ IsScanned context place names ↔
      ∃ behind, names = name :: behind ∧
        (place.isSkipped context name true = false ∧
          context.selection.isExcluded name = false ∧
          IsScanned context (place.enter context name) behind) := by
  constructor
  · rintro ⟨hhead, hscanned⟩
    obtain ⟨behind, rfl⟩ := List.head?_eq_some_iff.mp hhead
    have hbehind : behind ≠ [] := by
      rintro rfl
      obtain ⟨_, hfile⟩ := hscanned.isFile
      rw [hnode] at hfile
      cases hfile
    exact ⟨behind, rfl, (isScanned_cons_iff hbehind).mp hscanned⟩
  · rintro ⟨behind, rfl, hscanned⟩
    exact ⟨rfl, (isScanned_cons_iff hscanned.right.right.ne_nil).mpr hscanned⟩

end Entry

theorem listsBelow_nil {place : Place} {P : List String → Prop} (h : ∀ names, ¬P names) :
    ListsBelow place [] P := by
  refine ⟨List.nodup_nil, ?_⟩
  intro path
  simp [h]

/-- The files of an entry are listed; the induction is on what stands inside of it. -/
theorem entryFiles_listsBelow {node : FileNode} (h : node.WellFormed) {place : Place}
    {name : String} (hnode : context.files.node? (place.names ++ [name]) = some node) :
    ListsBelow place (entryFiles context place name node)
      fun names => names.head? = some name ∧ IsScanned context place names := by
  induction h generalizing place name with
  | file content =>
      rw [entryFiles]
      split
      · rename_i hpassed
        apply listsBelow_nil
        intro names hnames
        obtain ⟨-, hkept⟩ := (isScanned_iff_of_file hnode).mp hnames
        simp [hkept] at hpassed
      · rename_i hkept
        rw [Bool.or_eq_true, not_or, Bool.not_eq_true, Bool.not_eq_true,
          Bool.not_eq_false'] at hkept
        refine ⟨List.nodup_singleton _, ?_⟩
        intro path
        simp [isScanned_iff_of_file hnode, hkept]
  | link target =>
      rw [entryFiles]
      apply listsBelow_nil
      rintro names ⟨hhead, hscanned⟩
      exact not_isScanned_of_link hnode hhead hscanned
  | @directory entries nodup isName inner ih =>
      rw [entryFiles]
      split
      · rename_i hpassed
        apply listsBelow_nil
        intro names hnames
        obtain ⟨_, -, hskipped, hexcluded, -⟩ := (isScanned_iff_of_directory hnode).mp hnames
        simp [hskipped, hexcluded] at hpassed
      · rename_i hkept
        rw [Bool.or_eq_true, not_or, Bool.not_eq_true, Bool.not_eq_true] at hkept
        have hlists : ListsBelow (place.enter context name)
            (directoryFiles context (place.enter context name) entries)
            (IsScanned context (place.enter context name)) := by
          apply directoryFiles_listsBelow_of_entries hnode nodup
          intro entry hentry
          apply ih entry hentry
          exact FileSystem.node?_entry hnode nodup hentry
        refine ⟨hlists.left, ?_⟩
        intro path
        rw [hlists.right]
        simp [isScanned_iff_of_directory hnode, hkept, Place.enter]

theorem directoryFiles_listsBelow {place : Place} {entries : List (String × FileNode)}
    (h : (FileNode.directory entries).WellFormed)
    (hnode : context.files.node? place.names = some (.directory entries)) :
    ListsBelow place (directoryFiles context place entries) (IsScanned context place) := by
  cases h with
  | directory nodup isName inner =>
      apply directoryFiles_listsBelow_of_entries hnode nodup
      intro entry hentry
      exact entryFiles_listsBelow (inner entry hentry) (FileSystem.node?_entry hnode nodup hentry)

/-!
## The list of files
-/

theorem mergeSort_ascending {paths : List (List String)} (hnodup : paths.Nodup) :
    (paths.mergeSort fun a b => !decide (b < a)).Pairwise (· < ·) := by
  have hsorted : (paths.mergeSort fun a b => !decide (b < a)).Pairwise
      fun a b => (!decide (b < a)) = true := by
    apply List.pairwise_mergeSort
    · intro a b c hab hbc
      simp only [Bool.not_eq_true', decide_eq_false_iff_not, not_lt] at hab hbc ⊢
      exact le_trans hab hbc
    · intro a b
      simpa using le_total a b
  have hdistinct := (List.mergeSort_perm paths fun a b => !decide (b < a)).nodup_iff.mpr hnodup
  apply hsorted.imp₂ _ hdistinct
  intro a b hle hne
  simp only [Bool.not_eq_true', decide_eq_false_iff_not, not_lt] at hle
  exact lt_of_le_of_ne hle hne

theorem components_pathBelow {root : String} {names : List String}
    (hnames : ∀ name ∈ names, Path.IsName name) :
    Path.components (pathBelow root names) = Path.components root ++ names.map .name := by
  induction names generalizing root with
  | nil => exact (List.append_nil _).symm
  | cons name rest ih =>
      rw [List.forall_mem_cons] at hnames
      rw [pathBelow, List.foldl_cons, ← pathBelow, ih hnames.right,
        Path.components_join hnames.left, List.map_cons, List.append_assoc, List.singleton_append]

theorem pathBelow_inj {root : String} {first second : List String}
    (hfirst : ∀ name ∈ first, Path.IsName name) (hsecond : ∀ name ∈ second, Path.IsName name)
    (h : pathBelow root first = pathBelow root second) : first = second := by
  have hcomponents := congrArg Path.components h
  rw [components_pathBelow hfirst, components_pathBelow hsecond] at hcomponents
  apply List.map_injective_iff.mpr _ (List.append_cancel_left hcomponents)
  intro a b hab
  exact Step.name.inj hab

theorem before_pathBelow {root : String} {first second : List String}
    (hfirst : ∀ name ∈ first, Path.IsName name) (hsecond : ∀ name ∈ second, Path.IsName name)
    (hlt : first < second) : Path.Before (pathBelow root first) (pathBelow root second) := by
  rw [Path.Before, components_pathBelow hfirst, components_pathBelow hsecond]
  exact (Path.lex_map_name hlt).append_left _ _

section Files

variable {root : String} {place : List String}

theorem exists_sorted_names (hfiles : context.files.root.WellFormed)
    (hplace : context.files.locate? root = some place)
    (hdirectory : context.files.isDirectoryAt place = true) :
    ∃ rows : List (List String), files context root = rows.map (pathBelow root) ∧
      rows.Pairwise (· < ·) ∧
      ∀ names, names ∈ rows ↔ IsScanned context (.start context root place) names := by
  obtain ⟨entries, hnode⟩ := FileSystem.exists_entries_of_isDirectoryAt hdirectory
  obtain ⟨hnodup, hlists⟩ : ListsBelow (.start context root place)
      (directoryFiles context (.start context root place) entries)
      (IsScanned context (.start context root place)) :=
    directoryFiles_listsBelow (hfiles.descend? hnode) hnode
  refine ⟨_, ?_, mergeSort_ascending hnodup, ?_⟩
  · rw [files, hplace]
    dsimp only
    rw [hnode]
    rfl
  · intro names
    rw [List.mem_mergeSort, hlists]
    simp [Place.start]

theorem mem_files_iff (hfiles : context.files.root.WellFormed)
    (hplace : context.files.locate? root = some place)
    (hdirectory : context.files.isDirectoryAt place = true) {path : String} :
    path ∈ files context root ↔ ∃ names,
      path = pathBelow root names ∧ IsScanned context (.start context root place) names := by
  obtain ⟨rows, hrows, -, hmem⟩ := exists_sorted_names hfiles hplace hdirectory
  rw [hrows, List.mem_map]
  constructor
  · rintro ⟨names, hnames, rfl⟩
    exact ⟨names, rfl, (hmem names).mp hnames⟩
  · rintro ⟨names, rfl, hscanned⟩
    exact ⟨names, (hmem names).mpr hscanned, rfl⟩

theorem IsScanned.isName (hfiles : context.files.root.WellFormed) {place : Place}
    {names : List String} (h : IsScanned context place names) :
    ∀ name ∈ names, Path.IsName name := by
  obtain ⟨content, hfile⟩ := h.isFile
  intro name hname
  exact hfiles.isName_of_descend? hfile name (List.mem_append_right _ hname)

theorem files_ascending (hfiles : context.files.root.WellFormed)
    (hplace : context.files.locate? root = some place)
    (hdirectory : context.files.isDirectoryAt place = true) :
    (files context root).Pairwise Path.Before := by
  obtain ⟨rows, hrows, hascending, hmem⟩ := exists_sorted_names hfiles hplace hdirectory
  rw [hrows, List.pairwise_map]
  apply hascending.imp_of_mem
  intro first second hfirst hsecond hlt
  have hfirst := ((hmem first).mp hfirst).isName hfiles
  have hsecond := ((hmem second).mp hsecond).isName hfiles
  exact before_pathBelow hfirst hsecond hlt

end Files

/-!
## Other orders of entries
-/

section SameFiles

variable {others : FileSystem} (h : context.files.SameFiles others)
include h

theorem start_eq (root : String) (place : List String) :
    Place.start { context with files := others } root place = Place.start context root place := by
  rw [Place.start, Place.start, Ignore.Chain.ofPlace_eq h]

theorem enter_eq : Place.enter { context with files := others } = Place.enter context := by
  funext name place
  rw [Place.enter, Place.enter, Ignore.Chain.enter_eq h]

theorem descend_eq : Place.descend { context with files := others } = Place.descend context := by
  funext place names
  rw [Place.descend, Place.descend, enter_eq h]

theorem isScanned_iff {place : Place} {names : List String} :
    IsScanned { context with files := others } place names ↔ IsScanned context place names := by
  have hfile (content : Option String) :=
    h.node?_eq_file_iff (place.names ++ names) content
  constructor
  · intro hscanned
    obtain ⟨content, hcontent⟩ := hscanned.isFile
    have hskipped := hscanned.notSkipped
    rw [descend_eq h] at hskipped
    exact ⟨⟨content, (hfile content).mpr hcontent⟩, hskipped, hscanned.notExcluded,
      hscanned.extension⟩
  · intro hscanned
    obtain ⟨content, hcontent⟩ := hscanned.isFile
    refine ⟨⟨content, (hfile content).mp hcontent⟩, ?_, hscanned.notExcluded, hscanned.extension⟩
    rw [descend_eq h]
    exact hscanned.notSkipped

end SameFiles

/--
A directory stands for exactly the files below it that are to be scanned, each
of them once and in the order of their paths, however the file system orders
the entries of its directories.
-/
theorem files_exact_ascending_and_independent_of_entry_order (context : Context) (root : String)
    (place : List String) (hfiles : context.files.root.WellFormed)
    (hplace : context.files.locate? root = some place)
    (hdirectory : context.files.isDirectoryAt place = true) :
    (files context root).Pairwise Path.Before ∧
      (∀ path, path ∈ files context root ↔ ∃ names,
        path = pathBelow root names ∧ IsScanned context (.start context root place) names) ∧
      ∀ others : FileSystem, others.root.WellFormed → context.files.SameFiles others →
        files { context with files := others } root = files context root := by
  refine ⟨files_ascending hfiles hplace hdirectory, ?_, ?_⟩
  · intro path
    exact mem_files_iff hfiles hplace hdirectory
  · intro others hothers hsame
    have hplace' := hplace
    have hdirectory' := hdirectory
    rw [hsame.locate?_eq] at hplace'
    rw [hsame.isDirectoryAt_eq] at hdirectory'
    -- Both lists are strictly ascending, so it is enough that they have the same members.
    apply List.Pairwise.eq_of_mem_iff (r := Path.Before)
    · exact files_ascending hothers hplace' hdirectory'
    · exact files_ascending hfiles hplace hdirectory
    · intro path
      rw [mem_files_iff hothers hplace' hdirectory', mem_files_iff hfiles hplace hdirectory,
        start_eq hsame]
      simp only [isScanned_iff hsame]

def mixedEntries : List (String × FileNode) := [
  ("src-a", .directory [("x.TS", .file none)]),
  ("src", .directory [("link.js", .link "vendor.js"), ("vendor.js", .file none)]),
  (".ignore", .file (some "skipped.*\n")),
  ("skipped.js", .file none)]

def mixedContext (entries : List (String × FileNode)) : Context where
  files := FileSystem.put { root := .directory [], workingDirectory := [] } ["vendor.js"]
    (.directory entries)
  selection := { extensions := ["js", "ts"], excludedDirectories := ["vendor.js"] }
  userRules := []

theorem mixedEntries_wellFormed : (FileNode.directory mixedEntries).WellFormed := by
  simp [mixedEntries, FileNode.wellFormed_directory_iff, FileNode.WellFormed.file,
    FileNode.WellFormed.link, Path.IsName]

theorem mixedContext_wellFormed {entries : List (String × FileNode)}
    (h : (FileNode.directory entries).WellFormed) :
    (mixedContext entries).files.root.WellFormed := by
  apply FileSystem.wellFormed_put _ h
  · decide
  · simp [FileNode.wellFormed_directory_iff]

theorem mixedTree_walked :
    (files (mixedContext mixedEntries) "vendor.js").Pairwise Path.Before ∧
      "vendor.js/src/vendor.js" ∈ files (mixedContext mixedEntries) "vendor.js" ∧
      "vendor.js/src-a/x.TS" ∈ files (mixedContext mixedEntries) "vendor.js" ∧
      "vendor.js/skipped.js" ∉ files (mixedContext mixedEntries) "vendor.js" ∧
      files (mixedContext mixedEntries.reverse) "vendor.js" =
        files (mixedContext mixedEntries) "vendor.js" := by
  have hfiles := mixedContext_wellFormed mixedEntries_wellFormed
  obtain ⟨hascending, hexact, hsame⟩ := files_exact_ascending_and_independent_of_entry_order
    (mixedContext mixedEntries) "vendor.js" ["vendor.js"] hfiles (by decide +kernel)
    (by decide +kernel)
  refine ⟨hascending, (hexact _).mpr ⟨["src", "vendor.js"], by decide, ?_⟩,
    (hexact _).mpr ⟨["src-a", "x.TS"], by decide, ?_⟩, ?_, ?_⟩
  · rw [isScanned_cons_iff (by simp), isScanned_singleton_iff, isSelected_iff]
    exact ⟨by decide +kernel, by decide, ⟨none, rfl⟩, by decide +kernel, "js", by decide, "js",
      by decide, rfl⟩
  · rw [isScanned_cons_iff (by simp), isScanned_singleton_iff, isSelected_iff]
    have hcase : "ts".toLower = "ts" ∧ "TS".toLower = "ts" := by
      decide +kernel
    exact ⟨by decide +kernel, by decide, ⟨none, rfl⟩, by decide +kernel, "TS", by decide, "ts",
      by decide, hcase.left.trans hcase.right.symm⟩
  · rw [hexact]
    rintro ⟨names, hpath, hscanned⟩
    have hpath' : pathBelow "vendor.js" ["skipped.js"] = pathBelow "vendor.js" names := hpath
    have hnames := pathBelow_inj (by decide) (hscanned.isName hfiles) hpath'
    rw [← hnames, isScanned_singleton_iff] at hscanned
    exact absurd hscanned.right.left (by decide +kernel)
  · apply hsame (mixedContext mixedEntries.reverse).files
    · exact mixedContext_wellFormed
        (FileNode.wellFormed_of_perm mixedEntries_wellFormed (List.reverse_perm _).symm)
    · constructor
      · apply FileNode.sameTree_put
        exact FileNode.sameTree_of_perm (by decide) (List.reverse_perm _).symm
      · rfl

end Walk
end WebCompat
