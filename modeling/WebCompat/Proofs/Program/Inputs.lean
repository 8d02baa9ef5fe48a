import Mathlib.Data.List.Forall2
import WebCompat.Proofs.Guidance.Advising

/-!
# Units of the named paths

The paths of an order are expanded one after the other.  Either every one of
them stands for units, and these are scanned in the order of the paths, or the
first one that does not is the failure of the whole order.
-/

namespace WebCompat

/-!
## Kinds of files
-/

namespace SourceKind

def ShownBy (kind : SourceKind) (path : String) : Prop :=
  ∃ extension, Path.extension? path = some extension ∧ (extension.toLower, kind) ∈ extensions

theorem lookup_extensions_eq_some_iff {extension : String} {kind : SourceKind} :
    extensions.lookup extension = some kind ↔ (extension, kind) ∈ extensions := by
  constructor
  · intro h
    obtain ⟨front, back, hextensions, _⟩ := List.lookup_eq_some_iff.mp h
    rw [hextensions]
    exact List.mem_append_right _ List.mem_cons_self
  · intro h
    simp only [extensions, List.mem_cons, List.not_mem_nil, or_false, Prod.mk.injEq] at h
    rcases h with ⟨rfl, rfl⟩ | ⟨rfl, rfl⟩ | ⟨rfl, rfl⟩ | ⟨rfl, rfl⟩ | ⟨rfl, rfl⟩ | ⟨rfl, rfl⟩ |
      ⟨rfl, rfl⟩ | ⟨rfl, rfl⟩ | ⟨rfl, rfl⟩ | ⟨rfl, rfl⟩ <;> rfl

theorem ofPath_eq_ok_iff {path : String} {kind : SourceKind} :
    ofPath path = .ok kind ↔ kind.ShownBy path := by
  unfold ofPath ShownBy
  cases Path.extension? path with
  | none =>
      simp
  | some extension =>
      simp only [Option.some.injEq, exists_eq_left', ofExtension,
        ← lookup_extensions_eq_some_iff]
      cases extensions.lookup extension.toLower <;> simp

theorem ofPath_eq_error_iff {path : String} {failure : Failure} :
    ofPath path = .error failure ↔
      (∀ kind : SourceKind, ¬kind.ShownBy path) ∧
        failure = .unknownExtension ((Path.extension? path).getD "none") := by
  simp only [← ofPath_eq_ok_iff]
  unfold ofPath
  cases Path.extension? path with
  | none =>
      simp [eq_comm]
  | some extension =>
      simp only [ofExtension, Option.getD_some]
      cases extensions.lookup extension.toLower <;> simp [eq_comm]

end SourceKind

namespace SourceUnit

def ofFile (path : String) (kind : SourceKind) : SourceUnit where
  name := path
  kind := kind
  content := .file path

theorem ofPath_eq_map (path : String) :
    ofPath path = (SourceKind.ofPath path).map (ofFile path) := by
  unfold ofPath
  cases SourceKind.ofPath path <;> rfl

/-- Whether units are those of files in their order, where files of no kind are left out. -/
inductive AreOfFiles : List String → List SourceUnit → Prop where
  | nil : AreOfFiles [] []
  | known {path : String} {kind : SourceKind} {paths : List String} {units : List SourceUnit} :
      kind.ShownBy path → AreOfFiles paths units →
      AreOfFiles (path :: paths) (ofFile path kind :: units)
  | unknown {path : String} {paths : List String} {units : List SourceUnit} :
      (∀ kind : SourceKind, ¬kind.ShownBy path) → AreOfFiles paths units →
      AreOfFiles (path :: paths) units

theorem areOfFiles_iff {paths : List String} {units : List SourceUnit} :
    AreOfFiles paths units ↔ paths.filterMap (fun path => (ofPath path).toOption) = units := by
  constructor
  · intro h
    induction h with
    | nil =>
        rfl
    | known hkind _ ih =>
        rw [List.filterMap_cons, ofPath_eq_map, SourceKind.ofPath_eq_ok_iff.mpr hkind, ih]
        rfl
    | @unknown path _ _ hnone _ ih =>
        have herror : SourceKind.ofPath path =
            .error (.unknownExtension ((Path.extension? path).getD "none")) :=
          SourceKind.ofPath_eq_error_iff.mpr ⟨hnone, rfl⟩
        rw [List.filterMap_cons, ofPath_eq_map, herror, ih]
        rfl
  · rintro rfl
    induction paths with
    | nil =>
        exact .nil
    | cons path paths ih =>
        rw [List.filterMap_cons, ofPath_eq_map]
        cases hkind : SourceKind.ofPath path with
        | ok kind =>
            exact .known (SourceKind.ofPath_eq_ok_iff.mp hkind) ih
        | error failure =>
            exact .unknown (SourceKind.ofPath_eq_error_iff.mp hkind).left ih

end SourceUnit

namespace Program

/-!
## One path
-/

/-- Whether a path leads to a directory, or to a file of a kind that is scanned. -/
def IsAccepted (files : FileSystem) (path : String) : Prop :=
  files.isDirectory path = true ∨
    files.contains path = true ∧ ∃ kind : SourceKind, kind.ShownBy path

/-- Whether a path cannot be scanned, for the given cause. -/
inductive Offends (files : FileSystem) (path : String) : Failure → Prop where
  | missing : files.contains path = false → Offends files path (.fileNotFound path)
  | unknown : files.contains path = true → files.isDirectory path = false →
      (∀ kind : SourceKind, ¬kind.ShownBy path) →
      Offends files path (.unknownExtension ((Path.extension? path).getD "none"))

/-- Whether a path, which may be standard input, stands for the given units. -/
inductive StandsFor (context : Walk.Context) (kind : InputKind) (input : Option String) :
    String → List SourceUnit → Prop where
  | input {text : String} : input = some text →
      StandsFor context kind input ScanOrder.inputPath
        [{ name := inputName, kind := kind.sourceKind, content := .text text }]
  | file {path : String} {shown : SourceKind} : path ≠ ScanOrder.inputPath →
      context.files.contains path = true → context.files.isDirectory path = false →
      shown.ShownBy path →
      StandsFor context kind input path [{ name := path, kind := shown, content := .file path }]
  | directory {path : String} {units : List SourceUnit} : path ≠ ScanOrder.inputPath →
      context.files.isDirectory path = true →
      SourceUnit.AreOfFiles (Walk.files context path) units →
      StandsFor context kind input path units

variable {context : Walk.Context} {kind : InputKind} {input : Option String} {path : String}

theorem contains_of_isDirectory {files : FileSystem} (h : files.isDirectory path = true) :
    files.contains path = true := by
  unfold FileSystem.isDirectory at h
  unfold FileSystem.contains
  cases hnode : files.lookup? path with
  | none =>
      rw [hnode] at h
      cases h
  | some node =>
      rfl

theorem exists_offends_of_not_isAccepted {files : FileSystem} (h : ¬IsAccepted files path) :
    ∃ failure, Offends files path failure := by
  rw [IsAccepted, not_or, not_and, Bool.not_eq_true] at h
  by_cases hcontains : files.contains path = true
  · exact ⟨_, .unknown hcontains h.left (not_exists.mp (h.right hcontains))⟩
  · exact ⟨_, .missing (Bool.eq_false_iff.mpr hcontains)⟩

theorem isAccepted_of_standsFor {units : List SourceUnit}
    (h : StandsFor context kind input path units) (hpath : path ≠ ScanOrder.inputPath) :
    IsAccepted context.files path := by
  cases h with
  | input =>
      exact absurd rfl hpath
  | file _ hcontains _ hkind =>
      exact .inr ⟨hcontains, _, hkind⟩
  | directory _ hdirectory _ =>
      exact .inl hdirectory

theorem exists_standsFor_of_isAccepted (hinput : path = ScanOrder.inputPath → input.isSome)
    (h : path ≠ ScanOrder.inputPath → IsAccepted context.files path) :
    ∃ units, StandsFor context kind input path units := by
  by_cases hpath : path = ScanOrder.inputPath
  · obtain ⟨text, htext⟩ := Option.isSome_iff_exists.mp (hinput hpath)
    rw [hpath]
    exact ⟨_, .input htext⟩
  · by_cases hdirectory : context.files.isDirectory path = true
    · exact ⟨_, .directory hpath hdirectory (SourceUnit.areOfFiles_iff.mpr rfl)⟩
    · rcases h hpath with hyes | ⟨hcontains, shown, hshown⟩
      · exact absurd hyes hdirectory
      · exact ⟨_, .file hpath hcontains (Bool.eq_false_iff.mpr hdirectory) hshown⟩

theorem unitsOfPath_of_standsFor {units : List SourceUnit}
    (h : StandsFor context kind input path units) :
    unitsOfPath context kind input path = .ok units := by
  cases h with
  | input htext =>
      rw [unitsOfPath, if_pos rfl, htext]
      rfl
  | file hpath hcontains hdirectory hkind =>
      rw [unitsOfPath, if_neg hpath, Walk.unitsOfPath, hdirectory, hcontains,
        SourceUnit.ofPath_eq_map, SourceKind.ofPath_eq_ok_iff.mpr hkind]
      rfl
  | directory hpath hdirectory hunits =>
      rw [unitsOfPath, if_neg hpath, Walk.unitsOfPath, if_pos hdirectory,
        SourceUnit.areOfFiles_iff.mp hunits]

theorem unitsOfPath_of_offends {failure : Failure} (hpath : path ≠ ScanOrder.inputPath)
    (h : Offends context.files path failure) :
    unitsOfPath context kind input path = .error failure := by
  rw [unitsOfPath, if_neg hpath, Walk.unitsOfPath]
  cases h with
  | missing hmissing =>
      have hdirectory : ¬context.files.isDirectory path = true := by
        intro hdirectory
        rw [contains_of_isDirectory hdirectory] at hmissing
        cases hmissing
      rw [if_neg hdirectory, hmissing]
      rfl
  | unknown hcontains hdirectory hnone =>
      have herror := SourceKind.ofPath_eq_error_iff.mpr ⟨hnone, rfl⟩
      rw [hdirectory, hcontains, SourceUnit.ofPath_eq_map, herror]
      rfl

theorem exists_standsFor_or_offends (hinput : path = ScanOrder.inputPath → input.isSome) :
    (∃ units, StandsFor context kind input path units) ∨
      path ≠ ScanOrder.inputPath ∧ ∃ failure, Offends context.files path failure := by
  by_cases haccepted : path ≠ ScanOrder.inputPath → IsAccepted context.files path
  · exact .inl (exists_standsFor_of_isAccepted hinput haccepted)
  · obtain ⟨hpath, hnot⟩ := Classical.not_imp.mp haccepted
    exact .inr ⟨hpath, exists_offends_of_not_isAccepted hnot⟩

theorem unitsOfPath_eq_ok_iff (hinput : path = ScanOrder.inputPath → input.isSome)
    {units : List SourceUnit} :
    unitsOfPath context kind input path = .ok units ↔
      StandsFor context kind input path units := by
  constructor
  · intro h
    rcases exists_standsFor_or_offends hinput with ⟨others, hothers⟩ | ⟨hpath, _, hoffends⟩
    · rw [unitsOfPath_of_standsFor hothers] at h
      cases h
      exact hothers
    · rw [unitsOfPath_of_offends hpath hoffends] at h
      cases h
  · exact unitsOfPath_of_standsFor

theorem unitsOfPath_eq_error_iff (hinput : path = ScanOrder.inputPath → input.isSome)
    {failure : Failure} :
    unitsOfPath context kind input path = .error failure ↔
      path ≠ ScanOrder.inputPath ∧ Offends context.files path failure := by
  constructor
  · intro h
    rcases exists_standsFor_or_offends hinput with ⟨_, hstands⟩ | ⟨hpath, _, hoffends⟩
    · rw [unitsOfPath_of_standsFor hstands] at h
      cases h
    · rw [unitsOfPath_of_offends hpath hoffends] at h
      cases h
      exact ⟨hpath, hoffends⟩
  · rintro ⟨hpath, hoffends⟩
    exact unitsOfPath_of_offends hpath hoffends

theorem exists_unitsOfPath_eq_ok_iff (hinput : path = ScanOrder.inputPath → input.isSome) :
    (∃ units, unitsOfPath context kind input path = .ok units) ↔
      (path ≠ ScanOrder.inputPath → IsAccepted context.files path) := by
  constructor
  · rintro ⟨units, hunits⟩
    exact isAccepted_of_standsFor ((unitsOfPath_eq_ok_iff hinput).mp hunits)
  · intro haccepted
    obtain ⟨units, hunits⟩ := exists_standsFor_of_isAccepted hinput haccepted
    exact ⟨units, unitsOfPath_of_standsFor hunits⟩

/-!
## All paths
-/

section Lists

variable {α β : Type} {f g : α → Except Failure β} {items : List α}

theorem mapM_congr (h : ∀ item ∈ items, f item = g item) : items.mapM f = items.mapM g := by
  induction items with
  | nil =>
      rfl
  | cons item items ih =>
      rw [List.forall_mem_cons] at h
      rw [List.mapM_cons, List.mapM_cons, h.left, ih h.right]

theorem mapM_cons_error {item : α} {failure : Failure} (h : f item = .error failure) :
    (item :: items).mapM f = .error failure := by
  rw [List.mapM_cons, h]
  rfl

theorem mapM_cons_ok {item : α} {result : β} (h : f item = .ok result) :
    (item :: items).mapM f = (items.mapM f).map (result :: ·) := by
  rw [List.mapM_cons, h]
  cases items.mapM f <;> rfl

theorem mapM_eq_ok_iff {R : α → β → Prop}
    (h : ∀ item ∈ items, ∀ result, f item = .ok result ↔ R item result) {results : List β} :
    items.mapM f = .ok results ↔ List.Forall₂ R items results := by
  induction items generalizing results with
  | nil =>
      constructor
      · intro hok
        cases hok
        exact .nil
      · intro hall
        cases hall
        rfl
  | cons item items ih =>
      rw [List.forall_mem_cons] at h
      constructor
      · intro hok
        cases hitem : f item with
        | error failure =>
            rw [mapM_cons_error hitem] at hok
            cases hok
        | ok result =>
            rw [mapM_cons_ok hitem] at hok
            cases hmore : items.mapM f with
            | error failure =>
                rw [hmore] at hok
                cases hok
            | ok more =>
                rw [hmore] at hok
                cases hok
                exact .cons ((h.left result).mp hitem) ((ih h.right).mp hmore)
      · intro hall
        cases hall with
        | cons hitem hmore =>
            rw [mapM_cons_ok ((h.left _).mpr hitem), (ih h.right).mpr hmore]
            rfl

theorem exists_mapM_eq_ok_iff :
    (∃ results, items.mapM f = .ok results) ↔ ∀ item ∈ items, ∃ result, f item = .ok result := by
  induction items with
  | nil =>
      exact iff_of_true ⟨[], rfl⟩ (List.forall_mem_nil _)
  | cons item items ih =>
      rw [List.forall_mem_cons, ← ih]
      cases hitem : f item with
      | error failure =>
          rw [mapM_cons_error hitem]
          simp
      | ok result =>
          rw [mapM_cons_ok hitem]
          cases items.mapM f <;> simp [Except.map]

theorem mapM_eq_error_iff {failure : Failure} :
    items.mapM f = .error failure ↔ ∃ front item back, items = front ++ item :: back ∧
      (∀ earlier ∈ front, ∃ result, f earlier = .ok result) ∧ f item = .error failure := by
  induction items with
  | nil =>
      constructor
      · intro herror
        cases herror
      · rintro ⟨front, item, back, hitems, _⟩
        simp at hitems
  | cons first items ih =>
      constructor
      · intro herror
        cases hfirst : f first with
        | error cause =>
            rw [mapM_cons_error hfirst] at herror
            cases herror
            exact ⟨[], first, items, rfl, List.forall_mem_nil _, hfirst⟩
        | ok result =>
            rw [mapM_cons_ok hfirst] at herror
            cases hmore : items.mapM f with
            | ok more =>
                rw [hmore] at herror
                cases herror
            | error cause =>
                rw [hmore] at herror
                cases herror
                obtain ⟨front, item, back, rfl, hfront, hitem⟩ := ih.mp hmore
                exact ⟨first :: front, item, back, rfl,
                  List.forall_mem_cons.mpr ⟨⟨result, hfirst⟩, hfront⟩, hitem⟩
      · rintro ⟨front, item, back, hitems, hfront, hitem⟩
        cases front with
        | nil =>
            obtain ⟨rfl, rfl⟩ := List.cons.inj hitems
            exact mapM_cons_error hitem
        | cons head front =>
            obtain ⟨rfl, rfl⟩ := List.cons.inj hitems
            rw [List.forall_mem_cons] at hfront
            obtain ⟨result, hresult⟩ := hfront.left
            rw [mapM_cons_ok hresult, ih.mpr ⟨front, item, back, rfl, hfront.right, hitem⟩]
            rfl

theorem map_eq_ok_iff {outcome : Except Failure α} {f : α → β} {result : β} :
    outcome.map f = .ok result ↔ ∃ found, outcome = .ok found ∧ f found = result := by
  cases outcome <;> simp [Except.map]

theorem map_eq_error_iff {outcome : Except Failure α} {f : α → β} {failure : Failure} :
    outcome.map f = .error failure ↔ outcome = .error failure := by
  cases outcome <;> simp [Except.map]

end Lists

section Order

variable {order : ScanOrder}

theorem units_eq_map (h : order.paths.count ScanOrder.inputPath ≤ 1) :
    units context input order =
      (order.paths.mapM (unitsOfPath context order.inputKind input)).map List.flatten := by
  rw [units, if_neg (Nat.not_lt.mpr h)]
  cases order.paths.mapM (unitsOfPath context order.inputKind input) <;> rfl

theorem units_eq_walk_units (h : ScanOrder.inputPath ∉ order.paths) :
    units context input order = Walk.units context order.paths := by
  have hcount : order.paths.count ScanOrder.inputPath = 0 := List.count_eq_zero.mpr h
  have hpaths : order.paths.mapM (unitsOfPath context order.inputKind input) =
      order.paths.mapM (Walk.unitsOfPath context) := by
    apply mapM_congr
    intro path hmem
    rw [unitsOfPath, if_neg]
    rintro rfl
    exact h hmem
  rw [units_eq_map (by omega), hpaths, Walk.units]
  cases order.paths.mapM (Walk.unitsOfPath context) <;> rfl

theorem isSome_of_readsInput (h : input.isSome = order.readsInput) :
    ∀ path ∈ order.paths, path = ScanOrder.inputPath → input.isSome = true := by
  rintro path hmem rfl
  rw [h]
  exact List.contains_iff_mem.mpr hmem

theorem units_eq_ok_iff (hinput : input.isSome = order.readsInput)
    (hcount : order.paths.count ScanOrder.inputPath ≤ 1) {found : List SourceUnit} :
    units context input order = .ok found ↔
      ∃ parts, List.Forall₂ (StandsFor context order.inputKind input) order.paths parts ∧
        parts.flatten = found := by
  have hpaths (parts : List (List SourceUnit)) :
      order.paths.mapM (unitsOfPath context order.inputKind input) = .ok parts ↔
        List.Forall₂ (StandsFor context order.inputKind input) order.paths parts := by
    apply mapM_eq_ok_iff
    intro path hmem units
    exact unitsOfPath_eq_ok_iff (isSome_of_readsInput hinput path hmem)
  rw [units_eq_map hcount, map_eq_ok_iff]
  simp only [hpaths]

theorem units_eq_error_iff (hinput : input.isSome = order.readsInput)
    (hcount : order.paths.count ScanOrder.inputPath ≤ 1) {failure : Failure} :
    units context input order = .error failure ↔
      ∃ front path back, order.paths = front ++ path :: back ∧
        (∀ earlier ∈ front, earlier ≠ ScanOrder.inputPath → IsAccepted context.files earlier) ∧
        path ≠ ScanOrder.inputPath ∧ Offends context.files path failure := by
  have hsome := isSome_of_readsInput hinput
  rw [units_eq_map hcount, map_eq_error_iff, mapM_eq_error_iff]
  constructor
  · rintro ⟨front, path, back, hpaths, hfront, herror⟩
    rw [hpaths, List.forall_mem_append, List.forall_mem_cons] at hsome
    refine ⟨front, path, back, hpaths, ?_, (unitsOfPath_eq_error_iff hsome.right.left).mp herror⟩
    intro earlier hmem
    exact (exists_unitsOfPath_eq_ok_iff (hsome.left earlier hmem)).mp (hfront earlier hmem)
  · rintro ⟨front, path, back, hpaths, hfront, hpath, hoffends⟩
    rw [hpaths, List.forall_mem_append] at hsome
    refine ⟨front, path, back, hpaths, ?_, unitsOfPath_of_offends hpath hoffends⟩
    intro earlier hmem
    exact (exists_unitsOfPath_eq_ok_iff (hsome.left earlier hmem)).mpr (hfront earlier hmem)

theorem exists_units_eq_ok_iff (hinput : input.isSome = order.readsInput)
    (hcount : order.paths.count ScanOrder.inputPath ≤ 1) :
    (∃ found, units context input order = .ok found) ↔
      ∀ path ∈ order.paths, path ≠ ScanOrder.inputPath → IsAccepted context.files path := by
  have hparts : (∃ found, units context input order = .ok found) ↔
      ∃ parts, order.paths.mapM (unitsOfPath context order.inputKind input) = .ok parts := by
    simp only [units_eq_map hcount, map_eq_ok_iff]
    exact ⟨fun ⟨_, parts, hok, _⟩ => ⟨parts, hok⟩, fun ⟨parts, hok⟩ => ⟨_, parts, hok, rfl⟩⟩
  rw [hparts, exists_mapM_eq_ok_iff]
  apply forall₂_congr
  intro path hmem
  exact exists_unitsOfPath_eq_ok_iff (isSome_of_readsInput hinput path hmem)

end Order

/-!
## Orders that fail
-/

def walkContext (surroundings : Surroundings) (config : Config) : Walk.Context where
  files := surroundings.files
  selection := config.selection
  userRules := Walk.userRules surroundings.files surroundings.environment

theorem found_of_units_eq_error {surroundings : Surroundings} {config : Config}
    {order : ScanOrder} {failure : Failure}
    (hinput : inputText surroundings.input order = .ok input)
    (h : units (walkContext surroundings config) input order = .error failure) :
    found surroundings config order = .error failure := by
  rw [found, hinput]
  change (units (walkContext surroundings config) input order >>= _) = _
  rw [h]
  rfl

/--
The paths of an order are expanded all or not at all.  Standard input can be named
once.  Otherwise the order has units just when every other path is a directory or
a file of a known kind, and these are the units of the paths in their order.  The
first path that is neither is the failure of the order; then no session is run,
and nothing is written but a complaint.
-/
theorem units_of_all_paths_or_first_failure (context : Walk.Context) (input : Option String)
    (order : ScanOrder) (hinput : input.isSome = order.readsInput) :
    (1 < order.paths.count ScanOrder.inputPath →
      units context input order =
        .error (.repeatedInput (order.paths.count ScanOrder.inputPath))) ∧
    (order.paths.count ScanOrder.inputPath ≤ 1 →
      ((∃ found, units context input order = .ok found) ↔
        ∀ path ∈ order.paths, path ≠ ScanOrder.inputPath → IsAccepted context.files path) ∧
      (∀ found, units context input order = .ok found ↔
        ∃ parts, List.Forall₂ (StandsFor context order.inputKind input) order.paths parts ∧
          parts.flatten = found) ∧
      ∀ failure, units context input order = .error failure ↔
        ∃ front path back, order.paths = front ++ path :: back ∧
          (∀ earlier ∈ front, earlier ≠ ScanOrder.inputPath → IsAccepted context.files earlier) ∧
          path ≠ ScanOrder.inputPath ∧ Offends context.files path failure) ∧
    (ScanOrder.inputPath ∉ order.paths →
      units context input order = Walk.units context order.paths) ∧
    ∀ (surroundings : Surroundings) (config : Config) (format : OutputFormat) (failure : Failure),
      walkContext surroundings config = context →
      inputText surroundings.input order = .ok input →
      units context input order = .error failure →
      found surroundings config order = .error failure ∧
        Ending.ofResult (scan surroundings config format order) =
          ⟨failure.exitCode, "", some ("Error: " ++ failure.message)⟩ := by
  refine ⟨?_, ?_, units_eq_walk_units, ?_⟩
  · intro hcount
    exact if_pos hcount
  · intro hcount
    exact ⟨exists_units_eq_ok_iff hinput hcount, fun _ => units_eq_ok_iff hinput hcount,
      fun _ => units_eq_error_iff hinput hcount⟩
  · rintro surroundings config format failure rfl htext herror
    have hfound := found_of_units_eq_error htext herror
    refine ⟨hfound, ?_⟩
    rw [scan_eq_map_found, hfound]
    rfl

def sampleContext : Walk.Context where
  files := {
    root := .directory [
      ("src", .directory [("b.js", .file (some "")), ("notes.txt", .file (some ""))]),
      ("a.TS", .file (some "")),
      ("notes.txt", .file (some ""))]
    workingDirectory := [] }
  selection := .default
  userRules := []

def orderOf (paths : List String) : ScanOrder where
  paths := paths
  inputKind := .script
  withAdvice := false
  apiKey := none
  failsOnIssues := false

def sampleSurroundings : Surroundings where
  files := sampleContext.files
  environment := { apiKey := none, dataset := none, configDirectory := none }
  input := .text "f()"
  provider := fun _ _ => .none
  timestamp := "2026-01-01T00:00:00Z"

theorem sampleContext_src_isAccepted : IsAccepted sampleContext.files "src" :=
  .inl (by decide +kernel)

theorem sampleContext_notes_offends :
    Offends sampleContext.files "notes.txt" (.unknownExtension "txt") := by
  have herror : SourceKind.ofPath "notes.txt" = .error (.unknownExtension "txt") := by
    decide +kernel
  exact .unknown (by decide +kernel) (by decide +kernel)
    (SourceKind.ofPath_eq_error_iff.mp herror).left

theorem sampleContext_orders :
    (∃ found parts, units sampleContext (some "f()") (orderOf ["src", "-", "a.TS"]) = .ok found ∧
      List.Forall₂ (StandsFor sampleContext .script (some "f()")) ["src", "-", "a.TS"] parts ∧
      parts.flatten = found) ∧
    Ending.ofResult (scan sampleSurroundings .default .plain
        (orderOf ["src", "-", "notes.txt", "gone.js"])) =
      ⟨2, "", some "Error: Unsupported file type for extension: txt"⟩ ∧
    units sampleContext (some "f()") (orderOf ["-", "gone.js", "-"]) =
      .error (.repeatedInput 2) := by
  refine ⟨?_, ?_, ?_⟩
  · obtain ⟨-, hunits, -, -⟩ := units_of_all_paths_or_first_failure sampleContext (some "f()")
      (orderOf ["src", "-", "a.TS"]) rfl
    obtain ⟨hexists, hfound, -⟩ := hunits (by decide)
    have hscript : IsAccepted sampleContext.files "a.TS" :=
      .inr ⟨by decide +kernel, .script .typescript, "TS", by decide +kernel, by decide +kernel⟩
    have haccepted : ∀ path ∈ ["src", "-", "a.TS"], path ≠ ScanOrder.inputPath →
        IsAccepted sampleContext.files path := by
      simp only [List.forall_mem_cons]
      exact ⟨fun _ => sampleContext_src_isAccepted, fun hne => absurd rfl hne, fun _ => hscript,
        List.forall_mem_nil _⟩
    obtain ⟨found, hok⟩ := hexists.mpr haccepted
    obtain ⟨parts, hparts, hflatten⟩ := (hfound found).mp hok
    exact ⟨found, parts, hok, hparts, hflatten⟩
  · obtain ⟨-, hunits, -, hscan⟩ := units_of_all_paths_or_first_failure sampleContext
      (some "f()") (orderOf ["src", "-", "notes.txt", "gone.js"]) rfl
    obtain ⟨-, -, hfailure⟩ := hunits (by decide)
    have hfront : ∀ earlier ∈ ["src", "-"], earlier ≠ ScanOrder.inputPath →
        IsAccepted sampleContext.files earlier := by
      simp only [List.forall_mem_cons]
      exact ⟨fun _ => sampleContext_src_isAccepted, fun hne => absurd rfl hne,
        List.forall_mem_nil _⟩
    have herror := (hfailure _).mpr ⟨["src", "-"], "notes.txt", ["gone.js"], rfl, hfront,
      by decide, sampleContext_notes_offends⟩
    exact (hscan sampleSurroundings .default .plain _ rfl rfl herror).right
  · obtain ⟨hrepeated, -⟩ := units_of_all_paths_or_first_failure sampleContext (some "f()")
      (orderOf ["-", "gone.js", "-"]) rfl
    exact hrepeated (by decide)

end Program
end WebCompat
