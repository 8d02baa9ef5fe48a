import Mathlib.Data.Option.Basic
import Mathlib.Tactic.Choose
import WebCompat.Config.File

/-!
# Settings one by one

Each setting has a key in one of the tables of a configuration file.  It is what
the file says under its key, or else its default, whatever the other keys are,
and two settings can be replaced by variables of the environment.  A value of
the wrong type under any key makes the whole file fail.
-/

namespace WebCompat
namespace Toml
namespace Value

/-!
## Values of the right type
-/

def IsNatural (bound : Nat) (value : Value) (number : Nat) : Prop :=
  value = integer number ∧ number < bound

def IsSingle (value : Value) (number : Number.Floating) : Prop :=
  (∃ whole, value = integer whole ∧ number = .ofInt .single whole) ∨
    ∃ double, value = float double ∧ number = double.roundTo .single

theorem text?_eq_some_iff {value : Value} {text : String} :
    value.text? = some text ↔ value = string text := by
  cases value <;> simp [text?]

theorem mapM_text?_eq_some_iff {items : List Value} {texts : List String} :
    items.mapM text? = some texts ↔ items = texts.map string := by
  induction items generalizing texts with
  | nil =>
      cases texts <;> simp
  | cons item items ih =>
      rw [List.mapM_cons]
      constructor
      · intro h
        rcases Option.bind_eq_some_iff.mp h with ⟨text, htext, hrest⟩
        rcases Option.bind_eq_some_iff.mp hrest with ⟨others, hothers, hsome⟩
        cases hsome
        rw [List.map_cons, ← ih.mp hothers, text?_eq_some_iff.mp htext]
      · intro h
        cases texts with
        | nil =>
            cases h
        | cons text texts =>
            rw [List.map_cons, List.cons.injEq] at h
            rw [text?_eq_some_iff.mpr h.left, ih.mpr h.right]
            rfl

theorem list?_text?_eq_some_iff {value : Value} {texts : List String} :
    list? text? value = some texts ↔ value = array (texts.map string) := by
  cases value with
  | array items =>
      rw [list?, mapM_text?_eq_some_iff, array.injEq]
  | _ =>
      simp [list?]

theorem natural?_eq_some_iff {bound : Nat} {value : Value} {number : Nat} :
    natural? bound value = some number ↔ IsNatural bound value number := by
  unfold IsNatural
  cases value with
  | integer whole =>
      rw [natural?, integer.injEq]
      constructor
      · intro h
        split at h
        · cases h
          omega
        · cases h
      · intro h
        rw [if_pos (by omega), h.left, Int.toNat_natCast]
  | _ =>
      simp [natural?]

theorem single?_eq_some_iff {value : Value} {number : Number.Floating} :
    single? value = some number ↔ IsSingle value number := by
  unfold IsSingle
  cases value <;> simp [single?, eq_comm]

end Value
end Toml

open Toml (Value)

/-!
## Tables of settings
-/

namespace Config

def tableEntries (document : Toml.Entries) (name : String) : Toml.Entries :=
  match document.lookup name with
  | some (.table _ entries) => entries
  | _ => []

def IsTableOrMissing (document : Toml.Entries) (name : String) : Prop :=
  ∀ value, document.lookup name = some value → ∃ origin entries, value = .table origin entries

theorem isTableOrMissing_of_entry {document : Toml.Entries} {name key : String} {value : Value}
    (h : (tableEntries document name).lookup key = some value) :
    IsTableOrMissing document name := by
  intro found hfound
  unfold tableEntries at h
  rw [hfound] at h
  cases found with
  | table origin entries =>
      exact ⟨origin, entries, rfl⟩
  | _ =>
      cases h

theorem orDefault?_tableEntries {α : Type} (default : α) (decode : Value → Option α)
    (horigin : ∀ origin entries, decode (.table origin entries) = decode (.table .header entries))
    (hempty : decode (.table .header []) = some default) {document : Toml.Entries} {name : String}
    (h : IsTableOrMissing document name) :
    Value.orDefault? default decode (document.lookup name) =
      decode (.table .header (tableEntries document name)) := by
  unfold tableEntries
  cases hfound : document.lookup name with
  | none =>
      exact hempty.symm
  | some value =>
      rcases h value hfound with ⟨origin, entries, rfl⟩
      exact horigin origin entries

/-!
## Keys of the settings
-/

inductive Group where
  | knowledge
  | provider
  | selection
  | logging
deriving DecidableEq, Repr

def Group.name : Group → String
  | knowledge => "knowledge_base"
  | provider => "suggestions"
  | selection => "scan"
  | logging => "logging"

inductive Key where
  | datasetPath
  | apiKey
  | endpoint
  | model
  | timeoutSeconds
  | maxTokens
  | temperature
  | extensions
  | excludedDirectories
  | logLevel
deriving DecidableEq, Repr

namespace Key

def group : Key → Group
  | datasetPath => .knowledge
  | apiKey | endpoint | model | timeoutSeconds | maxTokens | temperature => .provider
  | extensions | excludedDirectories => .selection
  | logLevel => .logging

def name : Key → String
  | datasetPath => "dataset_path"
  | apiKey => "api_key"
  | endpoint => "endpoint"
  | model => "model"
  | timeoutSeconds => "timeout_secs"
  | maxTokens => "max_tokens"
  | temperature => "temperature"
  | extensions => "extensions"
  | excludedDirectories => "exclude_dirs"
  | logLevel => "level"

@[reducible]
def Content : Key → Type
  | datasetPath | apiKey => Option String
  | endpoint | model | logLevel => String
  | timeoutSeconds | maxTokens => Nat
  | temperature => Number.Floating
  | extensions | excludedDirectories => List String

def get (config : Config) : (key : Key) → key.Content
  | datasetPath => config.datasetPath
  | apiKey => config.provider.apiKey
  | endpoint => config.provider.endpoint
  | model => config.provider.model
  | timeoutSeconds => config.provider.timeoutSeconds
  | maxTokens => config.provider.maxTokens
  | temperature => config.provider.temperature
  | extensions => config.selection.extensions
  | excludedDirectories => config.selection.excludedDirectories
  | logLevel => config.logLevel

def collect (contents : (key : Key) → key.Content) : Config where
  datasetPath := contents datasetPath
  provider := {
    apiKey := contents apiKey
    endpoint := contents endpoint
    model := contents model
    timeoutSeconds := contents timeoutSeconds
    maxTokens := contents maxTokens
    temperature := contents temperature }
  selection := {
    extensions := contents extensions
    excludedDirectories := contents excludedDirectories }
  logLevel := contents logLevel

/-- Whether a value is of the type of a setting, and what it makes of the setting. -/
def Says : (key : Key) → Value → key.Content → Prop
  | datasetPath, value, content | apiKey, value, content =>
      ∃ text, value = .string text ∧ content = some text
  | endpoint, value, content | model, value, content | logLevel, value, content =>
      value = .string content
  | timeoutSeconds, value, content => value.IsNatural (Nat.pow 2 64) content
  | maxTokens, value, content => value.IsNatural (Nat.pow 2 32) content
  | temperature, value, content => value.IsSingle content
  | extensions, value, content | excludedDirectories, value, content =>
      value = .array (content.map .string)

def decode? : (key : Key) → Value → Option key.Content
  | datasetPath | apiKey => fun value => value.text?.map some
  | endpoint | model | logLevel => Value.text?
  | timeoutSeconds => Value.natural? (Nat.pow 2 64)
  | maxTokens => Value.natural? (Nat.pow 2 32)
  | temperature => Value.single?
  | extensions | excludedDirectories => Value.list? Value.text?

theorem get_collect (contents : (key : Key) → key.Content) (key : Key) :
    key.get (collect contents) = contents key := by
  cases key <;> rfl

theorem ext_get {first second : Config} (h : ∀ key : Key, key.get first = key.get second) :
    first = second := by
  have hcollect : ∀ config : Config, config = collect fun key => key.get config := by
    intro config
    rfl
  rw [hcollect first, hcollect second, funext h]

theorem decode?_eq_some_iff {key : Key} {value : Value} {content : key.Content} :
    key.decode? value = some content ↔ key.Says value content := by
  cases key with
  | datasetPath | apiKey =>
      refine Option.map_eq_some_iff.trans (exists_congr ?_)
      intro text
      rw [Value.text?_eq_some_iff, eq_comm (a := content)]
  | endpoint | model | logLevel =>
      exact Value.text?_eq_some_iff
  | timeoutSeconds | maxTokens =>
      exact Value.natural?_eq_some_iff
  | temperature =>
      exact Value.single?_eq_some_iff
  | extensions | excludedDirectories =>
      exact Value.list?_text?_eq_some_iff

/-- Whether a setting is decoded from the entries of its table, or keeps its default. -/
def IsDecoded (key : Key) (entries : Toml.Entries) (content : key.Content) : Prop :=
  Value.orDefault? (key.get default) key.decode? (entries.lookup key.name) = some content

end Key

def Group.IsDecoded (document : Toml.Entries) (config : Config) : Group → Prop
  | knowledge =>
      Value.orDefault? default.datasetPath datasetPathOfToml?
        (document.lookup knowledge.name) = some config.datasetPath
  | provider =>
      Value.orDefault? default.provider ProviderSettings.ofToml?
        (document.lookup provider.name) = some config.provider
  | selection =>
      Value.orDefault? default.selection Selection.ofToml?
        (document.lookup selection.name) = some config.selection
  | logging =>
      Value.orDefault? default.logLevel logLevelOfToml?
        (document.lookup logging.name) = some config.logLevel

theorem ofToml?_eq_some_iff {document : Toml.Entries} {config : Config} :
    ofToml? document = some config ↔ ∀ group : Group, group.IsDecoded document config := by
  cases config with
  | mk datasetPath provider selection logLevel =>
  simp only [ofToml?, Option.bind_eq_bind, Option.bind_eq_some_iff, Option.pure_def,
    Option.some.injEq]
  constructor
  · intro h group
    rcases h with ⟨_, hdataset, _, hprovider, _, hselection, _, hlevel, heq⟩
    cases heq
    cases group with
    | knowledge =>
        exact hdataset
    | provider =>
        exact hprovider
    | selection =>
        exact hselection
    | logging =>
        exact hlevel
  · intro h
    exact ⟨_, h .knowledge, _, h .provider, _, h .selection, _, h .logging, rfl⟩

theorem datasetPathOfToml?_eq_some_iff {origin : Toml.Origin} {entries : Toml.Entries}
    {config : Config} :
    datasetPathOfToml? (.table origin entries) = some config.datasetPath ↔
      ∀ key : Key, key.group = .knowledge → key.IsDecoded entries (key.get config) := by
  constructor
  · intro h key hgroup
    cases key with
    | datasetPath =>
        exact h
    | _ =>
        exact absurd hgroup (by decide)
  · intro h
    exact h .datasetPath rfl

theorem providerOfToml?_eq_some_iff {origin : Toml.Origin} {entries : Toml.Entries}
    {config : Config} :
    ProviderSettings.ofToml? (.table origin entries) = some config.provider ↔
      ∀ key : Key, key.group = .provider → key.IsDecoded entries (key.get config) := by
  cases config with
  | mk datasetPath provider selection logLevel =>
  simp only [ProviderSettings.ofToml?, Value.record?, Option.bind_eq_bind, Option.bind_some,
    Option.bind_eq_some_iff, Option.pure_def, Option.some.injEq]
  constructor
  · intro h key hgroup
    rcases h with ⟨_, hkey, _, hendpoint, _, hmodel, _, htimeout, _, htokens, _, htemperature,
      rfl⟩
    cases key with
    | apiKey =>
        exact hkey
    | endpoint =>
        exact hendpoint
    | model =>
        exact hmodel
    | timeoutSeconds =>
        exact htimeout
    | maxTokens =>
        exact htokens
    | temperature =>
        exact htemperature
    | _ =>
        exact absurd hgroup (by decide)
  · intro h
    exact ⟨_, h .apiKey rfl, _, h .endpoint rfl, _, h .model rfl, _, h .timeoutSeconds rfl,
      _, h .maxTokens rfl, _, h .temperature rfl, rfl⟩

theorem selectionOfToml?_eq_some_iff {origin : Toml.Origin} {entries : Toml.Entries}
    {config : Config} :
    Selection.ofToml? (.table origin entries) = some config.selection ↔
      ∀ key : Key, key.group = .selection → key.IsDecoded entries (key.get config) := by
  cases config with
  | mk datasetPath provider selection logLevel =>
  simp only [Selection.ofToml?, Value.record?, Option.bind_eq_bind, Option.bind_some,
    Option.bind_eq_some_iff, Option.pure_def, Option.some.injEq]
  constructor
  · intro h key hgroup
    rcases h with ⟨_, hextensions, _, hexcluded, rfl⟩
    cases key with
    | extensions =>
        exact hextensions
    | excludedDirectories =>
        exact hexcluded
    | _ =>
        exact absurd hgroup (by decide)
  · intro h
    exact ⟨_, h .extensions rfl, _, h .excludedDirectories rfl, rfl⟩

theorem logLevelOfToml?_eq_some_iff {origin : Toml.Origin} {entries : Toml.Entries}
    {config : Config} :
    logLevelOfToml? (.table origin entries) = some config.logLevel ↔
      ∀ key : Key, key.group = .logging → key.IsDecoded entries (key.get config) := by
  constructor
  · intro h key hgroup
    cases key with
    | logLevel =>
        exact h
    | _ =>
        exact absurd hgroup (by decide)
  · intro h
    exact h .logLevel rfl

theorem Group.isDecoded_iff {document : Toml.Entries} {config : Config} {group : Group}
    (h : IsTableOrMissing document group.name) :
    group.IsDecoded document config ↔
      ∀ key : Key, key.group = group →
        key.IsDecoded (tableEntries document group.name) (key.get config) := by
  -- Each table has its defaults twice: whole when it is missing, and key by key when it is there.
  -- The last `rfl` of each case is that these agree.
  cases group with
  | knowledge =>
      rw [IsDecoded, orDefault?_tableEntries default.datasetPath datasetPathOfToml?
        (fun _ _ => rfl) rfl h]
      exact datasetPathOfToml?_eq_some_iff
  | provider =>
      rw [IsDecoded, orDefault?_tableEntries default.provider ProviderSettings.ofToml?
        (fun _ _ => rfl) rfl h]
      exact providerOfToml?_eq_some_iff
  | selection =>
      rw [IsDecoded, orDefault?_tableEntries default.selection Selection.ofToml?
        (fun _ _ => rfl) rfl h]
      exact selectionOfToml?_eq_some_iff
  | logging =>
      rw [IsDecoded, orDefault?_tableEntries default.logLevel logLevelOfToml?
        (fun _ _ => rfl) rfl h]
      exact logLevelOfToml?_eq_some_iff

theorem isDecoded_of_ofToml? {document : Toml.Entries} {config : Config} {key : Key}
    (h : ofToml? document = some config) (htable : IsTableOrMissing document key.group.name) :
    key.IsDecoded (tableEntries document key.group.name) (key.get config) :=
  (Group.isDecoded_iff htable).mp (ofToml?_eq_some_iff.mp h key.group) key rfl

theorem ofToml?_of_isDecoded {document : Toml.Entries} {config : Config}
    (htables : ∀ group : Group, IsTableOrMissing document group.name)
    (h : ∀ key : Key, key.IsDecoded (tableEntries document key.group.name) (key.get config)) :
    ofToml? document = some config := by
  apply ofToml?_eq_some_iff.mpr
  intro group
  apply (Group.isDecoded_iff (htables group)).mpr
  intro key hgroup
  rw [← hgroup]
  exact h key

/-!
## Settings of a document
-/

def Key.written? (document : Toml.Entries) (key : Key) : Option Value :=
  (tableEntries document key.group.name).lookup key.name

def Key.exported? (environment : Environment) : (key : Key) → Option key.Content
  | .datasetPath =>
      (environment.dataset.filter fun text => !Text.isBlankText text).map some
  | .apiKey =>
      (environment.apiKey.filter fun text => !Text.isBlankText text).map some
  | _ => none

/-- Whether a setting is what is exported, or else what is written, or else its default. -/
def Key.Settles (key : Key) (environment : Environment) (written : Option Value)
    (content : key.Content) : Prop :=
  match key.exported? environment, written with
  | some exported, _ => content = exported
  | none, some value => key.Says value content
  | none, none => content = key.get default

/-- Whether a configuration has all settings as the environment and the given values make them. -/
def IsSettledBy (environment : Environment) (written : Key → Option Value) (config : Config) :
    Prop :=
  ∀ key : Key, key.Settles environment (written key) (key.get config)

/-- Whether what a document says about the settings is of their types. -/
def IsTyped (document : Toml.Entries) : Prop :=
  ∀ (key : Key) (value : Value), key.written? document = some value →
    ∃ content, key.Says value content

theorem Key.Settles.unique {key : Key} {environment : Environment} {written : Option Value}
    {first second : key.Content} (hfirst : key.Settles environment written first)
    (hsecond : key.Settles environment written second) : first = second := by
  unfold Settles at hfirst hsecond
  cases hexported : key.exported? environment with
  | some exported =>
      rw [hexported] at hfirst hsecond
      exact hfirst.trans hsecond.symm
  | none =>
      rw [hexported] at hfirst hsecond
      cases written with
      | none =>
          exact hfirst.trans hsecond.symm
      | some value =>
          have hdecode := decode?_eq_some_iff.mpr hfirst
          rw [decode?_eq_some_iff.mpr hsecond] at hdecode
          exact (Option.some.inj hdecode).symm

theorem IsSettledBy.unique {environment : Environment} {written : Key → Option Value}
    {first second : Config} (hfirst : IsSettledBy environment written first)
    (hsecond : IsSettledBy environment written second) : first = second := by
  apply Key.ext_get
  intro key
  exact (hfirst key).unique (hsecond key)

theorem Key.get_withEnvironment (config : Config) (environment : Environment) (key : Key) :
    key.get (config.withEnvironment environment) =
      (key.exported? environment).getD (key.get config) := by
  cases key with
  | datasetPath =>
      show override environment.dataset config.datasetPath = _
      unfold override exported?
      cases environment.dataset.filter fun text => !Text.isBlankText text <;> rfl
  | apiKey =>
      show override environment.apiKey config.provider.apiKey = _
      unfold override exported?
      cases environment.apiKey.filter fun text => !Text.isBlankText text <;> rfl
  | _ =>
      rfl

theorem Key.settles_withEnvironment {key : Key} {config : Config} {entries : Toml.Entries}
    (h : key.IsDecoded entries (key.get config)) (environment : Environment) :
    key.Settles environment (entries.lookup key.name)
      (key.get (config.withEnvironment environment)) := by
  rw [get_withEnvironment]
  unfold Settles
  unfold IsDecoded at h
  cases key.exported? environment with
  | some exported =>
      rfl
  | none =>
      cases hwritten : entries.lookup key.name with
      | none =>
          rw [hwritten] at h
          exact (Option.some.inj h).symm
      | some value =>
          rw [hwritten] at h
          exact decode?_eq_some_iff.mp h

theorem exists_ofToml?_of_isTyped {document : Toml.Entries}
    (htables : ∀ group : Group, IsTableOrMissing document group.name) (h : IsTyped document)
    (environment : Environment) :
    ∃ config, ofToml? document = some config ∧
      IsSettledBy environment (Key.written? document) (config.withEnvironment environment) := by
  have hcontent : ∀ key : Key, ∃ content,
      key.IsDecoded (tableEntries document key.group.name) content := by
    intro key
    unfold Key.IsDecoded
    cases hwritten : (tableEntries document key.group.name).lookup key.name with
    | none =>
        exact ⟨key.get default, rfl⟩
    | some value =>
        rcases h key value hwritten with ⟨content, hsays⟩
        exact ⟨content, Key.decode?_eq_some_iff.mpr hsays⟩
  -- The settings are of different types, so each is chosen by itself before they are collected.
  choose contents hcontents using hcontent
  have hdecoded : ∀ key : Key, key.IsDecoded (tableEntries document key.group.name)
      (key.get (Key.collect contents)) := by
    intro key
    rw [Key.get_collect]
    exact hcontents key
  refine ⟨Key.collect contents, ofToml?_of_isDecoded htables hdecoded, ?_⟩
  intro key
  exact Key.settles_withEnvironment (hdecoded key) environment

theorem ofToml?_eq_none_of_not_isTyped {document : Toml.Entries} (h : ¬IsTyped document) :
    ofToml? document = none := by
  cases hconfig : ofToml? document with
  | none =>
      rfl
  | some config =>
      apply absurd _ h
      intro key value hwritten
      have hdecoded := isDecoded_of_ofToml? hconfig (isTableOrMissing_of_entry hwritten)
      unfold Key.IsDecoded at hdecoded
      rw [show (tableEntries document key.group.name).lookup key.name = some value from hwritten]
        at hdecoded
      exact ⟨key.get config, Key.decode?_eq_some_iff.mp hdecoded⟩

/-!
## Loading
-/

/-- What a file says, or the default one, before the environment is looked at. -/
def written (files : FileSystem) (environment : Environment) (path : Option String) :
    Except Failure Config :=
  match path.or (defaultPath? environment) with
  | some path => ofFile files path
  | none => .ok default

theorem load_eq_map_written (files : FileSystem) (environment : Environment)
    (path : Option String) :
    load files environment path =
      (written files environment path).map fun config => config.withEnvironment environment := by
  unfold load written
  cases path.or (defaultPath? environment) with
  | none =>
      rfl
  | some path =>
      dsimp only
      cases ofFile files path <;> rfl

/-- Whether there is a file with a document at a place. -/
def HoldsDocument (files : FileSystem) (place : String) (document : Toml.Entries) : Prop :=
  ∃ text, files.lookup? place = some (.file (some text)) ∧ Toml.read? text = some document

theorem ofFile_of_holdsDocument {files : FileSystem} {place : String} {document : Toml.Entries}
    (h : HoldsDocument files place document) :
    ofFile files place = (ofToml? document).elim (.error (.malformedConfig place)) .ok := by
  rcases h with ⟨text, hfile, hread⟩
  have hcontains : files.contains place = true := by
    rw [FileSystem.contains, hfile]
    rfl
  have htext : files.read place = .ok text := by
    rw [FileSystem.read, hfile]
  have hconfig : ofText? text = ofToml? document := by
    rw [ofText?, hread, Option.bind_some]
  rw [ofFile, if_pos hcontains, htext]
  simp only [bind, Except.bind, hconfig]
  cases ofToml? document <;> rfl

theorem written_of_missing {files : FileSystem} {environment : Environment} {path : Option String}
    (h : ∀ place, path.or (defaultPath? environment) = some place →
      files.contains place = false) :
    written files environment path = .ok default := by
  unfold written
  cases hplace : path.or (defaultPath? environment) with
  | none =>
      rfl
  | some place =>
      dsimp only
      rw [ofFile, h place hplace]
      rfl

theorem default_isSettledBy (environment : Environment) :
    IsSettledBy environment (fun _ => none) (default.withEnvironment environment) := by
  intro key
  exact Key.settles_withEnvironment (rfl : key.IsDecoded [] (key.get default)) environment

/--
Loading takes each setting from the environment, the file or the defaults by its own
key, and fails for a value of the wrong type.  Since a configuration is determined by
its settings, nothing else in the file has a say.
-/
theorem load_settles_each_key (files : FileSystem) (environment : Environment)
    (path : Option String) :
    (∀ place document, path.or (defaultPath? environment) = some place →
      HoldsDocument files place document →
        ((∀ group : Group, IsTableOrMissing document group.name) → IsTyped document →
          ∃ config, load files environment path = .ok config ∧
            ∀ other, IsSettledBy environment (Key.written? document) other ↔ other = config) ∧
        (¬IsTyped document → load files environment path = .error (.malformedConfig place))) ∧
    ((∀ place, path.or (defaultPath? environment) = some place → files.contains place = false) →
      ∃ config, load files environment path = .ok config ∧
        ∀ other, IsSettledBy environment (fun _ => none) other ↔ other = config) := by
  rw [load_eq_map_written]
  have honly : ∀ {given : Key → Option Value} {config : Config},
      IsSettledBy environment given config →
        ∀ other, IsSettledBy environment given other ↔ other = config := by
    intro given config hconfig other
    constructor
    · intro hother
      exact hother.unique hconfig
    · intro heq
      rw [heq]
      exact hconfig
  constructor
  · intro place document hplace hdocument
    have hwritten : written files environment path = ofFile files place := by
      rw [written, hplace]
    rw [hwritten, ofFile_of_holdsDocument hdocument]
    constructor
    · intro htables htyped
      rcases exists_ofToml?_of_isTyped htables htyped environment with ⟨config, hconfig, hsettled⟩
      rw [hconfig]
      exact ⟨config.withEnvironment environment, rfl, honly hsettled⟩
    · intro htyped
      rw [ofToml?_eq_none_of_not_isTyped htyped]
      rfl
  · intro hmissing
    rw [written_of_missing hmissing]
    exact ⟨default.withEnvironment environment, rfl, honly (default_isSettledBy environment)⟩

def sampleFiles : FileSystem where
  root := .directory [
    ("sparse.toml", .file (some "[suggestions]\nmodel = \"m\"\n[scan]\n[other]\nmodel = true\n")),
    ("quoted.toml", .file (some "[suggestions]\nmodel = \"m\"\nmax_tokens = \"5\"\n"))]
  workingDirectory := []

def sampleEnvironment : Environment where
  apiKey := some " "
  dataset := some "d.json"
  configDirectory := none

def sparseDocument : Toml.Entries := [
  ("suggestions", .table .header [("model", .string "m")]),
  ("scan", .table .header []),
  ("other", .table .header [("model", .bool true)])]

def quotedDocument : Toml.Entries := [
  ("suggestions", .table .header [("model", .string "m"), ("max_tokens", .string "5")])]

theorem sparseDocument_hasTables (group : Group) : IsTableOrMissing sparseDocument group.name := by
  intro value hvalue
  cases group with
  | provider | selection =>
      cases hvalue
      exact ⟨_, _, rfl⟩
  | knowledge | logging =>
      cases hvalue

theorem sparseDocument_isTyped : IsTyped sparseDocument := by
  intro key value hvalue
  cases key with
  | model =>
      cases hvalue
      exact ⟨"m", rfl⟩
  | _ =>
      cases hvalue

theorem quotedDocument_not_isTyped : ¬IsTyped quotedDocument := by
  intro h
  rcases h .maxTokens (.string "5") rfl with ⟨content, hsays⟩
  cases hsays.left

theorem sampleFiles_settled :
    (∃ config, load sampleFiles sampleEnvironment (some "sparse.toml") = .ok config ∧
      config.provider.model = "m" ∧ config.provider.maxTokens = 500 ∧
        config.provider.apiKey = none ∧ config.datasetPath = some "d.json") ∧
    load sampleFiles sampleEnvironment (some "quoted.toml") =
      .error (.malformedConfig "quoted.toml") ∧
    ∃ config, load sampleFiles sampleEnvironment (some "missing.toml") = .ok config ∧
      config.provider.model = "gpt-4" ∧ config.datasetPath = some "d.json" := by
  have hsparse : HoldsDocument sampleFiles "sparse.toml" sparseDocument :=
    ⟨_, rfl, rfl⟩
  have hquoted : HoldsDocument sampleFiles "quoted.toml" quotedDocument :=
    ⟨_, rfl, rfl⟩
  refine ⟨?_, ?_, ?_⟩
  · have hload := load_settles_each_key sampleFiles sampleEnvironment (some "sparse.toml")
    rcases (hload.left _ _ rfl hsparse).left sparseDocument_hasTables sparseDocument_isTyped with
      ⟨config, hconfig, honly⟩
    have hsettled := (honly config).mpr rfl
    have hmodel : Value.string "m" = .string config.provider.model := hsettled .model
    exact ⟨config, hconfig, (Value.string.inj hmodel).symm, hsettled .maxTokens, hsettled .apiKey,
      hsettled .datasetPath⟩
  · have hload := load_settles_each_key sampleFiles sampleEnvironment (some "quoted.toml")
    exact (hload.left _ _ rfl hquoted).right quotedDocument_not_isTyped
  · have hload := load_settles_each_key sampleFiles sampleEnvironment (some "missing.toml")
    have hmissing : ∀ place, (some "missing.toml").or (defaultPath? sampleEnvironment) =
        some place → sampleFiles.contains place = false := by
      intro place hplace
      cases hplace
      rfl
    rcases hload.right hmissing with ⟨config, hconfig, honly⟩
    have hsettled := (honly config).mpr rfl
    exact ⟨config, hconfig, hsettled .model, hsettled .datasetPath⟩

end Config
end WebCompat
