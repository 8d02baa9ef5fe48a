import WebCompat.Proofs.Config.Fields
import WebCompat.Proofs.Guidance.Advising
import WebCompat.Proofs.Text.Blank

/-!
# Where the key for the provider comes from

A key can stand on the command line, in a variable of the environment and in the
configuration file.  The variable is looked at twice: the settings take it over when
it is more than blanks, and the command line takes it over whatever it is.
-/

namespace WebCompat

/-!
## The variable on the command line
-/

def Command.withKey (exported : Option String) : Command → Command
  | .scan order => .scan { order with apiKey := order.apiKey.or exported }
  | .lookup api => .lookup api

def Invocation.withKey (exported : Option String) (invocation : Invocation) : Invocation :=
  { invocation with command := invocation.command.withKey exported }

namespace CommandLine

theorem command_eq_map_withKey (exported : Option String) (level : Level) (given : Given) :
    command exported level given = (command none level given).map (Command.withKey exported) := by
  unfold command
  cases level with
  | program =>
      rfl
  | lookup =>
      cases given.words <;> rfl
  | scan =>
      dsimp only [Except.map, Command.withKey]
      rw [Option.or_none]

/-- The variable has no say in how the words are read, only in the key of the order they make. -/
theorem readFrom_eq_map_withKey (exported : Option String) (words : List String) (state : State) :
    readFrom exported state words =
      (readFrom none state words).map (Invocation.withKey exported) := by
  induction words generalizing state with
  | nil =>
      rw [readFrom, readFrom]
      cases state.settle .program <;> rfl
  | cons word rest ih =>
      rw [readFrom, readFrom]
      split
      · cases state.step .program word with
        | error stop =>
            rfl
        | ok next =>
            exact ih next
      · cases commandLevel? word with
        | none =>
            rfl
        | some level =>
            dsimp only
            simp only [command_eq_map_withKey exported]
            cases State.start.finish level rest with
            | error stop =>
                rfl
            | ok inner =>
                dsimp only [bind, Except.bind]
                cases command none level inner with
                | error stop =>
                    rfl
                | ok command =>
                    cases state.settle .program <;> rfl

theorem read_eq_map_withKey (exported : Option String) (words : List String) :
    read exported words = (read none words).map (Invocation.withKey exported) :=
  readFrom_eq_map_withKey exported words .start

end CommandLine

/-!
## Usable keys
-/

/-- The keys that a run can use, by the place where they stand. -/
structure KeySources where
  /-- The key on the command line. -/
  given : Option String
  /-- The value of the variable. -/
  exported : Option String
  /-- The key in the configuration file. -/
  written : Option String

namespace KeySources

def usable? (key : Option String) : Option String :=
  (key.filter fun text => !Text.isBlankText text).map Text.trimmed

theorem usable?_of_blank {key : String} (h : Text.isBlankText key = true) :
    usable? (some key) = none := by
  rw [usable?, Option.filter_some, h]
  rfl

theorem usable?_of_not_blank {key : String} (h : Text.isBlankText key = false) :
    usable? (some key) = some (Text.trimmed key) := by
  rw [usable?, Option.filter_some, h]
  rfl

theorem credential_eq_usable? (settings : ProviderSettings) :
    settings.credential = usable? settings.apiKey := by
  rw [ProviderSettings.credential]
  cases settings.apiKey with
  | none =>
      rfl
  | some key =>
      rw [Option.map_some, Option.filter_some, Text.isEmpty_trimmed]
      cases hblank : Text.isBlankText key with
      | true =>
          rw [usable?_of_blank hblank]
          rfl
      | false =>
          rw [usable?_of_not_blank hblank]
          rfl

/-- The first key that is more than blanks, without its outer blanks. -/
def firstUsable? (sources : KeySources) : Option String :=
  (usable? sources.given).or ((usable? sources.exported).or (usable? sources.written))

def settled (sources : KeySources) : Option String :=
  (sources.given.or sources.exported).or (Config.override sources.exported sources.written)

/-- Whether blanks in the variable stand before a key of the file. -/
structure IsShadowed (sources : KeySources) : Prop where
  given_eq : sources.given = none
  exported_blank : ∃ text, sources.exported = some text ∧ Text.isBlankText text = true
  written_usable : ∃ key, sources.written = some key ∧ Text.isBlankText key = false

theorem usable?_settled_of_blank {sources : KeySources} {text : String}
    (hgiven : sources.given = none) (hexported : sources.exported = some text)
    (htext : Text.isBlankText text = true) : usable? sources.settled = none := by
  rw [settled, hgiven, hexported]
  exact usable?_of_blank htext

theorem firstUsable?_of_blank {sources : KeySources} {text : String}
    (hgiven : sources.given = none) (hexported : sources.exported = some text)
    (htext : Text.isBlankText text = true) : sources.firstUsable? = usable? sources.written := by
  rw [firstUsable?, hgiven, hexported, usable?_of_blank htext]
  rfl

theorem usable?_settled_of_isShadowed {sources : KeySources} (h : sources.IsShadowed) :
    usable? sources.settled = none := by
  obtain ⟨text, hexported, htext⟩ := h.exported_blank
  exact usable?_settled_of_blank h.given_eq hexported htext

theorem usable?_settled_ne_of_isShadowed {sources : KeySources} (h : sources.IsShadowed) :
    usable? sources.settled ≠ sources.firstUsable? := by
  obtain ⟨text, hexported, htext⟩ := h.exported_blank
  obtain ⟨key, hwritten, hkey⟩ := h.written_usable
  rw [usable?_settled_of_isShadowed h, firstUsable?_of_blank h.given_eq hexported htext, hwritten,
    usable?_of_not_blank hkey]
  exact Option.some_ne_none _ ∘ Eq.symm

theorem usable?_settled_eq {sources : KeySources}
    (hgiven : ∀ key ∈ sources.given, Text.isBlankText key = false)
    (h : ¬sources.IsShadowed) : usable? sources.settled = sources.firstUsable? := by
  rcases sources with ⟨_ | key, exported, written⟩
  · rcases exported with _ | text
    · rfl
    · cases htext : Text.isBlankText text with
      | true =>
          rw [usable?_settled_of_blank rfl rfl htext, firstUsable?_of_blank rfl rfl htext]
          rcases written with _ | key
          · rfl
          · cases hkey : Text.isBlankText key with
            | true =>
                exact (usable?_of_blank hkey).symm
            | false =>
                exact absurd ⟨rfl, ⟨text, rfl, htext⟩, ⟨key, rfl, hkey⟩⟩ h
      | false =>
          rw [settled, firstUsable?, usable?_of_not_blank htext]
          exact usable?_of_not_blank htext
  · have hkey := hgiven key rfl
    rw [settled, firstUsable?, usable?_of_not_blank hkey]
    exact usable?_of_not_blank hkey

end KeySources

/-!
## The key of a run
-/

namespace Program

/-- Whether a run scans with advice, with the given settings of the provider. -/
def AdvisesWith (surroundings : Surroundings) (words : List String)
    (settings : ProviderSettings) : Prop :=
  ∃ invocation order config,
    CommandLine.read surroundings.environment.apiKey words = .ok invocation ∧
    invocation.command = .scan order ∧ order.withAdvice = true ∧
    Program.config surroundings invocation = .ok config ∧
    settings = providerSettings config order

/--
Whether a run is to scan with advice, and finds the given keys: on the command line
alone, in the variable, and in the configuration file.
-/
def FindsKeys (surroundings : Surroundings) (words : List String) (sources : KeySources) : Prop :=
  ∃ invocation order written,
    CommandLine.read none words = .ok invocation ∧
    invocation.command = .scan order ∧ order.withAdvice = true ∧
    Config.written surroundings.files surroundings.environment invocation.config = .ok written ∧
    sources = ⟨order.apiKey, surroundings.environment.apiKey, written.provider.apiKey⟩

theorem AdvisesWith.unique {surroundings : Surroundings} {words : List String}
    {settings others : ProviderSettings} (h : AdvisesWith surroundings words settings)
    (hothers : AdvisesWith surroundings words others) : settings = others := by
  obtain ⟨invocation, order, config, hread, hcommand, _, hconfig, rfl⟩ := h
  obtain ⟨otherInvocation, otherOrder, otherConfig, hotherRead, hotherCommand, _, hotherConfig,
    rfl⟩ := hothers
  cases hread.symm.trans hotherRead
  cases hcommand.symm.trans hotherCommand
  cases hconfig.symm.trans hotherConfig
  rfl

theorem run_of_scan {surroundings : Surroundings} {invocation : Invocation} {config : Config}
    {order : ScanOrder} (hconfig : Program.config surroundings invocation = .ok config)
    (hcommand : invocation.command = .scan order) :
    run surroundings invocation = scan surroundings config invocation.format order := by
  unfold run
  rw [hconfig]
  dsimp only [bind, Except.bind]
  rw [hcommand]

theorem AdvisesWith.exists_ending {surroundings : Surroundings} {words : List String}
    {settings : ProviderSettings} (h : AdvisesWith surroundings words settings) :
    ∃ format order config, ending surroundings words = .ofResult
      ((found surroundings config order).map fun result => {
        text := report surroundings.timestamp format order { result with
          issues := Guidance.adviseAll settings surroundings.provider result.issues }
        failed := order.failsOnIssues && result.hasIssues }) := by
  obtain ⟨invocation, order, config, hread, hcommand, hadvice, hconfig, rfl⟩ := h
  refine ⟨invocation.format, order, config, ?_⟩
  have hanswer : ∀ result, answer surroundings config invocation.format order result = {
      text := report surroundings.timestamp invocation.format order { result with
        issues := Guidance.adviseAll (providerSettings config order) surroundings.provider
          result.issues }
      failed := order.failsOnIssues && result.hasIssues } := by
    intro result
    have hsame := withAdvice_sameButAdvice surroundings.provider config order result
    rw [answer, hsame.hasIssues, withAdvice, if_pos hadvice]
  unfold ending
  rw [hread]
  dsimp only
  rw [run_of_scan hconfig hcommand, scan_eq_map_found, funext hanswer]

theorem FindsKeys.exists_advisesWith {surroundings : Surroundings} {words : List String}
    {sources : KeySources} (h : FindsKeys surroundings words sources) :
    ∃ settings, AdvisesWith surroundings words settings ∧ settings.apiKey = sources.settled := by
  obtain ⟨invocation, order, written, hread, hcommand, hadvice, hwritten, rfl⟩ := h
  have hload := Config.load_eq_map_written surroundings.files surroundings.environment
    invocation.config
  rw [hwritten] at hload
  have hasked := CommandLine.read_eq_map_withKey surroundings.environment.apiKey words
  rw [hread] at hasked
  let asked := { order with apiKey := order.apiKey.or surroundings.environment.apiKey }
  let loaded := written.withEnvironment surroundings.environment
  let config := { loaded with datasetPath := invocation.dataset.or loaded.datasetPath }
  refine ⟨providerSettings config asked, ⟨_, asked, config, hasked, ?_, hadvice, ?_, rfl⟩, rfl⟩
  · rw [Invocation.withKey, hcommand, Command.withKey]
  · rw [Program.config, Invocation.withKey, hload]
    rfl

/-!
## Keys that are hidden
-/

theorem adviseAll_of_credential_eq_none {settings : ProviderSettings}
    (h : settings.credential = none) (provider : Provider) (issues : List Issue) :
    Guidance.adviseAll settings provider issues =
      issues.map fun issue => { issue with advice := some (.builtin issue.api) } := by
  have houtcome : ∀ exchange api context,
      Guidance.outcome settings exchange api context = .none := by
    intro exchange api context
    rw [Guidance.outcome, h]
    rfl
  apply List.ext_getElem?
  intro index
  rw [Guidance.getElem?_adviseAll, List.getElem?_map]
  simp only [houtcome]
  rfl

/--
A run that scans with advice uses the first key that is more than blanks, of those on
the command line, in the variable and in the configuration file, unless blanks in the
variable stand before a key of the file.  Then it uses no key at all, and every issue
gets built-in advice.
-/
theorem credential_first_usable_iff_not_shadowed {surroundings : Surroundings}
    {words : List String} {sources : KeySources} (hkeys : FindsKeys surroundings words sources)
    (hgiven : ∀ key ∈ sources.given, Text.isBlankText key = false) :
    (∃ settings, AdvisesWith surroundings words settings) ∧
    ∀ settings, AdvisesWith surroundings words settings →
      (settings.credential = sources.firstUsable? ↔ ¬sources.IsShadowed) ∧
      (sources.IsShadowed → settings.credential = none ∧
        ∀ issues, Guidance.adviseAll settings surroundings.provider issues =
          issues.map fun issue => { issue with advice := some (.builtin issue.api) }) ∧
      ∃ format order config, ending surroundings words = .ofResult
        ((found surroundings config order).map fun result => {
          text := report surroundings.timestamp format order { result with
            issues := Guidance.adviseAll settings surroundings.provider result.issues }
          failed := order.failsOnIssues && result.hasIssues }) := by
  obtain ⟨known, hknown, hsettled⟩ := hkeys.exists_advisesWith
  refine ⟨⟨known, hknown⟩, ?_⟩
  intro settings hsettings
  have hcredential : settings.credential = KeySources.usable? sources.settled := by
    rw [hsettings.unique hknown, KeySources.credential_eq_usable?, hsettled]
  refine ⟨?_, ?_, hsettings.exists_ending⟩
  · rw [hcredential]
    constructor
    · intro hsame hshadowed
      exact KeySources.usable?_settled_ne_of_isShadowed hshadowed hsame
    · exact KeySources.usable?_settled_eq hgiven
  · intro hshadowed
    have hnone : settings.credential = none := by
      rw [hcredential, KeySources.usable?_settled_of_isShadowed hshadowed]
    exact ⟨hnone, adviseAll_of_credential_eq_none hnone surroundings.provider⟩

def keyedSurroundings (exported : Option String) : Surroundings where
  files := {
    root := .directory [
      ("config.toml", .file (some "[suggestions]\napi_key = \"sk-file\"\n")),
      ("a.js", .file (some ")webkitURL"))]
    workingDirectory := [] }
  environment := { apiKey := exported, dataset := none, configDirectory := none }
  input := .absent
  provider := fun _ _ => .none
  timestamp := "2026-01-01T00:00:00Z"

def advisedWords (others : List String) : List String :=
  ["--config", "config.toml", "scan", "--ai-suggestions"] ++ others ++ ["a.js"]

theorem given_key_used_before_blank_variable :
    FindsKeys (keyedSurroundings (some "  ")) (advisedWords ["--api-key", " sk-flag\n"])
      ⟨some " sk-flag\n", some "  ", some "sk-file"⟩ ∧
    (∀ key ∈ some " sk-flag\n", Text.isBlankText key = false) ∧
    ∃ settings, AdvisesWith (keyedSurroundings (some "  "))
        (advisedWords ["--api-key", " sk-flag\n"]) settings ∧
      settings.credential = some "sk-flag" := by
  have hkeys : FindsKeys (keyedSurroundings (some "  "))
      (advisedWords ["--api-key", " sk-flag\n"])
      ⟨some " sk-flag\n", some "  ", some "sk-file"⟩ :=
    ⟨_, _, _, rfl, rfl, rfl, rfl, rfl⟩
  have hgiven : ∀ key ∈ some " sk-flag\n", Text.isBlankText key = false := by
    rintro _ ⟨⟩
    decide +kernel
  obtain ⟨⟨settings, hsettings⟩, hall⟩ := credential_first_usable_iff_not_shadowed hkeys hgiven
  have hshadowed : ¬KeySources.IsShadowed ⟨some " sk-flag\n", some "  ", some "sk-file"⟩ := by
    intro hshadowed
    cases hshadowed.given_eq
  refine ⟨hkeys, hgiven, settings, hsettings, ?_⟩
  rw [(hall settings hsettings).left.mpr hshadowed]
  decide +kernel

/-- Where the variable is exported but blank, the key of the configuration file is not used. -/
theorem blank_variable_hides_key_of_file :
    FindsKeys (keyedSurroundings (some "  ")) (advisedWords [])
      ⟨none, some "  ", some "sk-file"⟩ ∧
    KeySources.firstUsable? ⟨none, some "  ", some "sk-file"⟩ = some "sk-file" ∧
    (∃ settings, AdvisesWith (keyedSurroundings (some "  ")) (advisedWords []) settings) ∧
    ∀ settings, AdvisesWith (keyedSurroundings (some "  ")) (advisedWords []) settings →
      settings.credential = none := by
  have hkeys : FindsKeys (keyedSurroundings (some "  ")) (advisedWords [])
      ⟨none, some "  ", some "sk-file"⟩ :=
    ⟨_, _, _, rfl, rfl, rfl, rfl, rfl⟩
  obtain ⟨known, hknown, hsettled⟩ := hkeys.exists_advisesWith
  refine ⟨hkeys, by decide +kernel, ⟨known, hknown⟩, ?_⟩
  intro settings hsettings
  rw [hsettings.unique hknown, KeySources.credential_eq_usable?, hsettled]
  decide +kernel

end Program
end WebCompat
