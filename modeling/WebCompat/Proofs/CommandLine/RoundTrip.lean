import Mathlib.Data.List.TakeWhile
import WebCompat.CommandLine.Reader
import WebCompat.CommandLine.Writer

/-!
# Command lines that are written and read back

Every invocation with nothing empty in it is read back from the command line that
is written for it, whether the options of the program stand in front of the command
or behind its name.  A word of an option begins with two hyphens and keeps its value
behind the first equals sign, so that no value is taken for an option or a command;
other words are safe behind two hyphens.
-/

namespace WebCompat

/-- Whether a command can be given: a scan has a path, and none of its paths is empty. -/
def Command.IsWritable : Command → Prop
  | .scan order => order.paths ≠ [] ∧ "" ∉ order.paths
  | .lookup _ => True

/-- Whether an invocation can be given: its command can, and no file has an empty path. -/
structure Invocation.IsWritable (invocation : Invocation) : Prop where
  command : invocation.command.IsWritable
  config : invocation.config ≠ some ""
  dataset : invocation.dataset ≠ some ""

namespace CommandLine

/-!
## Shapes of options
-/

theorem Shape.ofLong_append_of_notMem {name : List Char} (h : '=' ∉ name) (value : List Char) :
    Shape.ofLong (name ++ '=' :: value) =
      .long (String.ofList name) (some (String.ofList value)) := by
  have hall : ∀ c ∈ name, (c != '=') = true := by
    intro c hc
    apply bne_iff_ne.mpr
    intro heq
    rw [heq] at hc
    exact h hc
  have htake : (name ++ '=' :: value).takeWhile (· != '=') = name := by
    rw [List.takeWhile_append_of_pos hall, List.takeWhile_cons_of_neg (by decide), List.append_nil]
  have hdrop : (name ++ '=' :: value).dropWhile (· != '=') = '=' :: value := by
    rw [List.dropWhile_append_of_pos hall, List.dropWhile_cons_of_neg (by decide)]
  unfold Shape.ofLong
  rw [hdrop, htake]

theorem toList_settingWord (setting : Setting) (value : String) :
    (settingWord setting value).toList =
      '-' :: '-' :: (setting.name.toList ++ '=' :: value.toList) := by
  rw [settingWord, String.toList_append, String.toList_append, String.toList_append,
    List.append_assoc, List.append_assoc]
  rfl

theorem Shape.ofWord_settingWord (setting : Setting) (value : String) :
    Shape.ofWord (settingWord setting value) = .long setting.name (some value) := by
  have hname : '=' ∉ setting.name.toList := by
    cases setting <;> decide
  have hlong := Shape.ofLong_append_of_notMem hname value.toList
  rw [String.ofList_toList, String.ofList_toList] at hlong
  rw [← hlong]
  unfold Shape.ofWord
  rw [toList_settingWord]
  cases setting <;> rfl

theorem Shape.ofWord_switch (switch : Switch) :
    Shape.ofWord ("--" ++ switch.name) = .long switch.name none := by
  cases switch <;> decide

theorem isCommand_eq_false {word : String} (h : word.toList.head? = some '-') :
    isCommand word = false := by
  have hne : ∀ name : String, name.toList.head? ≠ some '-' → word ≠ name := by
    intro name hname heq
    rw [heq] at h
    exact hname h
  unfold isCommand commandLevel?
  rw [if_neg (hne "scan" (by decide)), if_neg (hne "lookup" (by decide)),
    decide_eq_false (hne "help" (by decide))]
  rfl

theorem Flag.ofName?_name {level : Level} {flag : Flag} (h : flag.isAt level = true) :
    Flag.ofName? level flag.name = some flag := by
  revert h
  cases flag with
  | setting setting =>
      cases level <;> cases setting <;> decide
  | switch switch =>
      cases level <;> cases switch <;> decide

/-!
## Reading options
-/

def State.ready (given : Given) : State where
  given := given
  pending := .nothing
  onlyWords := false

/-- Whether words of a level take what is given from one to another. -/
def Leads (level : Level) (words : List String) (given next : Given) : Prop :=
  words.foldlM (State.step level) (State.ready given) = .ok (State.ready next)

theorem Leads.append {level : Level} {words others : List String} {given next last : Given}
    (h : Leads level words given next) (hothers : Leads level others next last) :
    Leads level (words ++ others) given last := by
  unfold Leads
  rw [List.foldlM_append, h]
  exact hothers

theorem step_ready_long {level : Level} {word name : String} {value : Option String}
    (h : Shape.ofWord word = .long name value) (given : Given) :
    State.step level (State.ready given) word =
      State.long level (State.ready given) name value := by
  unfold State.step
  rw [h]
  rfl

theorem step_settingWord {level : Level} {setting : Setting}
    (hlevel : (Flag.setting setting).isAt level = true) (given : Given) (value : String) :
    State.step level (State.ready given) (settingWord setting value) =
      (given.set setting value).map State.ready := by
  have hflag : Flag.ofName? level setting.name = some (.setting setting) :=
    Flag.ofName?_name hlevel
  rw [step_ready_long (Shape.ofWord_settingWord setting value)]
  unfold State.long
  rw [hflag]
  show (given.set setting value).bind _ = _
  cases given.set setting value <;> rfl

theorem step_switch {level : Level} {switch : Switch}
    (hlevel : (Flag.switch switch).isAt level = true) (given : Given) :
    State.step level (State.ready given) ("--" ++ switch.name) =
      (given.turnOn level switch).map State.ready := by
  have hflag : Flag.ofName? level switch.name = some (.switch switch) :=
    Flag.ofName?_name hlevel
  rw [step_ready_long (Shape.ofWord_switch switch)]
  unfold State.long
  rw [hflag]
  show (given.turnOn level switch).bind _ = _
  cases given.turnOn level switch <;> rfl

theorem leads_nil (level : Level) (given : Given) : Leads level [] given given :=
  rfl

theorem leads_settingWord {level : Level} {setting : Setting} {value : String} {given next : Given}
    (hlevel : (Flag.setting setting).isAt level = true) (h : given.set setting value = .ok next) :
    Leads level [settingWord setting value] given next := by
  unfold Leads
  rw [List.foldlM_cons, step_settingWord hlevel, h]
  rfl

theorem leads_settingWords {level : Level} {setting : Setting} {given : Given}
    (hlevel : (Flag.setting setting).isAt level = true) (next : Option String → Given)
    (hnone : next none = given) {value : Option String}
    (h : ∀ text, value = some text → given.set setting text = .ok (next (some text))) :
    Leads level (settingWords setting value) given (next value) := by
  cases value with
  | none =>
      rw [hnone]
      exact leads_nil level given
  | some text =>
      exact leads_settingWord hlevel (h text rfl)

theorem leads_switchWords {level : Level} {switch : Switch} {given : Given}
    (hlevel : (Flag.switch switch).isAt level = true) (next : Bool → Given)
    (hoff : next false = given) (hon : given.turnOn level switch = .ok (next true)) (isOn : Bool) :
    Leads level (switchWords switch isOn) given (next isOn) := by
  cases isOn with
  | false =>
      rw [hoff]
      exact leads_nil level given
  | true =>
      unfold Leads switchWords
      rw [if_pos rfl, List.foldlM_cons, step_switch hlevel, hon]
      rfl

theorem Given.bind_fill {α : Type} {read? : String → Option α} {value : String} {found : α}
    (h : read? value = some found) (next : Option α → Given) :
    (do return next (← Given.fill none read? value)) = Except.ok (next (some found)) := by
  rw [Given.fill, h]
  rfl

theorem Given.path?_of_ne {text : String} (h : text ≠ "") : Given.path? text = some text := by
  rw [Given.path?, if_neg]
  intro hempty
  exact h (String.isEmpty_iff.mp hempty)

def Given.ofProgram (format : Option OutputFormat) (verbose : Bool)
    (config dataset : Option String) : Given :=
  { Given.nothing with
    format := format
    verbose := verbose
    config := config
    dataset := dataset }

def Given.ofInvocation (invocation : Invocation) : Given :=
  .ofProgram (some invocation.format) invocation.verbose invocation.config invocation.dataset

theorem leads_programWords (level : Level) {invocation : Invocation}
    (hconfig : invocation.config ≠ some "") (hdataset : invocation.dataset ≠ some "") :
    Leads level (programWords invocation) .nothing (.ofInvocation invocation) := by
  -- An option may be given once only, so each step needs that the ones before left its place free.
  have hformat : Leads level [settingWord .format invocation.format.name] .nothing
      (.ofProgram (some invocation.format) false none none) := by
    apply leads_settingWord rfl
    exact Given.bind_fill (OutputFormat.ofName?_name _) fun filled =>
      .ofProgram filled false none none
  have hverbose : Leads level (switchWords .verbose invocation.verbose)
      (.ofProgram (some invocation.format) false none none)
      (.ofProgram (some invocation.format) invocation.verbose none none) :=
    leads_switchWords rfl (fun isOn => .ofProgram (some invocation.format) isOn none none) rfl rfl _
  have hpath : Leads level (settingWords .config invocation.config)
      (.ofProgram (some invocation.format) invocation.verbose none none)
      (.ofProgram (some invocation.format) invocation.verbose invocation.config none) := by
    apply leads_settingWords rfl
      (fun value => .ofProgram (some invocation.format) invocation.verbose value none) rfl
    intro text htext
    rw [htext] at hconfig
    exact Given.bind_fill (Given.path?_of_ne fun heq => hconfig (congrArg some heq)) _
  have hdata : Leads level (settingWords .dataset invocation.dataset)
      (.ofProgram (some invocation.format) invocation.verbose invocation.config none)
      (.ofInvocation invocation) := by
    apply leads_settingWords rfl
      (fun value => .ofProgram (some invocation.format) invocation.verbose invocation.config value)
      rfl
    intro text htext
    rw [htext] at hdataset
    exact Given.bind_fill (Given.path?_of_ne fun heq => hdataset (congrArg some heq)) _
  exact ((hformat.append hverbose).append hpath).append hdata

/-!
## Reading commands
-/

def Given.withOrder (given : Given) (inputKind : Option InputKind) (withAdvice : Bool)
    (apiKey : Option String) (failsOnIssues : Bool) : Given :=
  { given with
    inputKind := inputKind
    withAdvice := withAdvice
    apiKey := apiKey
    failsOnIssues := failsOnIssues }

def Given.withCommand (given : Given) : Command → Given
  | .scan order =>
      { given.withOrder (some order.inputKind) order.withAdvice order.apiKey
          order.failsOnIssues with
        words := order.paths }
  | .lookup api => { given with words := [api] }

def commandLevel : Command → Level
  | .scan _ => .scan
  | .lookup _ => .lookup

theorem finish_append {level : Level} {words others : List String} {given next : Given}
    (h : Leads level words given next) :
    State.finish level (State.ready given) (words ++ others) =
      State.finish level (State.ready next) others := by
  unfold State.finish
  rw [List.foldlM_append, h]
  rfl

theorem foldlM_step_words (given : Given) (before words : List String) :
    words.foldlM (State.step .scan) ⟨given, .words before, true⟩ =
      .ok ⟨given, .words (before ++ words), true⟩ := by
  induction words generalizing before with
  | nil =>
      rw [List.append_nil]
      rfl
  | cons word words ih =>
      rw [List.foldlM_cons]
      show words.foldlM (State.step .scan) ⟨given, .words (before ++ [word]), true⟩ = _
      rw [ih, List.append_assoc, List.singleton_append]

theorem addWords_scan {given : Given} (hwords : given.words = []) {paths : List String}
    (hnonempty : "" ∉ paths) :
    given.addWords .scan paths = .ok { given with words := paths } := by
  rw [Given.addWords, if_neg, hwords, List.nil_append]
  intro h
  rcases List.any_eq_true.mp h.right with ⟨path, hpath, hempty⟩
  rw [String.isEmpty_iff.mp hempty] at hpath
  exact hnonempty hpath

theorem finish_escape_scan {given : Given} (hwords : given.words = []) {paths : List String}
    (hpaths : paths ≠ []) (hnonempty : "" ∉ paths) :
    State.finish .scan (State.ready given) ("--" :: paths) =
      .ok { given with words := paths } := by
  have hread : ("--" :: paths).foldlM (State.step .scan) (State.ready given) =
      .ok ⟨given, .words paths, true⟩ := by
    cases paths with
    | nil =>
        exact absurd rfl hpaths
    | cons path paths =>
        exact foldlM_step_words given [path] paths
  unfold State.finish
  rw [hread]
  show ((given.addWords .scan paths).bind _).bind _ = _
  rw [addWords_scan hwords hnonempty]
  rfl

theorem finish_escape_lookup {given : Given} (hwords : given.words = []) (api : String) :
    State.finish .lookup (State.ready given) ["--", api] = .ok { given with words := [api] } := by
  cases given with
  | mk format config dataset inputKind apiKey verbose withAdvice failsOnIssues words =>
      cases hwords
      rfl

theorem leads_orderWords (format : Option OutputFormat) (verbose : Bool)
    (config dataset : Option String) (order : ScanOrder) :
    Leads .scan
      ([settingWord .inputKind order.inputKind.name] ++
        switchWords .withAdvice order.withAdvice ++ settingWords .apiKey order.apiKey ++
          switchWords .failsOnIssues order.failsOnIssues)
      (.ofProgram format verbose config dataset)
      ((Given.ofProgram format verbose config dataset).withOrder (some order.inputKind)
        order.withAdvice order.apiKey order.failsOnIssues) := by
  let given := (Given.ofProgram format verbose config dataset).withOrder
  have hkind : Leads .scan [settingWord .inputKind order.inputKind.name]
      (.ofProgram format verbose config dataset)
      (given (some order.inputKind) false none false) := by
    apply leads_settingWord rfl
    exact Given.bind_fill (InputKind.ofName?_name _) fun filled => given filled false none false
  have hadvice : Leads .scan (switchWords .withAdvice order.withAdvice)
      (given (some order.inputKind) false none false)
      (given (some order.inputKind) order.withAdvice none false) :=
    leads_switchWords rfl (fun isOn => given (some order.inputKind) isOn none false) rfl rfl _
  have hkey : Leads .scan (settingWords .apiKey order.apiKey)
      (given (some order.inputKind) order.withAdvice none false)
      (given (some order.inputKind) order.withAdvice order.apiKey false) := by
    apply leads_settingWords rfl
      (fun value => given (some order.inputKind) order.withAdvice value false) rfl
    intro text _
    rfl
  have hfails : Leads .scan (switchWords .failsOnIssues order.failsOnIssues)
      (given (some order.inputKind) order.withAdvice order.apiKey false)
      (given (some order.inputKind) order.withAdvice order.apiKey order.failsOnIssues) :=
    leads_switchWords rfl
      (fun isOn => given (some order.inputKind) order.withAdvice order.apiKey isOn) rfl rfl _
  exact ((hkind.append hadvice).append hkey).append hfails

theorem finish_commandWords (format : Option OutputFormat) (verbose : Bool)
    (config dataset : Option String) {command : Command} (h : command.IsWritable) :
    State.finish (commandLevel command)
        (State.ready (.ofProgram format verbose config dataset)) (commandWords command) =
      .ok ((Given.ofProgram format verbose config dataset).withCommand command) := by
  cases command with
  | scan order =>
      unfold commandLevel commandWords
      rw [finish_append (leads_orderWords format verbose config dataset order)]
      exact finish_escape_scan rfl h.left h.right
  | lookup api =>
      exact finish_escape_lookup rfl api

theorem command_withCommand (given : Given) {made : Command} (h : made.IsWritable) :
    command none (commandLevel made) (given.withCommand made) = .ok made := by
  cases made with
  | scan order =>
      cases order with
      | mk paths inputKind withAdvice apiKey failsOnIssues =>
          cases paths with
          | nil =>
              exact absurd rfl h.left
          | cons path paths =>
              show Except.ok (Command.scan ⟨path :: paths, inputKind, withAdvice,
                apiKey.or none, failsOnIssues⟩) = _
              rw [Option.or_none]
  | lookup api =>
      rfl

/-!
## Reading invocations
-/

theorem readFrom_append {environmentKey : Option String} {words : List String}
    (h : ∀ word ∈ words, isCommand word = false) (state : State) (rest : List String) :
    readFrom environmentKey state (words ++ rest) =
      (words.foldlM (State.step .program) state).bind fun next =>
        readFrom environmentKey next rest := by
  induction words generalizing state with
  | nil =>
      rfl
  | cons word words ih =>
      have hword := h word List.mem_cons_self
      have hwords : ∀ later ∈ words, isCommand later = false := by
        intro later hlater
        exact h later (List.mem_cons_of_mem word hlater)
      rw [List.cons_append, readFrom, hword, Bool.not_false, Bool.or_true, if_pos rfl,
        List.foldlM_cons]
      cases State.step .program state word with
      | error stop =>
          rfl
      | ok next =>
          exact ih hwords next

theorem readFrom_leads {environmentKey : Option String} {words : List String} {given next : Given}
    (h : Leads .program words given next) (hwords : ∀ word ∈ words, isCommand word = false)
    (rest : List String) :
    readFrom environmentKey (State.ready given) (words ++ rest) =
      readFrom environmentKey (State.ready next) rest := by
  rw [readFrom_append hwords, h]
  rfl

theorem readFrom_commandName {outer inner : Given} {made : Command} {words : List String}
    (hinner : State.finish (commandLevel made) (State.ready .nothing) words = .ok inner)
    (hmade : command none (commandLevel made) inner = .ok made) :
    readFrom none (State.ready outer) (commandName made :: words) =
      .ok (invocation outer inner made) := by
  have hread : readFrom none (State.ready outer) (commandName made :: words) =
      (State.finish (commandLevel made) (State.ready .nothing) words).bind fun inner =>
        (command none (commandLevel made) inner).bind fun found =>
          .ok (invocation outer inner found) := by
    cases made <;> rfl
  rw [hread, hinner]
  show (command none (commandLevel made) inner).bind _ = _
  rw [hmade]
  rfl

theorem isCommand_of_mem_programWords {invocation : Invocation} {word : String}
    (h : word ∈ programWords invocation) : isCommand word = false := by
  have hsetting : ∀ setting value, isCommand (settingWord setting value) = false := by
    intro setting value
    apply isCommand_eq_false
    rw [toList_settingWord]
    rfl
  have hsettings : ∀ {setting value}, word ∈ settingWords setting value →
      isCommand word = false := by
    intro setting value hword
    cases value with
    | none =>
        cases hword
    | some text =>
        rw [List.mem_singleton.mp hword]
        exact hsetting setting text
  unfold programWords at h
  rw [List.mem_append, List.mem_append, List.mem_append] at h
  rcases h with ((hformat | hverbose) | hconfig) | hdataset
  · rw [List.mem_singleton.mp hformat]
    exact hsetting _ _
  · unfold switchWords at hverbose
    split at hverbose
    · rw [List.mem_singleton.mp hverbose]
      decide
    · cases hverbose
  · exact hsettings hconfig
  · exact hsettings hdataset

theorem invocation_of_outer (made : Invocation) :
    invocation (.ofInvocation made) (Given.nothing.withCommand made.command) made.command =
      made := by
  cases made with
  | mk command format verbose config dataset =>
      cases command <;> rfl

theorem invocation_of_inner (made : Invocation) :
    invocation .nothing ((Given.ofInvocation made).withCommand made.command) made.command =
      made := by
  have hinvocation : invocation .nothing ((Given.ofInvocation made).withCommand made.command)
      made.command = { made with
        verbose := made.verbose || false
        config := made.config.or none
        dataset := made.dataset.or none } := by
    cases made with
    | mk command format verbose config dataset =>
        cases command <;> rfl
  rw [hinvocation, Bool.or_false, Option.or_none, Option.or_none]

/--
An invocation is read back from its command line, wherever the options of the program
stand, and whatever its paths and values look like.
-/
theorem read_write (placement : Placement) {invocation : Invocation} (h : invocation.IsWritable) :
    read none (write placement invocation) = .ok invocation := by
  -- In front of the command its options are read by the program, behind it by the command, and
  -- what both levels are given is put together in the end.
  cases placement with
  | beforeCommand =>
      have hprogram := leads_programWords .program h.config h.dataset
      have hinner := finish_commandWords none false none none h.command
      show readFrom none (State.ready .nothing) (programWords invocation ++ _) = _
      rw [readFrom_leads hprogram fun _ => isCommand_of_mem_programWords,
        readFrom_commandName hinner (command_withCommand _ h.command)]
      exact congrArg Except.ok (invocation_of_outer invocation)
  | behindCommand =>
      have hprogram := leads_programWords (commandLevel invocation.command) h.config h.dataset
      have hinner := finish_commandWords (some invocation.format) invocation.verbose
        invocation.config invocation.dataset h.command
      rw [← Given.ofInvocation, ← finish_append hprogram] at hinner
      show readFrom none (State.ready .nothing) (commandName invocation.command :: _) = _
      rw [readFrom_commandName hinner (command_withCommand _ h.command)]
      exact congrArg Except.ok (invocation_of_inner invocation)

def awkwardInvocation : Invocation where
  command := .scan {
    paths := ["-", "--", "--format=json", "scan"]
    inputKind := .typescript
    withAdvice := true
    apiKey := some "--api-key=-x"
    failsOnIssues := false }
  format := .json
  verbose := true
  config := some "-c=d"
  dataset := some "help"

theorem awkwardInvocation_read_back :
    write .behindCommand awkwardInvocation =
        ["scan", "--format=json", "--verbose", "--config=-c=d", "--dataset=help",
          "--stdin-kind=typescript", "--ai-suggestions", "--api-key=--api-key=-x",
          "--", "-", "--", "--format=json", "scan"] ∧
      read none (write .behindCommand awkwardInvocation) = .ok awkwardInvocation ∧
        read none (write .beforeCommand awkwardInvocation) = .ok awkwardInvocation := by
  have hwritable : awkwardInvocation.IsWritable :=
    ⟨⟨by decide, by decide⟩, by decide, by decide⟩
  exact ⟨by decide, read_write .behindCommand hwritable, read_write .beforeCommand hwritable⟩

end CommandLine
end WebCompat
