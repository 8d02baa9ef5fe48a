import WebCompat.CommandLine.Reader
import WebCompat.Config.File
import WebCompat.Guidance.Client
import WebCompat.Knowledge.Summary
import WebCompat.Report.Document
import WebCompat.Report.Plain
import WebCompat.Walk

/-!
# The program

What the program answers to an invocation, as a function of all that it finds
around it: files, variables, standard input, the provider of suggestions and
the time.
-/

namespace WebCompat

inductive StandardInput where
  /-- Standard input is not looked at. -/
  | absent
  | text (text : String)
  | unreadable
deriving DecidableEq, Repr

structure Surroundings where
  files : FileSystem
  environment : Environment
  input : StandardInput
  provider : Provider
  timestamp : String

structure Answer where
  text : String
  /-- Whether the process is to fail for what was found. -/
  failed : Bool
deriving DecidableEq, Repr

/-!
# Units of a scan

Standard input is one of the units if a hyphen names it.
-/

namespace Program

def inputName : String := "<stdin>"

def inputText (input : StandardInput) (order : ScanOrder) : Except Failure (Option String) :=
  if order.readsInput then
    match input with
    | .absent => .ok none
    | .text text => .ok (some text)
    | .unreadable => .error .unreadable
  else .ok none

def unitsOfPath (context : Walk.Context) (kind : InputKind) (input : Option String)
    (path : String) : Except Failure (List SourceUnit) :=
  if path = ScanOrder.inputPath then
    .ok ((input.map fun text => SourceUnit.ofText inputName text kind.sourceKind).toList)
  else Walk.unitsOfPath context path

def units (context : Walk.Context) (input : Option String) (order : ScanOrder) :
    Except Failure (List SourceUnit) :=
  let count := order.paths.count ScanOrder.inputPath
  if 1 < count then .error (.repeatedInput count)
  else do
    return (← order.paths.mapM (unitsOfPath context order.inputKind input)).flatten

/-! # Commands -/

def knowledgeBase (files : FileSystem) (config : Config) : KnowledgeBase :=
  .ofLoaded (KnowledgeBase.loadDataset files config.datasetPath)

/-- The settings of the provider; a key on the command line counts before that of the file. -/
def providerSettings (config : Config) (order : ScanOrder) : ProviderSettings :=
  { config.provider with apiKey := order.apiKey.or config.provider.apiKey }

def withAdvice (provider : Provider) (config : Config) (order : ScanOrder)
    (result : ScanResult) : ScanResult :=
  if order.withAdvice then
    { result with
      issues := Guidance.adviseAll (providerSettings config order) provider result.issues }
  else result

def report (timestamp : String) (format : OutputFormat) (order : ScanOrder)
    (result : ScanResult) : String :=
  match format with
  | .json => result.jsonReport timestamp
  | .plain => result.plainReport order.withAdvice

def scan (surroundings : Surroundings) (config : Config) (format : OutputFormat)
    (order : ScanOrder) : Except Failure Answer := do
  let files := surroundings.files
  let context : Walk.Context := {
    files
    selection := config.selection
    userRules := Walk.userRules files surroundings.environment }
  let input ← inputText surroundings.input order
  let found := Session.run files (knowledgeBase files config) (← units context input order)
  let result := withAdvice surroundings.provider config order found
  return {
    text := report surroundings.timestamp format order result
    failed := order.failsOnIssues && result.hasIssues }

def lookup (files : FileSystem) (config : Config) (format : OutputFormat) (api : String) :
    Answer :=
  let summary := (knowledgeBase files config).summary (Text.trimmed api)
  { text :=
      match format with
      | .json => summary.toJson.pretty ++ "\n"
      | .plain => summary.toText
    failed := false }

def config (surroundings : Surroundings) (invocation : Invocation) : Except Failure Config := do
  let loaded ← Config.load surroundings.files surroundings.environment invocation.config
  return { loaded with datasetPath := invocation.dataset.or loaded.datasetPath }

def run (surroundings : Surroundings) (invocation : Invocation) : Except Failure Answer := do
  let config ← config surroundings invocation
  match invocation.command with
  | .scan order => scan surroundings config invocation.format order
  | .lookup api => return lookup surroundings.files config invocation.format api

/-!
# Endings

What the process leaves behind: its exit code, what it prints, and what it
complains about.
-/

structure Ending where
  exitCode : Nat
  output : String
  complaint : Option String
deriving DecidableEq, Repr

def Ending.ofStop (stop : CommandLine.Stop) : Ending where
  exitCode := stop.exitCode
  output := stop.output
  complaint := stop.complaint?

def Ending.ofResult : Except Failure Answer → Ending
  | .ok answer => ⟨if answer.failed then 1 else 0, answer.text, none⟩
  | .error failure => ⟨failure.exitCode, "", some ("Error: " ++ failure.message)⟩

def ending (surroundings : Surroundings) (words : List String) : Ending :=
  match CommandLine.read surroundings.environment.apiKey words with
  | .error stop => .ofStop stop
  | .ok invocation => .ofResult (run surroundings invocation)

end Program
end WebCompat
