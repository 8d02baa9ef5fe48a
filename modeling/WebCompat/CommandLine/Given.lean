import WebCompat.CommandLine.Invocation
import WebCompat.CommandLine.Flag

/-!
# What is given at one level

The options and words of one level of the command line.  Each option can be
given once, and its value has to be one that it can have.
-/

namespace WebCompat
namespace CommandLine

structure Given where
  format : Option OutputFormat
  config : Option String
  dataset : Option String
  inputKind : Option InputKind
  apiKey : Option String
  verbose : Bool
  withAdvice : Bool
  failsOnIssues : Bool
  /-- The words that are no options. -/
  words : List String
deriving DecidableEq, Repr

namespace Given

def nothing : Given where
  format := none
  config := none
  dataset := none
  inputKind := none
  apiKey := none
  verbose := false
  withAdvice := false
  failsOnIssues := false
  words := []

def path? (text : String) : Option String :=
  if text.isEmpty then none else some text

/-- A setting that was not given before, as `read?` takes its value. -/
def fill (before : Option α) (read? : String → Option α) (value : String) :
    Except Stop (Option α) :=
  match before with
  | some _ => .error .repeatedOption
  | none =>
      match read? value with
      | some found => .ok (some found)
      | none => .error .invalidValue

def set (given : Given) (setting : Setting) (value : String) : Except Stop Given := do
  match setting with
  | .format => return { given with format := ← fill given.format OutputFormat.ofName? value }
  | .config => return { given with config := ← fill given.config path? value }
  | .dataset => return { given with dataset := ← fill given.dataset path? value }
  | .inputKind => return { given with inputKind := ← fill given.inputKind InputKind.ofName? value }
  | .apiKey => return { given with apiKey := ← fill given.apiKey some value }

def turn (before : Bool) : Except Stop Bool :=
  if before then .error .repeatedOption else .ok true

def turnOn (given : Given) (level : Level) (switch : Switch) : Except Stop Given := do
  match switch with
  | .verbose => return { given with verbose := ← turn given.verbose }
  | .withAdvice => return { given with withAdvice := ← turn given.withAdvice }
  | .failsOnIssues => return { given with failsOnIssues := ← turn given.failsOnIssues }
  | .help => throw (.help level)
  | .version => throw (.version level)

def addWords (given : Given) (level : Level) (words : List String) : Except Stop Given :=
  if level = .scan ∧ words.any String.isEmpty then .error .invalidValue
  else .ok { given with words := given.words ++ words }

end Given
end CommandLine
end WebCompat
