import WebCompat.CommandLine.Invocation
import WebCompat.CommandLine.Flag

/-!
# Writing command lines

Every invocation has a command line that makes it.  Its options are written
with their values in one word, and its other words stand behind two hyphens, so
that none of them can be taken for an option.
-/

namespace WebCompat
namespace CommandLine

def settingWord (setting : Setting) (value : String) : String :=
  "--" ++ setting.name ++ "=" ++ value

def settingWords (setting : Setting) (value : Option String) : List String :=
  (value.map (settingWord setting)).toList

def switchWords (switch : Switch) (isOn : Bool) : List String :=
  if isOn then ["--" ++ switch.name] else []

def programWords (invocation : Invocation) : List String :=
  [settingWord .format invocation.format.name] ++
    switchWords .verbose invocation.verbose ++
    settingWords .config invocation.config ++
    settingWords .dataset invocation.dataset

def commandName : Command → String
  | .scan _ => "scan"
  | .lookup _ => "lookup"

def commandWords : Command → List String
  | .scan order =>
      [settingWord .inputKind order.inputKind.name] ++
        switchWords .withAdvice order.withAdvice ++
        settingWords .apiKey order.apiKey ++
        switchWords .failsOnIssues order.failsOnIssues ++
        "--" :: order.paths
  | .lookup api => ["--", api]

/-- Where the options of the program stand. -/
inductive Placement where
  | beforeCommand
  | behindCommand
deriving DecidableEq, Repr

def write (placement : Placement) (invocation : Invocation) : List String :=
  match placement with
  | .beforeCommand =>
      programWords invocation ++
        commandName invocation.command :: commandWords invocation.command
  | .behindCommand =>
      commandName invocation.command ::
        (programWords invocation ++ commandWords invocation.command)

end CommandLine
end WebCompat
