import WebCompat.CommandLine.Stop

/-!
# Options

Options stand on the command line as words that begin with hyphens.  A long
option has a name; its value stands behind an equals sign or in the next word.
Short options have letters, and several of them can share a word.
-/

namespace WebCompat
namespace CommandLine

inductive Setting where
  | format
  | config
  | dataset
  | inputKind
  | apiKey
deriving DecidableEq, Repr

inductive Switch where
  | verbose
  | withAdvice
  | failsOnIssues
  | help
  | version
deriving DecidableEq, Repr

inductive Flag where
  | setting (setting : Setting)
  | switch (switch : Switch)
deriving DecidableEq, Repr

namespace Setting

def name : Setting → String
  | format => "format"
  | config => "config"
  | dataset => "dataset"
  | inputKind => "stdin-kind"
  | apiKey => "api-key"

def isForScan : Setting → Bool
  | inputKind => true
  | apiKey => true
  | _ => false

def all : List Setting :=
  [format, config, dataset, inputKind, apiKey]

end Setting

namespace Switch

def name : Switch → String
  | verbose => "verbose"
  | withAdvice => "ai-suggestions"
  | failsOnIssues => "fail-on-issues"
  | help => "help"
  | version => "version"

def isForScan : Switch → Bool
  | withAdvice => true
  | failsOnIssues => true
  | _ => false

def all : List Switch :=
  [verbose, withAdvice, failsOnIssues, help, version]

end Switch

namespace Flag

def name : Flag → String
  | .setting given => given.name
  | .switch given => given.name

def isForScan : Flag → Bool
  | .setting given => given.isForScan
  | .switch given => given.isForScan

def all : List Flag :=
  Setting.all.map setting ++ Switch.all.map switch

def isAt (level : Level) (flag : Flag) : Bool :=
  !flag.isForScan || level = .scan

def ofName? (level : Level) (name : String) : Option Flag :=
  all.find? fun flag => flag.name = name && flag.isAt level

def ofLetter? (letter : Char) : Option Flag :=
  if letter = 'f' then some (.setting .format)
  else if letter = 'v' then some (.switch .verbose)
  else if letter = 'h' then some (.switch .help)
  else if letter = 'V' then some (.switch .version)
  else none

end Flag

/-!
# Shapes of words

What a word of a command line is, before any option is known.
-/

inductive Shape where
  /-- Two hyphens: whatever follows is no option. -/
  | escape
  | long (name : String) (value : Option String)
  | short (letters : List Char)
  | plain
deriving DecidableEq, Repr

namespace Shape

def ofLong (text : List Char) : Shape :=
  let name := String.ofList (text.takeWhile (· != '='))
  match text.dropWhile (· != '=') with
  | [] => .long name none
  | _ :: value => .long name (some (String.ofList value))

/-- The shape of a word; a single hyphen is a plain word. -/
def ofWord (word : String) : Shape :=
  match word.toList with
  | ['-', '-'] => .escape
  | '-' :: '-' :: rest => ofLong rest
  | '-' :: c :: rest => .short (c :: rest)
  | _ => .plain

end Shape
end CommandLine
end WebCompat
