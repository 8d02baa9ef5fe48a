import WebCompat.Scan.SourceKind

/-!
# Invocations

What the user can ask of the program: to scan sources or to look up one API,
and in which form to be told about it.
-/

namespace WebCompat

inductive OutputFormat where
  | plain
  | json
deriving DecidableEq, Repr

namespace OutputFormat

def name : OutputFormat → String
  | plain => "text"
  | json => "json"

/-- The format of a name; one of them has two names. -/
def ofName? (name : String) : Option OutputFormat :=
  if name = "text" ∨ name = "pretty" then some plain
  else if name = "json" then some json
  else none

theorem ofName?_name (format : OutputFormat) : ofName? format.name = some format := by
  cases format <;> decide

end OutputFormat

inductive InputKind where
  | script
  | typescript
  | markup
deriving DecidableEq, Repr

namespace InputKind

def name : InputKind → String
  | script => "script"
  | typescript => "typescript"
  | markup => "markup"

/-- The kind of a name; one of them has two names. -/
def ofName? (name : String) : Option InputKind :=
  if name = "script" then some script
  else if name = "typescript" ∨ name = "ts" then some typescript
  else if name = "markup" then some markup
  else none

theorem ofName?_name (kind : InputKind) : ofName? kind.name = some kind := by
  cases kind <;> decide

def sourceKind : InputKind → SourceKind
  | script => .script .javascript
  | typescript => .script .typescript
  | markup => .markup

end InputKind

structure ScanOrder where
  /-- Files and directories; a hyphen stands for standard input. -/
  paths : List String
  inputKind : InputKind
  withAdvice : Bool
  apiKey : Option String
  failsOnIssues : Bool
deriving DecidableEq, Repr

namespace ScanOrder

def inputPath : String := "-"

def readsInput (order : ScanOrder) : Bool :=
  order.paths.contains inputPath

end ScanOrder

inductive Command where
  | scan (order : ScanOrder)
  | lookup (api : String)
deriving DecidableEq, Repr

structure Invocation where
  command : Command
  format : OutputFormat
  verbose : Bool
  config : Option String
  dataset : Option String
deriving DecidableEq, Repr

end WebCompat
