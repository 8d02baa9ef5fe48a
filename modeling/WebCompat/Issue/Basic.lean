import WebCompat.Issue.Advice
import WebCompat.Knowledge.Descriptor

/-!
# Issues

An issue is one use of a problematic API at one place of a source.
-/

namespace WebCompat

open Json (Value)
open Knowledge (Descriptor Status)

inductive IssueKind where
  | deprecated
  | nonBaseline
  | hazardous
deriving DecidableEq, Repr

namespace IssueKind

def name : IssueKind → String
  | deprecated => "deprecated"
  | nonBaseline => "non-baseline"
  | hazardous => "unsafe"

def all : List IssueKind :=
  [deprecated, nonBaseline, hazardous]

def ofJson? : Value → Option IssueKind :=
  Value.choice? (all.map fun kind => (kind.name, kind))

/-- The kind of the issues with an API; only a deprecation is passed on. -/
def ofStatus : Status → IssueKind
  | .deprecated => deprecated
  | .nonBaseline => nonBaseline
  | .hazardous => nonBaseline

end IssueKind

structure Issue where
  file : String
  line : Nat
  /-- The column in UTF-16 units, counted from zero. -/
  column : Nat
  api : String
  kind : IssueKind
  description : String
  suggestion : String
  browserSupport : String
  context : String
  advice : Option Advice
deriving DecidableEq, Repr

namespace Issue

def orIfEmpty (text default : String) : String :=
  if text.isEmpty then default else text

def ofDescriptor (file : String) (line column : Nat) (descriptor : Descriptor)
    (context : String) : Issue where
  file := file
  line := line
  column := column
  api := descriptor.api
  kind := .ofStatus descriptor.status
  description := orIfEmpty descriptor.description (Descriptor.notSupported descriptor.api)
  suggestion :=
    orIfEmpty descriptor.suggestion "Consider using a Baseline-supported alternative"
  browserSupport := orIfEmpty descriptor.browserSupport "Limited browser support"
  context := context
  advice := none

def fieldNames : List String :=
  ["file", "line", "column", "api", "type", "description", "suggestion",
    "browserSupport", "context", "aiSuggestion"]

/-- The document of an issue; an issue without advice has no member for it. -/
def toJson (issue : Issue) : Value :=
  .object ([
    ("file", .string issue.file),
    ("line", .natural issue.line),
    ("column", .natural issue.column),
    ("api", .string issue.api),
    ("type", .string issue.kind.name),
    ("description", .string issue.description),
    ("suggestion", .string issue.suggestion),
    ("browserSupport", .string issue.browserSupport),
    ("context", .string issue.context)] ++
    issue.advice.toList.map fun advice => ("aiSuggestion", advice.toJson))

def ofJson? (document : Value) : Option Issue := do
  let field ← document.record? fieldNames
  return {
    file := ← Value.required? Value.text? (field "file")
    line := ← Value.required? Value.size? (field "line")
    column := ← Value.required? Value.size? (field "column")
    api := ← Value.required? Value.text? (field "api")
    kind := ← Value.required? IssueKind.ofJson? (field "type")
    description := ← Value.required? Value.text? (field "description")
    suggestion := ← Value.required? Value.text? (field "suggestion")
    browserSupport := ← Value.required? Value.text? (field "browserSupport")
    context := ← Value.required? Value.text? (field "context")
    advice := ← Value.optional? Advice.ofJson? (field "aiSuggestion") }

end Issue
end WebCompat
