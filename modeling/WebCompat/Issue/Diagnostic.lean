import WebCompat.Dictionary
import WebCompat.Issue.Basic
import WebCompat.Text.Position

/-!
# Diagnostics

Editors show issues as diagnostics: a range of the document with a message.  A
board holds the diagnostics of all documents that have some; each new scan of a
document replaces what the board holds for it.
-/

namespace WebCompat

/-- A range within one line, counted from zero, in UTF-16 units. -/
structure LineRange where
  line : Nat
  first : Nat
  stop : Nat
deriving DecidableEq, Repr

structure Diagnostic where
  range : LineRange
  kind : IssueKind
  message : String
deriving DecidableEq, Repr

namespace Diagnostic

def source : String := "Baseline Scanner"

def severity : String := "warning"

/-- The diagnostic of an issue, whose range is as long as the path of the API. -/
def ofIssue (issue : Issue) : Diagnostic where
  range := {
    line := issue.line - 1
    first := issue.column
    stop := issue.column + Text.utf16Length issue.api.toList }
  kind := issue.kind
  message := Knowledge.Descriptor.notSupported issue.api ++ ". " ++ issue.suggestion

end Diagnostic

abbrev Board : Type :=
  Dictionary (List Diagnostic)

namespace Board

def update (board : Board) (document : String) (issues : List Issue) : Board :=
  if issues.isEmpty then board.erase document
  else board.insert document (issues.map Diagnostic.ofIssue)

end Board
end WebCompat
