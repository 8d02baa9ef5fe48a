import WebCompat.Session

/-!
# Counts of issues

How many issues a result has, in all and of each kind.
-/

namespace WebCompat
namespace ScanResult

open Json (Value)

def totalIssues (result : ScanResult) : Nat :=
  result.issues.length

def hasIssues (result : ScanResult) : Bool :=
  !result.issues.isEmpty

def countOf (result : ScanResult) (kind : IssueKind) : Nat :=
  result.issues.countP fun issue => issue.kind = kind

/-- The kinds that occur, with their numbers of issues. -/
def issuesByKind (result : ScanResult) : List (IssueKind × Nat) :=
  (IssueKind.all.map fun kind => (kind, result.countOf kind)).filter fun entry => 0 < entry.2

def issuesByKindJson (result : ScanResult) : Value :=
  .object (result.issuesByKind.map fun (kind, count) => (kind.name, .natural count))

def ofJson? (document : Value) : Option ScanResult := do
  let field ← document.record? ["filesScanned", "filesWithIssues", "issues", "timestamp"]
  let _ ← Value.required? Value.text? (field "timestamp")
  return {
    filesScanned := ← Value.required? Value.size? (field "filesScanned")
    filesWithIssues := ← Value.required? Value.size? (field "filesWithIssues")
    issues := ← Value.required? (Value.list? Issue.ofJson?) (field "issues") }

end ScanResult
end WebCompat
