import WebCompat.Json.Printer
import WebCompat.Report.Counts

/-!
# Reports for machines

A report for machines is a JSON document with the issues of a scan and their
counts.
-/

namespace WebCompat
namespace ScanResult

open Json (Value)

def toJson (timestamp : String) (result : ScanResult) : Value :=
  .object [
    ("filesScanned", .natural result.filesScanned),
    ("filesWithIssues", .natural result.filesWithIssues),
    ("issues", .array (result.issues.map Issue.toJson)),
    ("timestamp", .string timestamp),
    ("totalIssues", .natural result.totalIssues),
    ("issuesByType", result.issuesByKindJson)]

def jsonReport (timestamp : String) (result : ScanResult) : String :=
  (result.toJson timestamp).pretty ++ "\n"

end ScanResult
end WebCompat
