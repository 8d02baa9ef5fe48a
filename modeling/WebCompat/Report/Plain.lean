import WebCompat.Report.Counts

/-!
# Reports for readers

A report for readers lists the counts and then the issues.  A heading names the
file wherever it differs from the file of the issue before.
-/

namespace WebCompat
namespace Report

def line (text : String) : String :=
  text ++ "\n"

def banner : String :=
  line "═══════════════════════════════════════════" ++
  line "  BASELINE COMPATIBILITY SCAN" ++
  line "═══════════════════════════════════════════" ++
  line ""

def counts (result : ScanResult) : String :=
  line ("files_scanned: " ++ toString result.filesScanned) ++
  line ("files_with_issues: " ++ toString result.filesWithIssues) ++
  line ("issues: " ++ toString result.totalIssues) ++
  String.join (result.issuesByKind.map fun (kind, count) =>
    line ("  " ++ kind.name ++ ": " ++ toString count)) ++
  line ""

def heading (file : String) : String :=
  line ("── " ++ file ++ " ──")

def advice (advice : Advice) : String :=
  line ("    alternative: " ++ advice.alternative) ++
  line ("    why: " ++ advice.explanation) ++
  line "    example:" ++
  String.join ((Text.endedLines advice.codeExample.toList).map fun text =>
    line ("      " ++ String.ofList text)) ++
  line ("    alternative_support: " ++ advice.browserSupport)

/-- One issue, with its advice where that is wanted and there is some. -/
def entry (withAdvice : Bool) (issue : Issue) : String :=
  line ("  " ++ toString issue.line ++ ":" ++ toString issue.column ++
    "  [" ++ issue.kind.name ++ "]  " ++ issue.api) ++
  line ("    " ++ issue.description) ++
  line ("    suggestion: " ++ issue.suggestion) ++
  line ("    support: " ++ issue.browserSupport) ++
  (if issue.context.isEmpty then "" else line ("    > " ++ issue.context)) ++
  (match withAdvice, issue.advice with
    | true, some given => advice given
    | _, _ => "") ++
  line ""

/-- The issues, each with a heading if its file differs from the one before. -/
def entries (withAdvice : Bool) (current : Option String) : List Issue → String
  | [] => ""
  | issue :: rest =>
      (if current = some issue.file then "" else heading issue.file) ++
        entry withAdvice issue ++ entries withAdvice (some issue.file) rest

end Report

namespace ScanResult

def plainReport (withAdvice : Bool) (result : ScanResult) : String :=
  Report.banner ++ Report.counts result ++
    if result.issues.isEmpty then Report.line "No problematic APIs found."
    else Report.entries withAdvice none result.issues

end ScanResult
end WebCompat
