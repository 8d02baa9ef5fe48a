import WebCompat.FileSystem
import WebCompat.Scan.Source

/-!
# Scan sessions

A session scans units one after the other and adds up what it finds.  A unit
that cannot be read counts as scanned but has no issues.  Before each unit the
session looks whether it has been cancelled; the units before that moment are
scanned as if there were no others.
-/

namespace WebCompat

inductive Content where
  | text (text : String)
  /-- The file of the given path, read when the unit is scanned. -/
  | file (path : String)
deriving DecidableEq, Repr

structure SourceUnit where
  name : String
  kind : SourceKind
  content : Content
deriving DecidableEq, Repr

namespace SourceUnit

def ofText (name text : String) (kind : SourceKind) : SourceUnit where
  name := name
  kind := kind
  content := .text text

def ofPath (path : String) : Except Failure SourceUnit := do
  return { name := path, kind := ← SourceKind.ofPath path, content := .file path }

def read (files : FileSystem) (unit : SourceUnit) : Except Failure String :=
  match unit.content with
  | .text text => .ok text
  | .file path => files.read path

end SourceUnit

structure ScanResult where
  filesScanned : Nat
  filesWithIssues : Nat
  issues : List Issue
deriving DecidableEq, Repr

namespace ScanResult

def empty : ScanResult where
  filesScanned := 0
  filesWithIssues := 0
  issues := []

def addUnreadable (result : ScanResult) : ScanResult :=
  { result with filesScanned := result.filesScanned + 1 }

def addScanned (result : ScanResult) (issues : List Issue) : ScanResult where
  filesScanned := result.filesScanned + 1
  filesWithIssues := result.filesWithIssues + if issues.isEmpty then 0 else 1
  issues := result.issues ++ issues

end ScanResult

namespace Session

def scanUnit (files : FileSystem) (base : KnowledgeBase) (result : ScanResult)
    (unit : SourceUnit) : ScanResult :=
  match unit.read files with
  | .ok text => result.addScanned (Scan.source base unit.name text unit.kind)
  | .error _ => result.addUnreadable

/--
The result after all units before the session is cancelled, where
`isCancelled n` says whether that has happened when the unit of number `n` is
fetched.
-/
def runFrom (files : FileSystem) (base : KnowledgeBase) (isCancelled : Nat → Bool)
    (result : ScanResult) (number : Nat) : List SourceUnit → ScanResult
  | [] => result
  | unit :: rest =>
      if isCancelled number then result
      else
        runFrom files base isCancelled (scanUnit files base result unit) (number + 1) rest

def runUntil (files : FileSystem) (base : KnowledgeBase) (isCancelled : Nat → Bool)
    (units : List SourceUnit) : ScanResult :=
  runFrom files base isCancelled .empty 0 units

def run (files : FileSystem) (base : KnowledgeBase) (units : List SourceUnit) : ScanResult :=
  runUntil files base (fun _ => false) units

end Session
end WebCompat
