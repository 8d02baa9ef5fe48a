import WebCompat.Scan.Lines
import WebCompat.Scan.Markup
import WebCompat.Scan.SourceKind
import WebCompat.Scan.Tree
import WebCompat.Script.Parse

/-!
# Scanning sources

A script is scanned by its syntax tree, or as plain text where its grammar does
not cover it.  A markup document is scanned script by script; the lines of a
script are counted on from the line where its opening tag begins.
-/

namespace WebCompat
namespace Scan

open Script (Dialect)

def script (base : KnowledgeBase) (file source : String) (dialect : Dialect) : List Issue :=
  match Script.parse? dialect source with
  | some root => tree base file source root
  | none => plain base file source

def shift (count : Nat) (issue : Issue) : Issue :=
  { issue with line := issue.line + count }

def block (base : KnowledgeBase) (file : String) (found : Markup.Block) : List Issue :=
  (script base file (String.ofList found.content) .javascript).map (shift found.newlines)

def markup (base : KnowledgeBase) (file document : String) : List Issue :=
  (Markup.blocks document.toList).flatMap (block base file)

def source (base : KnowledgeBase) (file text : String) : SourceKind → List Issue
  | .script dialect => script base file text dialect
  | .markup => markup base file text

end Scan
end WebCompat
