import WebCompat.Issue.Basic
import WebCompat.Knowledge.Hit
import WebCompat.Text.Blank

/-!
# Scanning line by line

A source that no grammar covers is searched line by line for the paths of
problematic APIs.  This finds them in comments and strings, too.
-/

namespace WebCompat
namespace Scan

def columns (base : KnowledgeBase) (line : List Char) : List (Nat × String) :=
  ((base.hits line).map fun hit => (Text.utf16Column line hit.offset, hit.api)).mergeSort
    fun a b => a.1 ≤ b.1

def line (base : KnowledgeBase) (file : String) (number : Nat) (text : List Char) :
    List Issue :=
  (columns base text).filterMap fun (column, api) =>
    (base.lookup api).map fun descriptor =>
      .ofDescriptor file number column descriptor (String.ofList (Text.trim text))

def plain (base : KnowledgeBase) (file source : String) : List Issue :=
  (Text.lines source.toList).zipIdx.flatMap fun (text, index) =>
    line base file (index + 1) text

end Scan
end WebCompat
