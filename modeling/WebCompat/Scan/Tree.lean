import WebCompat.Issue.Basic
import WebCompat.Knowledge.Base
import WebCompat.Scan.Path
import WebCompat.Text.Blank
import WebCompat.Text.Position

/-!
# Scanning a syntax tree

Every node of a script that reaches a problematic API by its path is an issue,
in the order in which the tree is walked from the top.
-/

namespace WebCompat
namespace Scan

open Script (Tree)

def issueAt (file : String) (source : List Char) (place : Text.Position)
    (descriptor : Knowledge.Descriptor) : Issue :=
  let line := (Text.lines source)[place.row]?.getD []
  .ofDescriptor file (place.row + 1) (Text.utf16Column line place.byteColumn) descriptor
    (String.ofList (Text.trim line))

def descriptor? (base : KnowledgeBase) (source : List Char) (node : Tree) :
    Option Knowledge.Descriptor := do
  let target ← node.target?
  let path ← target.path? source
  base.lookup (String.ofList path)

def nodeIssue? (base : KnowledgeBase) (file : String) (source : List Char) (node : Tree) :
    Option Issue :=
  (descriptor? base source node).map
    (issueAt file source (.ofOffset source node.start))

def tree (base : KnowledgeBase) (file source : String) (root : Tree) : List Issue :=
  root.preorder.filterMap (nodeIssue? base file source.toList)

end Scan
end WebCompat
