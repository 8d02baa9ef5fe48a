import WebCompat.Knowledge.Base
import WebCompat.Text.Occurrence

/-!
# Hits

A hit is an occurrence of the path of a problematic API as a word of a line.  A
line is searched for one API after the other.  If it is told beforehand which
APIs occur in the line at all, only these are searched for.
-/

namespace WebCompat

structure Hit where
  /-- The number of bytes of the line before the occurrence. -/
  offset : Nat
  api : String
deriving DecidableEq, Repr

namespace Hit

def ofApi (line : List Char) (api : String) : List Hit :=
  (Text.occurrences api.toList line).map fun offset => ⟨offset, api⟩

end Hit

structure Matchers where
  apis : List String
  /-- Tells the places in the list of the APIs that occur in a line. -/
  preselection : Option (List Char → List Nat)

namespace Matchers

def occurring (apis : List String) (line : List Char) : List Nat :=
  (apis.zipIdx.filter fun entry => !(Hit.ofApi line entry.1).isEmpty).map Prod.snd

def ofApis (apis : List String) : Matchers where
  apis := apis
  preselection := some (occurring apis)

def hits (matchers : Matchers) (line : List Char) : List Hit :=
  match matchers.preselection with
  | some told => ((told line).filterMap (matchers.apis[·]?)).flatMap (Hit.ofApi line)
  | none => matchers.apis.flatMap (Hit.ofApi line)

end Matchers

namespace KnowledgeBase

def matchers (base : KnowledgeBase) : Matchers :=
  .ofApis base.apis

def hits (base : KnowledgeBase) (line : List Char) : List Hit :=
  base.matchers.hits line

end KnowledgeBase
end WebCompat
