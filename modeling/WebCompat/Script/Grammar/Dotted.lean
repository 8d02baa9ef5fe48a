import WebCompat.Script.Grammar.Atom

/-!
# Dotted names outside of expressions

The names of namespaces, of imported entities and of types are dotted, and so
are the tags of markup elements.  Their proper beginnings are member accesses:
in `import x = a.b.c` the part `a.b` is one.
-/

namespace WebCompat
namespace Script
namespace Dotted

def memberChain (first : Tree) : List Tree → Tree
  | [] => first
  | names => names.foldl access first
where
  access (object name : Tree) : Tree :=
    .node .member none object.start name.stop
      [object.withField .object, name.withField .property]

/--
A dotted name as a whole: a single name as it is, and otherwise a node around
the member access for all names but the last.
-/
def whole (kind : Kind) (first : Tree) (names : List Tree) : Tree :=
  match names.getLast? with
  | none => first
  | some last =>
      let object := memberChain first names.dropLast
      .node kind none first.start last.stop [object, last]

end Dotted

namespace Reader

def dottedTail : Reader (List Tree) :=
  many do
    symbol "."
    nameLeaf .propertyName

def dottedName : Reader Tree := do
  let first ← nameLeaf .identifier
  return Dotted.whole .dottedName first (← dottedTail)

end Reader
end Script
end WebCompat
