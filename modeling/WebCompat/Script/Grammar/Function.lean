import WebCompat.Script.Grammar.Literal

/-!
# Functions

Function expressions and the bodies of arrow functions.

## Braces behind an arrow

Braces behind an arrow hold statements if they can be read that way, and an
object otherwise.  The choice is not free: where the first word inside is the
keyword of a statement or of an operand, or where a statement would be over
right behind it, the braces hold statements whatever comes later.  The same
holds for braces at the start of a statement, and where a comma or an equals
sign follows on the first name.
-/

namespace WebCompat
namespace Script
namespace Grammar

open Reader

variable (g : Grammar)

/-- The words that start statements and operands and are never plain names there. -/
def startingWords : List String :=
  ["const", "var", "if", "switch", "for", "while", "do", "try", "with", "break", "continue",
    "debugger", "return", "throw", "function", "class", "import", "this", "super", "true",
    "false", "null", "undefined", "typeof", "void", "delete", "await", "yield"] ++
  if g.typed then ["enum", "interface", "abstract", "using"] else ["new"]

/-- Whether the brace that comes next could open an object where a block could stand. -/
def couldOpenObject : Reader Bool :=
  accepts do
    symbol "\x7b"
    openGap
    match ← optional bareName with
    | none => pure ()
    | some text =>
        require (!g.startingWords.contains text)
        require (!(← seesEnd g.dialect { valued := true }))
        let next ← nextChar
        require (next != some ',' && next != some '=')

def functionExpression : Reader Tree :=
  node .function do
    let _ ← optional (word "async")
    word "function"
    let _ ← optional (symbol "*")
    let name ← optional (nameLeaf .identifier)
    let head ← g.signature none
    return name.toList ++ head ++ [← g.block]

def arrowBody (context : Context) : Reader Tree := do
  openGap
  if ← accepts (exactly "\x7b") then
    g.block <|> do
      require (← g.couldOpenObject)
      g.expression context
  else
    g.expression context

def arrowFrom (context : Context) (start : Nat) (head : List Tree) : Reader Tree := do
  symbol "=>"
  let body ← g.arrowBody context
  return .node .arrow none start (← offset) (head ++ [body])

def genericArrow (context : Context) : Reader Tree := do
  gap
  let start ← offset
  let generic ← g.typeParameters
  let parameters ← g.parameters
  let result ← g.resultType? none
  g.arrowFrom context start (generic :: parameters :: result)

/--
An arrow function whose parameters are a group that has been read.  The type of
its result may stand before the arrow.
-/
def groupArrow (context : Context) (start : Nat) (group : Group) : Reader Tree := do
  require group.isParameters
  let parameters := group.toTree .parameters
  g.arrowFrom context start [parameters] <|> do
    require (g.typed && context.returnTypes)
    symbol ":"
    let result ← g.resultType none
    g.arrowFrom context start [parameters, result]

end Grammar
end Script
end WebCompat
