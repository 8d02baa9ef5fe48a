import WebCompat.Script.Grammar.Group

/-!
# Arrays and objects

Arrays and objects are read in such a way that they may still turn out to be
destructuring targets.  Elements and entries may be left out, so that several
commas may follow each other.
-/

namespace WebCompat
namespace Script
namespace Grammar

open Reader

variable (g : Grammar)

def spread : Reader Tree :=
  node .spread do
    exactly "..."
    return [← g.read (.expression .enclosed)]

def listed (item : Reader Tree) : Reader (List Tree) := do
  let first ← optional item
  let others ← many do
    symbol ","
    optional item
  return (first :: others).filterMap id

def array : Reader Tree :=
  node .array do
    exactly "["
    let elements ← listed do
      openGap
      g.spread <|> g.read (.expression .enclosed)
    openGap
    exactly "]"
    return elements

/-! # Methods -/

def methodModifiers : List (List String) :=
  if g.typed then
    [["public", "private", "protected"], ["static"], ["override"], ["readonly"], ["async"]]
  else
    [["static"], ["async"]]

def objectMethod : Reader Tree :=
  node .method do
    let decorations ← if g.typed then pure [] else g.decorators
    g.modifiers false g.methodModifiers
    g.methodMark false
    let key ← g.key
    if g.typed then
      let _ ← optional (symbol "?")
    let head ← g.signature none
    return decorations ++ key :: head ++ [← g.block]

/-! # Objects -/

def pair : Reader Tree :=
  node .pair do
    let key ← g.key
    symbol ":"
    return [key, ← g.read (.expression .enclosed)]

def shorthand : Reader Tree := do
  let name ← nameLeaf .shorthand
  match ← optional (g.initializer .enclosed) with
  | some default =>
      return .node .defaulted none name.start (← offset) [name, default]
  | none =>
      let next ← nextChar
      require (next == some ',' || next == some '}')
      return name

def entry : Reader Tree := do
  openGap
  g.spread <|> g.shorthand <|> g.pair <|> g.objectMethod

def object : Reader Tree :=
  node .object do
    exactly "\x7b"
    let entries ← listed g.entry
    openGap
    exactly "\x7d"
    return entries

def destructuring : Reader Tree := do
  let tree ← g.array <|> g.object
  require tree.isDestructuring
  return tree

def binding : Reader Tree :=
  nameLeaf .identifier <|> g.destructuring

end Grammar
end Script
end WebCompat
