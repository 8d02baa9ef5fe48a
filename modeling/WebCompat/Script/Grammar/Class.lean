import WebCompat.Script.Grammar.Function

/-!
# Classes

Class declarations and class expressions share everything behind the word
`class`.
-/

namespace WebCompat
namespace Script
namespace Grammar

open Reader

variable (g : Grammar)

/-! # Members -/

/--
The words that open a member, or follow the words of access, and are never its
key there.
-/
def leadingWords : List String :=
  ["abstract", "accessor"]

def memberEnd (place : Semicolon.Place) : Reader Unit := do
  if g.typed then
    endOfStatement g.dialect place <|> symbol ","
  else
    endOfStatement g.dialect place

def methodHead (place : Semicolon.Place) : Reader (List Tree) := do
  g.methodMark true
  let key ← g.key
  require (!(← seesEnd g.dialect { valued := false }))
  if g.typed then
    let _ ← optional (symbol "?")
  let next ← nextChar
  require (next == some '(' || (g.typed && next == some '<'))
  return key :: (← g.signature (some place))

/-- A method; its body may be missing where types are written. -/
def method : Reader (List Tree) := do
  if g.typed then
    g.modifier? accessWords
    require (!leadingWords.contains (← nextName))
    g.modifiers true [["static"], ["override"], ["readonly"], ["async"]]
  else
    g.modifiers true [["static"], ["async"]]
  let place : Semicolon.Place := { valued := false, signature := true }
  let head ← g.methodHead place
  if g.typed && !(← sees "\x7b") then
    g.memberEnd place
    return head
  else
    return head ++ [← g.block]

def abstractMethod : Reader (List Tree) := do
  require g.typed
  g.modifier? accessWords
  word "abstract"
  g.modifier? ["override"]
  let place : Semicolon.Place := { valued := false }
  let head ← g.methodHead place
  g.memberEnd place
  return head

def fieldModifiers : Reader Unit := do
  if g.typed then
    let declared := do
      g.modifier true ["declare"]
      g.modifier? accessWords
    let accessed := do
      g.modifier true accessWords
      g.modifier? ["declare"]
    let _ ← optional (declared <|> accessed)
    match ← nextName with
    | "accessor" => word "accessor"
    | "abstract" =>
        word "abstract"
        g.modifier? ["readonly"]
    | "readonly" =>
        g.modifier? ["readonly"]
        g.modifier? ["abstract"]
    | _ => g.modifiers true [["static"], ["override"], ["readonly"]]
  else
    g.modifier? ["static"]

def field : Reader (List Tree) := do
  g.fieldModifiers
  let key ← g.key
  if g.typed && !(← seesEnd g.dialect { valued := false }) then
    let _ ← optional (symbol "?" <|> symbolBefore "!" ['='])
  let type ← g.annotation? (some { valued := false })
  let value ← g.initializer? .final
  g.memberEnd { valued := !value.isEmpty }
  return key :: type ++ value

def keyedMember : Reader (List Tree) := do
  let decorations ← g.decorators
  return decorations ++ (← g.method <|> g.abstractMethod <|> g.field)

def staticBlock : Reader (List Tree) := do
  word "static"
  require (!(← seesEnd g.dialect { valued := false }))
  return [← g.block]

def classMember : Reader (List Tree) := do
  openGap
  let lone := do
    exactly ";"
    return []
  let indexed := do
    require g.typed
    let place : Semicolon.Place := { valued := false }
    let signature ← g.indexSignature (some place)
    g.memberEnd place
    return signature
  let decorations := do
    require g.typed
    let decorations ← g.decorators
    require !decorations.isEmpty
    return decorations
  lone <|> g.staticBlock <|> indexed <|> g.keyedMember <|> decorations

def classBody : Reader Tree :=
  node .classBody do
    exactly "\x7b"
    let members ← many g.classMember
    openGap
    exactly "\x7d"
    return members.flatten

/-! # Heads -/

def heritage : Reader (List Tree) := do
  let base := do
    let value ← g.expression { Context.enclosed with heritage := g.typed }
    return value :: (← if g.typed then g.typeArguments? else pure [])
  let bases ← optional do
    word "extends"
    if g.typed then
      return (← separated base (symbol ",")).flatten
    else
      base
  let interfaces ← optional do
    require g.typed
    word "implements"
    separated g.innerType (symbol ",")
  return bases.getD [] ++ interfaces.getD []

def className : Reader Tree := do
  let next ← nextName
  require (next != "extends" && !(g.typed && next == "implements"))
  nameLeaf (if g.typed then .typeName else .identifier)

def classRest (isNamed : Bool) : Reader (List Tree) := do
  let name ← if isNamed then some <$> g.className else optional g.className
  let generic ← g.typeParameters?
  let bases ← g.heritage
  return name.toList ++ generic ++ bases ++ [← g.classBody]

def classExpression : Reader Tree :=
  node .classExpression do
    let decorations ← g.decorators
    word "class"
    return decorations ++ (← g.classRest false)

end Grammar
end Script
end WebCompat
