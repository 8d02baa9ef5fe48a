import WebCompat.Script.Grammar.TypeExpr

/-!
# Parenthesized groups

What stands between two parentheses may be an expression, the arguments of a
call or the parameters of a function.  A group is read once, and its items say
which of the three readings they allow.
-/

namespace WebCompat
namespace Script

structure GroupItem where
  trees : List Tree
  isExpression : Bool
  isArgument : Bool
  isParameter : Bool
deriving Repr

/-- What was read between two parentheses; nothing stands for an empty item. -/
structure Group where
  start : Nat
  stop : Nat
  items : List (Option GroupItem)
deriving Repr

namespace Group

def toTree (kind : Kind) (group : Group) : Tree :=
  .node kind none group.start group.stop
    ((group.items.filterMap id).flatMap GroupItem.trees)

def itemIs (condition : GroupItem → Bool) : Option GroupItem → Bool
  | some item => condition item
  | none => false

/-- Arguments may be left out. -/
def isArguments (group : Group) : Bool :=
  group.items.all fun item =>
    match item with
    | some item => item.isArgument
    | none => true

/-- A comma may follow the last parameter. -/
def isParameters (group : Group) : Bool :=
  match group.items.getLast? with
  | some none => group.items.dropLast.all (itemIs GroupItem.isParameter)
  | _ => group.items.all (itemIs GroupItem.isParameter)

/-- One expression, possibly with a type; or several, which are plain. -/
def isExpression (group : Group) : Bool :=
  match group.items with
  | [item] => itemIs GroupItem.isExpression item
  | items => items.all (itemIs fun item => item.isExpression && item.isArgument)

end Group

namespace Grammar

open Reader

variable (g : Grammar)

/-! # Decorators -/

def decoration : Reader Tree := do
  let first ← nameLeaf .identifier
  let target := Dotted.memberChain first (← dottedTail)
  let generic ← if g.typed then g.typeArguments? else pure []
  if ← sees "(" then
    extend .call (target.withField .callee) (return generic ++ [← g.read .arguments])
  else
    return target

def decorator : Reader Tree :=
  node .decorator do
    exactly "@"
    let grouped := node .parenthesized do
      require g.typed
      exactly "("
      let inner ← g.decoration
      symbol ")"
      return [inner]
    return [← g.decoration <|> grouped]

def decorators : Reader (List Tree) :=
  many g.decorator

/-! # Items -/

def initializer (context : Context) : Reader Tree := do
  symbolBefore "=" ['=', '>']
  g.expression context

def initializer? (context : Context) : Reader (List Tree) := do
  return (← optional (g.initializer context)).toList

def optionalMark : Reader Unit := do
  symbol "?"
  match ((← remaining).dropWhile Lexeme.isPlainBlank).head? with
  | some c => require (c == ':' || c == ')' || c == ',')
  | none => refuse

def parameterModifier? (words : List String) : Reader Unit := do
  let _ ← optional do
    require (words.contains (← name))
    require (!(["in", "instanceof", "as", "satisfies"].contains (← nextName)))
    match ← nextChar with
    | some c => require (Lexeme.isNameChar c || c == '\\' || c == '{')
    | none => refuse
  return ()

def parameterModifiers : Reader Unit := do
  parameterModifier? accessWords
  parameterModifier? ["override"]
  parameterModifier? ["readonly"]

def spreadItem : Reader GroupItem := do
  let tree ← node .spread do
    exactly "..."
    return [← g.read (.expression .enclosed)]
  let type ← g.annotation? none
  let default ← if type.isEmpty then pure [] else g.initializer? .enclosed
  return {
    trees := tree :: type ++ default
    isExpression := false
    isArgument := tree.isValue && type.isEmpty
    isParameter := tree.isTargetPart
  }

def parameterItem : Reader GroupItem := do
  let decorations ← g.decorators
  let before ← offset
  parameterModifiers
  require (!decorations.isEmpty || (← offset) != before)
  let tree ← g.read (.expression .enclosed)
  require tree.isTargetPart
  let _ ← optional optionalMark
  let type ← g.annotation? none
  let default ← g.initializer? .enclosed
  return {
    trees := decorations ++ tree :: type ++ default
    isExpression := false
    isArgument := false
    isParameter := true
  }

def plainItem : Reader GroupItem := do
  let isThis := (← nextName) == "this"
  let tree ← g.read (.expression .enclosed)
  if g.typed then
    let mark ← optional optionalMark
    let type ← g.annotation? none
    let bare := mark.isNone && type.isEmpty
    let default ← if bare then pure [] else g.initializer? .enclosed
    let isParameter :=
      (tree.isTargetPart && (bare || tree.kind != .assignment)) ||
        (isThis && tree.kind == .keyword)
    return {
      trees := tree :: type ++ default
      isExpression := tree.isValue && mark.isNone && default.isEmpty
      isArgument := tree.isValue && bare
      isParameter
    }
  else
    return {
      trees := [tree]
      isExpression := tree.isValue
      isArgument := tree.isValue
      isParameter := tree.isTargetPart
    }

def groupItem : Reader GroupItem := do
  openGap
  match ← remaining with
  | '.' :: '.' :: '.' :: _ => g.spreadItem
  | _ => if g.typed then g.parameterItem <|> g.plainItem else g.plainItem

def group : Reader Group := do
  gap
  let start ← offset
  exactly "("
  let first ← optional g.groupItem
  let others ← many do
    symbol ","
    optional g.groupItem
  openGap
  exactly ")"
  return { start, stop := ← offset, items := first :: others }

def parameters : Reader Tree := do
  let group ← g.group
  require group.isParameters
  return group.toTree .parameters

def arguments : Reader Tree := do
  let group ← g.group
  require group.isArguments
  return group.toTree .arguments

def parenthesized : Reader Tree := do
  let group ← g.group
  require group.isExpression
  return group.toTree .parenthesized

end Grammar
end Script
end WebCompat
