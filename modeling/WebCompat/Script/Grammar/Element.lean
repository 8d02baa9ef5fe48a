import WebCompat.Script.Grammar.Group

/-!
# Markup elements

Elements have a tag, attributes and children.  Tags at the start and at the end
need not agree; both count as uses of the names in them.
-/

namespace WebCompat
namespace Script
namespace Grammar

open Reader

variable (g : Grammar)

def tagPart (kind : Kind) : Reader Tree :=
  leaf kind do
    match Lexeme.hyphenatedLength (← remaining) with
    | 0 => let _ ← bareName; return ()
    | length => skip length

def qualifiedTag : Reader Tree :=
  node .dottedName do
    let space ← tagPart .identifier
    symbol ":"
    return [space, ← tagPart .identifier]

def tag : Reader Tree :=
  qualifiedTag <|> do
    let first ← tagPart .identifier
    return Dotted.memberChain first (← dottedTail)

def substitution : Reader Tree :=
  node .element do
    exactly "\x7b"
    let value ← optional do
      openGap
      (node .spread do
        exactly "..."
        return [← g.expression .enclosed]) <|> g.expressions .enclosed
    openGap
    exactly "\x7d"
    return value.toList

def attributeText : Reader Tree :=
  leaf .literal do
    match ← remaining with
    | quote :: rest =>
        require (quote == '"' || quote == '\'')
        match Lexeme.attributeLength? quote rest with
        | some length => skip (length + 1)
        | none => refuse
    | [] => refuse

def elementAttribute : Reader Tree := do
  gap
  let named := node .element do
    let name ← qualifiedTag <|> tagPart .propertyName
    let value ← optional do
      symbol "="
      gap
      attributeText <|> g.substitution <|> g.read .element
    return name :: value.toList
  g.substitution <|> named

def elementChild : Reader (List Tree) := do
  let text := do
    match Lexeme.markupTextLength (← remaining) with
    | 0 => refuse
    | length => skip length
    return []
  let reference := do
    gap
    match Lexeme.referenceLength? (← remaining) with
    | some length => skip length
    | none => refuse
    return []
  let nested := do
    gap
    return [← g.substitution <|> g.read .element]
  text <|> reference <|> nested

def opening : Reader (List Tree) := do
  exactly "<"
  let named ← optional do
    let name ← tag
    let generic ← if g.typed then g.typeArguments? else pure []
    let attributes ← many g.elementAttribute
    return name :: generic ++ attributes
  return named.getD []

def closing : Reader (List Tree) := do
  symbol "</"
  let name ← optional tag
  symbol ">"
  return name.toList

def element : Reader Tree :=
  node .element do
    let head ← g.opening
    let empty := do
      require !head.isEmpty
      symbol "/>"
      return head
    let filled := do
      symbol ">"
      let children ← many g.elementChild
      return head ++ children.flatten ++ (← closing)
    empty <|> filled

end Grammar
end Script
end WebCompat
