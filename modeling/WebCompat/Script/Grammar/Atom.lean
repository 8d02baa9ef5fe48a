import WebCompat.Script.Grammar.Rule

/-!
# Atoms

The parts of a script that hold no other parts: names and literals.  Templates
and the keys of objects and classes stand here too, although they may hold
expressions.
-/

namespace WebCompat
namespace Script

namespace Reader

def nameLeaf (kind : Kind) : Reader Tree :=
  leaf kind bareName

def wordLeaf (kind : Kind) (text : String) : Reader Tree :=
  leaf kind (word text)

def stringLiteral : Reader Tree :=
  leaf .literal do
    match ← remaining with
    | quote :: rest =>
        require (quote == '"' || quote == '\'')
        match Lexeme.stringLength? quote rest with
        | some length => skip (length + 1)
        | none => refuse
    | [] => refuse

def numberLiteral : Reader Tree :=
  leaf .literal do
    match Lexeme.numberLength (← remaining) with
    | 0 => refuse
    | length => skip length

def patternLiteral : Reader Tree :=
  leaf .literal do
    exactly "/"
    match Lexeme.patternLength? (← remaining) with
    | some (length + 1) =>
        skip (length + 2)
        skip (Lexeme.flagsLength (← remaining))
    | _ => refuse

def privateName : Reader Tree :=
  leaf .propertyName do
    exactly "#"
    bareName

/-- A name behind a point: any word, or a private name. -/
def memberName : Reader Tree :=
  nameLeaf .propertyName <|> privateName

def startsKey (c : Char) : Bool :=
  Lexeme.isNameChar c || c == '\\' || c == '"' || c == '\'' || c == '[' || c == '#' ||
    c == '*' || c == '.'

end Reader

namespace Grammar

open Reader

variable (g : Grammar)

def template : Reader Tree :=
  node .template do
    exactly "\x60"
    let substitutions ← many do
      match Lexeme.templateLength? (← remaining) with
      | some length => skip length
      | none => refuse
      exactly "$\x7b"
      let value ← g.expressions .enclosed
      symbol "\x7d"
      return value
    match Lexeme.templateLength? (← remaining) with
    | some length => skip length
    | none => refuse
    exactly "\x60"
    return substitutions

def computedKey : Reader Tree :=
  node .propertyName do
    exactly "["
    let value ← g.expression .enclosed
    symbol "]"
    return [value]

def key : Reader Tree := do
  gap
  memberName <|> stringLiteral <|> numberLiteral <|> g.computedKey

def index : Reader Tree := do
  symbol "["
  let value ← g.expressions .enclosed
  symbol "]"
  return value

end Grammar
end Script
end WebCompat
