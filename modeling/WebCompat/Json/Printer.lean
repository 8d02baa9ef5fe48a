import WebCompat.Json.Value

/-!
# Writing JSON documents

A document is written compactly, or laid out with one item to a line and two
blanks for each level of nesting.  Empty containers take no lines of their own.
-/

namespace WebCompat
namespace Json

def hexDigit (value : Nat) : Char :=
  if value < 10 then Char.ofNat ('0'.toNat + value) else Char.ofNat ('a'.toNat + value - 10)

def escape (c : Char) : List Char :=
  if c = '"' then ['\\', '"']
  else if c = '\\' then ['\\', '\\']
  else if c = '\n' then ['\\', 'n']
  else if c = '\r' then ['\\', 'r']
  else if c = '\t' then ['\\', 't']
  else if c = '\x08' then ['\\', 'b']
  else if c = '\x0c' then ['\\', 'f']
  else if c.toNat < 0x20 then
    ['\\', 'u', '0', '0', hexDigit (c.toNat / 16), hexDigit (c.toNat % 16)]
  else [c]

def quote (text : String) : List Char :=
  '"' :: (text.toList.flatMap escape ++ ['"'])

/-- A string with half a character. -/
def garbledText : List Char :=
  "\"\\ud800\"".toList

def joinCommas : List (List Char) → List Char :=
  [','].intercalate

namespace Value

mutual

def compactText : Value → List Char
  | null => "null".toList
  | bool value => (if value then "true" else "false").toList
  | number literal => literal.toList
  | string text => quote text
  | garbled => garbledText
  | array items => '[' :: (joinCommas (compactItems items) ++ [']'])
  | object members => '\x7b' :: (joinCommas (compactMembers members) ++ ['\x7d'])

def compactItems : List Value → List (List Char)
  | [] => []
  | value :: rest => value.compactText :: compactItems rest

def compactMembers : List (String × Value) → List (List Char)
  | [] => []
  | (name, value) :: rest => (quote name ++ ':' :: value.compactText) :: compactMembers rest

end

def lineStart (depth : Nat) : List Char :=
  '\n' :: List.replicate (2 * depth) ' '

/-- A container with its items on lines of their own, one level below `depth`. -/
def layOut (opening closing : Char) (depth : Nat) : List (List Char) → List Char
  | [] => [opening, closing]
  | items =>
      opening :: (joinCommas (items.map (lineStart (depth + 1) ++ ·)) ++
        lineStart depth ++ [closing])

mutual

def prettyText (depth : Nat) : Value → List Char
  | null => "null".toList
  | bool value => (if value then "true" else "false").toList
  | number literal => literal.toList
  | string text => quote text
  | garbled => garbledText
  | array items => layOut '[' ']' depth (prettyItems (depth + 1) items)
  | object members => layOut '\x7b' '\x7d' depth (prettyMembers (depth + 1) members)

def prettyItems (depth : Nat) : List Value → List (List Char)
  | [] => []
  | value :: rest => value.prettyText depth :: prettyItems depth rest

def prettyMembers (depth : Nat) : List (String × Value) → List (List Char)
  | [] => []
  | (name, value) :: rest =>
      (quote name ++ ':' :: ' ' :: value.prettyText depth) :: prettyMembers depth rest

end

def compact (document : Value) : String :=
  String.ofList document.compactText

def pretty (document : Value) : String :=
  String.ofList (document.prettyText 0)

end Value
end Json
end WebCompat
