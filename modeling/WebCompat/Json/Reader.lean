import WebCompat.Json.Value

/-!
# Reading JSON documents

A reader takes a value off the front of a text and returns what is left.  The
document has to cover its text to the end, blanks apart.
-/

namespace WebCompat
namespace Json

abbrev Reader (α : Type) : Type :=
  List Char → Option (α × List Char)

def isSpace (c : Char) : Bool :=
  c == ' ' || c == '\t' || c == '\n' || c == '\r'

def skipSpace (text : List Char) : List Char :=
  text.dropWhile isSpace

/-! ## Strings -/

/-- A part of a string: a character as it is, or a UTF-16 unit from an escape. -/
inductive Piece where
  | char (c : Char)
  | unit (code : Nat)

def hexDigit? (c : Char) : Option Nat :=
  if c.isDigit then some (c.toNat - '0'.toNat)
  else if 'a' ≤ c ∧ c ≤ 'f' then some (c.toNat - 'a'.toNat + 10)
  else if 'A' ≤ c ∧ c ≤ 'F' then some (c.toNat - 'A'.toNat + 10)
  else none

def hexUnit? (a b c d : Char) : Option Nat := do
  let a ← hexDigit? a
  let b ← hexDigit? b
  let c ← hexDigit? c
  let d ← hexDigit? d
  return ((a * 16 + b) * 16 + c) * 16 + d

def escaped? : Char → Option Char
  | '"' => some '"'
  | '\\' => some '\\'
  | '/' => some '/'
  | 'b' => some '\x08'
  | 'f' => some '\x0c'
  | 'n' => some '\n'
  | 'r' => some '\r'
  | 't' => some '\t'
  | _ => none

def pieces : Reader (List Piece)
  | [] => none
  | '"' :: rest => some ([], rest)
  | '\\' :: 'u' :: a :: b :: c :: d :: rest => do
      let code ← hexUnit? a b c d
      let (others, rest) ← pieces rest
      return (.unit code :: others, rest)
  | '\\' :: letter :: rest => do
      let c ← escaped? letter
      let (others, rest) ← pieces rest
      return (.char c :: others, rest)
  | c :: rest => do
      guard (0x20 ≤ c.toNat ∧ c ≠ '\\')
      let (others, rest) ← pieces rest
      return (.char c :: others, rest)

def isHighSurrogate (code : Nat) : Bool :=
  0xD800 ≤ code && code < 0xDC00

def isLowSurrogate (code : Nat) : Bool :=
  0xDC00 ≤ code && code < 0xE000

/-- The text of a string, unless half a character is left over. -/
def assemble? : List Piece → Option (List Char)
  | [] => some []
  | .char c :: rest => (assemble? rest).map (c :: ·)
  | .unit high :: .unit low :: rest =>
      if isHighSurrogate high then
        if isLowSurrogate low then
          (assemble? rest).map
            (Char.ofNat (0x10000 + (high - 0xD800) * 0x400 + (low - 0xDC00)) :: ·)
        else none
      else if isLowSurrogate high then none
      else (assemble? (.unit low :: rest)).map (Char.ofNat high :: ·)
  | .unit code :: rest =>
      if isHighSurrogate code || isLowSurrogate code then none
      else (assemble? rest).map (Char.ofNat code :: ·)

/-- A string behind its opening quote; no text if half a character is left over. -/
def stringTail : Reader (Option String) := fun text => do
  let (parts, rest) ← pieces text
  return ((assemble? parts).map String.ofList, rest)

/-! ## Numbers -/

def someDigits : Reader (List Char) := fun text =>
  match text.takeWhile Char.isDigit with
  | [] => none
  | digits => some (digits, text.dropWhile Char.isDigit)

def wholePart : Reader (List Char)
  | '0' :: rest => some (['0'], rest)
  | text => someDigits text

def fractionPart : Reader (List Char)
  | '.' :: rest => (someDigits rest).map fun (digits, rest) => ('.' :: digits, rest)
  | text => some ([], text)

def signPart : Reader (List Char)
  | '+' :: rest => some (['+'], rest)
  | '-' :: rest => some (['-'], rest)
  | text => some ([], text)

def exponentPart : Reader (List Char)
  | [] => some ([], [])
  | c :: rest =>
      if c = 'e' ∨ c = 'E' then do
        let (sign, rest) ← signPart rest
        let (digits, rest) ← someDigits rest
        return (c :: (sign ++ digits), rest)
      else some ([], c :: rest)

def unsignedNumber : Reader (List Char) := fun text => do
  let (whole, rest) ← wholePart text
  let (fraction, rest) ← fractionPart rest
  let (exponent, rest) ← exponentPart rest
  return (whole ++ fraction ++ exponent, rest)

def numberLiteral : Reader (List Char)
  | '-' :: rest => (unsignedNumber rest).map fun (digits, rest) => ('-' :: digits, rest)
  | text => unsignedNumber text

/-! ## Containers -/

def moreItems {α : Type} (close : Char) (read : Reader α) : Nat → Reader (List α)
  | 0, _ => none
  | count + 1, text =>
      match skipSpace text with
      | [] => none
      | c :: rest =>
          if c = close then some ([], rest)
          else if c = ',' then do
            let (first, rest) ← read rest
            let (others, rest) ← moreItems close read count rest
            return (first :: others, rest)
          else none

def items {α : Type} (close : Char) (read : Reader α) (count : Nat) : Reader (List α) :=
  fun text =>
    match skipSpace text with
    | [] => none
    | c :: rest =>
        if c = close then some ([], rest)
        else do
          let (first, rest) ← read (c :: rest)
          let (others, rest) ← moreItems close read count rest
          return (first :: others, rest)

def member (read : Reader Value) : Reader (Option String × Value) := fun text =>
  match skipSpace text with
  | '"' :: rest => do
      let (name, rest) ← stringTail rest
      match skipSpace rest with
      | ':' :: rest =>
          let (value, rest) ← read rest
          return ((name, value), rest)
      | _ => none
  | _ => none

def objectOf (members : List (Option String × Value)) : Value :=
  match members.mapM fun (name, value) => name.map (·, value) with
  | some named => .object named
  | none => .garbled

/-- A value with containers to the given depth and with at most `count` items each. -/
def value (count : Nat) : Nat → Reader Value
  | 0, _ => none
  | depth + 1, text =>
      match skipSpace text with
      | [] => none
      | '"' :: rest =>
          (stringTail rest).map fun (text, rest) =>
            (text.elim .garbled .string, rest)
      | '[' :: rest =>
          (items ']' (value count depth) count rest).map fun (found, rest) =>
            (.array found, rest)
      | '\x7b' :: rest =>
          (items '\x7d' (member (value count depth)) count rest).map fun (found, rest) =>
            (objectOf found, rest)
      | 'n' :: 'u' :: 'l' :: 'l' :: rest => some (.null, rest)
      | 't' :: 'r' :: 'u' :: 'e' :: rest => some (.bool true, rest)
      | 'f' :: 'a' :: 'l' :: 's' :: 'e' :: rest => some (.bool false, rest)
      | c :: rest =>
          (numberLiteral (c :: rest)).map fun (literal, rest) =>
            (.number (String.ofList literal), rest)

def read? (text : String) : Option Value := do
  let size := text.toList.length
  let (document, rest) ← value size (size + 1) text.toList
  guard (skipSpace rest).isEmpty
  return document

def readSound? (text : String) : Option Value :=
  (read? text).filter (·.isSound Value.maxNesting)

end Json
end WebCompat
