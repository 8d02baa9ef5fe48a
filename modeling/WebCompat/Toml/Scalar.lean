import WebCompat.Json.Number
import WebCompat.Json.Reader
import WebCompat.Toml.Value

/-!
# Strings, numbers and dates

A reader takes one value off the front of a text.  Strings are written between
single or double quotes, and between three of them over several lines; numbers
may have underscores between their digits.
-/

namespace WebCompat
namespace Toml

open Json (Reader ofDigits hexDigit?)

def isBlank (c : Char) : Bool :=
  c == ' ' || c == '\t'

def skipBlanks (text : List Char) : List Char :=
  text.dropWhile isBlank

def afterNewline? : List Char → Option (List Char)
  | '\n' :: rest => some rest
  | '\r' :: '\n' :: rest => some rest
  | _ => none

def isPlain (c : Char) : Bool :=
  c == '\t' || (0x20 ≤ c.toNat && c.toNat != 0x7F)

def skipComment : List Char → List Char
  | '#' :: rest => rest.dropWhile isPlain
  | text => text

def after? (sought text : List Char) : Option (List Char) :=
  if sought.isPrefixOf text then some (text.drop sought.length) else none

/-! ## Strings -/

def charOf? (code : Nat) : Option Char :=
  if code.isValidChar then some (Char.ofNat code) else none

def ofHex? (digits : List Char) : Option Nat :=
  digits.foldlM (fun value digit => (hexDigit? digit).map (16 * value + ·)) 0

def escape? : Reader Char
  | 'b' :: rest => some ('\x08', rest)
  | 't' :: rest => some ('\t', rest)
  | 'n' :: rest => some ('\n', rest)
  | 'f' :: rest => some ('\x0c', rest)
  | 'r' :: rest => some ('\r', rest)
  | '"' :: rest => some ('"', rest)
  | '\\' :: rest => some ('\\', rest)
  | 'u' :: rest => do
      guard (4 ≤ rest.length)
      return (← charOf? (← ofHex? (rest.take 4)), rest.drop 4)
  | 'U' :: rest => do
      guard (8 ≤ rest.length)
      return (← charOf? (← ofHex? (rest.take 8)), rest.drop 8)
  | _ => none

def basicTail : Nat → Reader (List Char)
  | 0, _ => none
  | _, [] => none
  | size + 1, c :: rest =>
      if c = '"' then some ([], rest)
      else if c = '\\' then do
        let (c, rest) ← escape? rest
        let (others, rest) ← basicTail size rest
        return (c :: others, rest)
      else if isPlain c then
        (basicTail size rest).map fun (others, rest) => (c :: others, rest)
      else none

def literalTail : Reader (List Char)
  | [] => none
  | c :: rest =>
      if c = '\'' then some ([], rest)
      else if isPlain c then
        (literalTail rest).map fun (others, rest) => (c :: others, rest)
      else none

def skipLines (text : List Char) : List Char :=
  text.dropWhile fun c => isBlank c || c == '\n' || c == '\r'

/--
The quotes at the front of a text that belong to the content of a string, and
the text behind them; `none` for the text if the string goes on.
-/
def closing (quote : Char) (text : List Char) : List Char × Option (List Char) :=
  let count := (text.takeWhile (· == quote)).length
  if count < 3 then (List.replicate count quote, none)
  else
    let kept := min (count - 3) 2
    (List.replicate kept quote, some (text.drop (kept + 3)))

def multilineTail (quote : Char) (hasEscapes : Bool) : Nat → Reader (List Char)
  | 0, _ => none
  | _, [] => none
  | size + 1, c :: rest =>
      if c = quote then
        match closing quote (c :: rest) with
        | (kept, some rest) => some (kept, rest)
        | (kept, none) =>
            (multilineTail quote hasEscapes size ((c :: rest).drop kept.length)).map
              fun (others, rest) => (kept ++ others, rest)
      else if hasEscapes && c == '\\' then
        match afterNewline? (skipBlanks rest) with
        | some rest => multilineTail quote hasEscapes size (skipLines rest)
        | none => do
            let (c, rest) ← escape? rest
            let (others, rest) ← multilineTail quote hasEscapes size rest
            return (c :: others, rest)
      else
        match afterNewline? (c :: rest) with
        | some rest =>
            (multilineTail quote hasEscapes size rest).map fun (others, rest) =>
              ('\n' :: others, rest)
        | none =>
            if isPlain c then
              (multilineTail quote hasEscapes size rest).map fun (others, rest) =>
                (c :: others, rest)
            else none

def dropNewline (text : List Char) : List Char :=
  (afterNewline? text).getD text

def lineString : Reader String
  | '"' :: rest =>
      (basicTail (rest.length + 1) rest).map fun (text, rest) => (String.ofList text, rest)
  | '\'' :: rest => (literalTail rest).map fun (text, rest) => (String.ofList text, rest)
  | _ => none

def string : Reader String
  | '"' :: '"' :: '"' :: rest =>
      (multilineTail '"' true (rest.length + 1) (dropNewline rest)).map
        fun (text, rest) => (String.ofList text, rest)
  | '\'' :: '\'' :: '\'' :: rest =>
      (multilineTail '\'' false (rest.length + 1) (dropNewline rest)).map
        fun (text, rest) => (String.ofList text, rest)
  | text => lineString text

/-! ## Numbers -/

/-- The digits behind the first one, each with at most one underscore before it. -/
def moreDigits (isDigit : Char → Bool) : List Char → List Char × List Char
  | '_' :: c :: rest =>
      if isDigit c then
        let (others, left) := moreDigits isDigit rest
        (c :: others, left)
      else ([], '_' :: c :: rest)
  | c :: rest =>
      if isDigit c then
        let (others, left) := moreDigits isDigit rest
        (c :: others, left)
      else ([], c :: rest)
  | [] => ([], [])

def digits (isDigit : Char → Bool) : Reader (List Char)
  | [] => none
  | c :: rest =>
      if isDigit c then
        let (others, left) := moreDigits isDigit rest
        some (c :: others, left)
      else none

def sign : List Char → Bool × List Char
  | '-' :: rest => (true, rest)
  | '+' :: rest => (false, rest)
  | text => (false, text)

def wholeDigits : Reader (List Char)
  | '0' :: rest => some (['0'], rest)
  | text => digits Char.isDigit text

def int64? (negative : Bool) (magnitude : Nat) : Option Value :=
  let value : Int := if negative then -magnitude else magnitude
  if -(Nat.pow 2 63 : Int) ≤ value ∧ value < (Nat.pow 2 63 : Int) then some (.integer value)
  else none

def base? : Char → Option (Nat × (Char → Bool))
  | 'x' => some (16, fun c => (hexDigit? c).isSome)
  | 'o' => some (8, fun c => '0' ≤ c ∧ c ≤ '7')
  | 'b' => some (2, fun c => c == '0' || c == '1')
  | _ => none

def basedInteger : Reader Value
  | '0' :: letter :: rest => do
      let (base, isDigit) ← base? letter
      let (found, rest) ← digits isDigit rest
      let magnitude := found.foldl (fun value c => base * value + (hexDigit? c).getD 0) 0
      return (← int64? false magnitude, rest)
  | _ => none

def decimalInteger : Reader Value := fun text => do
  let (negative, text) := sign text
  let (found, rest) ← wholeDigits text
  return (← int64? negative (ofDigits found), rest)

def fraction : Reader (Option (List Char))
  | '.' :: rest => (digits Char.isDigit rest).map fun (found, rest) => (some found, rest)
  | text => some (none, text)

def exponent : Reader (Option Int)
  | [] => some (none, [])
  | c :: rest =>
      if c = 'e' ∨ c = 'E' then do
        let (negative, rest) := sign rest
        let (found, rest) ← digits Char.isDigit rest
        let value : Int := ofDigits found
        return (some (if negative then -value else value), rest)
      else some (none, c :: rest)

/-- A floating-point number in digits; one above the range is refused. -/
def floatDigits : Reader Value := fun text => do
  let (negative, text) := sign text
  let (whole, rest) ← wholeDigits text
  let (places, rest) ← fraction rest
  let (power, rest) ← exponent rest
  guard (places.isSome || power.isSome)
  let places := places.getD []
  let magnitude :=
    Number.Format.double.roundDecimal (ofDigits (whole ++ places))
      (power.getD 0 - places.length)
  guard (negative || magnitude != .infinite)
  return (.float (.signed negative magnitude), rest)

def floatWord : Reader Value := fun text =>
  let (negative, text) := sign text
  match text with
  | 'i' :: 'n' :: 'f' :: rest => some (.float (.signed negative .infinite), rest)
  | 'n' :: 'a' :: 'n' :: rest => some (.float .undefined, rest)
  | _ => none

/-! ## Dates and times -/

def fixedDigits (count least most : Nat) : Reader Nat := fun text => do
  let found := text.take count
  guard (found.length = count ∧ found.all Char.isDigit)
  let value := ofDigits found
  guard (least ≤ value ∧ value ≤ most)
  return (value, text.drop count)

def daysIn (year month : Nat) : Nat :=
  if month = 2 then
    if year % 4 = 0 ∧ (year % 100 ≠ 0 ∨ year % 400 = 0) then 29 else 28
  else if [4, 6, 9, 11].contains month then 30
  else 31

def date : Reader Unit := fun text => do
  let (year, rest) ← fixedDigits 4 0 9999 text
  let rest ← after? ['-'] rest
  let (month, rest) ← fixedDigits 2 1 12 rest
  let rest ← after? ['-'] rest
  let (_, rest) ← fixedDigits 2 1 (daysIn year month) rest
  return ((), rest)

def time : Reader Unit := fun text => do
  let (_, rest) ← fixedDigits 2 0 23 text
  let rest ← after? [':'] rest
  let (_, rest) ← fixedDigits 2 0 59 rest
  let rest ← after? [':'] rest
  let (_, rest) ← fixedDigits 2 0 60 rest
  match rest with
  | '.' :: places =>
      guard (places.head?.any Char.isDigit)
      return ((), places.dropWhile Char.isDigit)
  | _ => return ((), rest)

def zone (text : List Char) : Option (List Char) :=
  match text with
  | [] => some []
  | c :: rest =>
      if c = 'Z' ∨ c = 'z' then some rest
      else if c = '+' ∨ c = '-' then do
        let (_, rest) ← fixedDigits 2 0 23 rest
        let rest ← after? [':'] rest
        let (_, rest) ← fixedDigits 2 0 59 rest
        return rest
      else some text

def moment : Reader Value := fun text =>
  match date text with
  | none => (time text).map fun (_, rest) => (.moment, rest)
  | some (_, rest) =>
      match rest with
      | [] => some (.moment, rest)
      | c :: later =>
          if c = 'T' ∨ c = 't' ∨ c = ' ' then
            match time later with
            | some (_, rest) => (zone rest).map fun rest => (.moment, rest)
            | none => if c = ' ' then some (.moment, rest) else none
          else some (.moment, rest)

/-! ## All scalars -/

def firstOf {α : Type} (readers : List (Reader α)) : Reader α := fun text =>
  readers.findSome? fun read => read text

def boolean : Reader Value
  | 't' :: 'r' :: 'u' :: 'e' :: rest => some (.bool true, rest)
  | 'f' :: 'a' :: 'l' :: 's' :: 'e' :: rest => some (.bool false, rest)
  | _ => none

def scalar : Reader Value :=
  firstOf [
    fun text => (string text).map fun (text, rest) => (.string text, rest),
    boolean, moment, floatDigits, floatWord, basedInteger, decimalInteger]

end Toml
end WebCompat
