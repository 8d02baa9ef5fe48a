import WebCompat.Toml.Scalar
import WebCompat.Toml.Table

/-!
# Reading TOML documents

A document is read line by line: a line holds a header, a key with its value,
or nothing, and perhaps a comment.
-/

namespace WebCompat
namespace Toml

open Json (Reader)

/-! ## Keys -/

def isBare (c : Char) : Bool :=
  c.isAlphanum || c == '_' || c == '-'

def simpleKey : Reader String := fun text =>
  match text.takeWhile isBare with
  | [] => lineString text
  | name => some (String.ofList name, text.dropWhile isBare)

def moreKeys : Nat → Reader (List String)
  | 0, _ => none
  | count + 1, text =>
      match skipBlanks text with
      | '.' :: rest => do
          let (key, rest) ← simpleKey (skipBlanks rest)
          let (others, rest) ← moreKeys count rest
          return (key :: others, rest)
      | rest => some ([], rest)

/-- The most keys in a row, and the most containers one inside the other. -/
def maxDepth : Nat := 80

def key : Reader (List String) := fun text => do
  let (first, rest) ← simpleKey (skipBlanks text)
  let (others, rest) ← moreKeys maxDepth rest
  return (first :: others, rest)

/-! ## Values -/

def skipFiller : Nat → List Char → List Char
  | 0, text => text
  | size + 1, text =>
      let rest := skipComment (skipBlanks text)
      match afterNewline? rest with
      | some later => skipFiller size later
      | none => rest

def arrayItems (read : Reader Value) : Nat → Reader (List Value)
  | 0, _ => none
  | size + 1, text =>
      match skipFiller text.length text with
      | ']' :: rest => some ([], rest)
      | text => do
          let (first, rest) ← read text
          match skipFiller rest.length rest with
          | ',' :: rest =>
              let (others, rest) ← arrayItems read size rest
              return (first :: others, rest)
          | ']' :: rest => return ([first], rest)
          | _ => none

def pair (read : Reader Value) : Reader (List String × Value) := fun text => do
  let (path, rest) ← key text
  match skipBlanks rest with
  | '=' :: rest =>
      let (value, rest) ← read (skipBlanks rest)
      return ((path, value), rest)
  | _ => none

def morePairs (read : Reader Value) : Nat → Reader (List (List String × Value))
  | 0, _ => none
  | size + 1, text =>
      match skipBlanks text with
      | '\x7d' :: rest => some ([], rest)
      | ',' :: rest => do
          let (first, rest) ← pair read rest
          let (others, rest) ← morePairs read size rest
          return (first :: others, rest)
      | _ => none

def inlinePairs (read : Reader Value) (size : Nat) :
    Reader (List (List String × Value)) := fun text =>
  match skipBlanks text with
  | '\x7d' :: rest => some ([], rest)
  | text => do
      let (first, rest) ← pair read text
      let (others, rest) ← morePairs read size rest
      return (first :: others, rest)

def value : Nat → Reader Value
  | 0, text => scalar text
  | depth + 1, text =>
      match text with
      | '[' :: rest =>
          (arrayItems (value depth) (rest.length + 1) rest).map fun (items, rest) =>
            (.array items, rest)
      | '\x7b' :: rest => do
          let (pairs, rest) ← inlinePairs (value depth) (rest.length + 1) rest
          return (← inlineTable? pairs, rest)
      | _ => scalar text

/-! ## Documents -/

inductive Line where
  | empty
  | header (path : List String)
  | itemHeader (path : List String)
  | pair (path : List String) (value : Value)

def line : Reader Line := fun text =>
  match skipBlanks text with
  | [] => some (.empty, [])
  | '[' :: '[' :: rest => do
      let (path, rest) ← key rest
      return (.itemHeader path, ← after? [']', ']'] (skipBlanks rest))
  | '[' :: rest => do
      let (path, rest) ← key rest
      return (.header path, ← after? [']'] (skipBlanks rest))
  | c :: rest =>
      if c = '#' ∨ c = '\n' ∨ c = '\r' then some (.empty, c :: rest)
      else
        (pair (value maxDepth) (c :: rest)).map fun ((path, value), rest) =>
          (.pair path value, rest)

def lineEnd? (text : List Char) : Option (List Char) :=
  match skipComment (skipBlanks text) with
  | [] => some []
  | rest => afterNewline? rest

/-- A document in the making: its entries, and the header of the table that is open. -/
structure Draft where
  entries : Entries
  path : List String

def Draft.add? (draft : Draft) : Line → Option Draft
  | .empty => some draft
  | .header path =>
      (openTable? path draft.entries).map fun entries => ⟨entries, path⟩
  | .itemHeader path =>
      (openItem? path draft.entries).map fun entries => ⟨entries, path⟩
  | .pair path value =>
      (descend? (assign? value path) draft.path draft.entries).map fun entries =>
        { draft with entries }

def lines : Nat → Draft → List Char → Option Draft
  | 0, _, _ => none
  | _, draft, [] => some draft
  | count + 1, draft, text => do
      let (said, rest) ← line text
      let rest ← lineEnd? rest
      lines count (← draft.add? said) rest

def dropMark : List Char → List Char
  | [] => []
  | c :: rest => if c.toNat = 0xFEFF then rest else c :: rest

def read? (text : String) : Option Entries :=
  let characters := dropMark text.toList
  (lines (characters.length + 1) ⟨[], []⟩ characters).map Draft.entries

end Toml
end WebCompat
