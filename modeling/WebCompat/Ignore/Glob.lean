/-!
# Globs

A glob is a pattern for paths.  It is matched byte by byte: a question mark
stands for one byte and a star for any number of them, but neither for a slash.
Two stars between slashes stand for any number of directories.
-/

namespace WebCompat
namespace Glob

inductive Token where
  | byte (value : UInt8)
  /-- One byte other than a slash. -/
  | any
  /-- Any number of bytes other than slashes. -/
  | star
  /-- Any directories in front of the rest. -/
  | leading
  /-- Anything inside a directory. -/
  | trailing
  /-- Any directories between the parts before and behind. -/
  | between
  /-- One byte inside, or outside, of the given ranges. -/
  | oneOf (negated : Bool) (ranges : List (UInt8 × UInt8))
  | choice (branches : List (List Token))
deriving Repr

def bytes (text : List Char) : List UInt8 :=
  (String.ofList text).toUTF8.toList

def slash : UInt8 := 47

/-! ## Matching -/

def ends : List UInt8 → List (List UInt8)
  | [] => [[]]
  | byte :: rest => (byte :: rest) :: ends rest

def endsAfterSlash : List UInt8 → List (List UInt8)
  | [] => []
  | byte :: rest => (if byte = slash then [rest] else []) ++ endsAfterSlash rest

def endsBeforeSlash : List UInt8 → List (List UInt8)
  | [] => [[]]
  | byte :: rest => (byte :: rest) :: if byte = slash then [] else endsBeforeSlash rest

def afterByte (isFit : UInt8 → Bool) : List UInt8 → List (List UInt8)
  | [] => []
  | byte :: rest => if isFit byte then [rest] else []

mutual

/-- What may be left of a text behind a token. -/
def Token.rests : Token → List UInt8 → List (List UInt8)
  | .byte value, text => afterByte (· == value) text
  | .any, text => afterByte (· != slash) text
  | .star, text => endsBeforeSlash text
  | .leading, text => text :: (afterByte (· == slash) text ++ endsAfterSlash text)
  | .trailing, text => (afterByte (· == slash) text).flatMap ends
  | .between, text =>
      (afterByte (· == slash) text).flatMap fun inner => inner :: endsAfterSlash inner
  | .oneOf negated ranges, text =>
      afterByte (fun byte =>
        (ranges.any fun range => range.1 ≤ byte && byte ≤ range.2) != negated) text
  | .choice branches, text => branchRests branches text

def rowRests : List Token → List UInt8 → List (List UInt8)
  | [], text => [text]
  | token :: row, text =>
      ((token.rests text).flatMap fun rest => rowRests row rest).eraseDups

def branchRests : List (List Token) → List UInt8 → List (List UInt8)
  | [], _ => []
  | row :: branches, text => rowRests row text ++ branchRests branches text

end

def covers (glob : List Token) (path : List UInt8) : Bool :=
  match glob with
  | [.leading] => true
  | _ => (rowRests glob path).any List.isEmpty

/-! ## Reading -/

/-- A glob in the making: what has been read of the innermost group and of those around it. -/
structure Draft where
  row : List Token
  /-- For each open group, the last branch first, the row before it and its branches. -/
  groups : List (List Token × List (List Token))

namespace Draft

def push (draft : Draft) (tokens : List Token) : Draft :=
  { draft with row := tokens.reverse ++ draft.row }

def openGroup (draft : Draft) : Draft :=
  ⟨[], (draft.row, []) :: draft.groups⟩

def nextBranch (draft : Draft) : Draft :=
  match draft.groups with
  | [] => draft
  | (before, branches) :: outer => ⟨[], (before, draft.row.reverse :: branches) :: outer⟩

/-- Closes the innermost group; empty branches do not count. -/
def closeGroup? (draft : Draft) : Option Draft :=
  match draft.groups with
  | [] => none
  | (before, branches) :: outer =>
      let rows := (draft.row.reverse :: branches).reverse.filter fun row => !row.isEmpty
      some ⟨if rows.isEmpty then before else .choice rows :: before, outer⟩

def replaceSlash (draft : Draft) (token : Token) : Draft :=
  match draft.row with
  | .leading :: row => { draft with row := .leading :: row }
  | .trailing :: row => { draft with row := .trailing :: row }
  | row => { draft with row := token :: row.drop 1 }

end Draft

abbrev CharRange : Type :=
  Char × Char

def byteRanges (range : CharRange) : List (UInt8 × UInt8) :=
  let single (byte : UInt8) := (byte, byte)
  let low := bytes [range.1]
  let high := bytes [range.2]
  if range.1 = range.2 then low.map single
  else
    low.dropLast.map single ++
      ((low.getLast?.bind fun first => high.head?.map (first, ·)).toList) ++
      (high.drop 1).map single

/--
The ranges of a class up to its closing bracket, and the text behind it.  A
bracket or a hyphen in front stands for itself.
-/
def classTail (isFirst inRange : Bool) (ranges : List CharRange) :
    List Char → Option (List CharRange × List Char)
  | [] => none
  | c :: rest =>
      if c = ']' && !isFirst then
        some (ranges.reverse ++ (if inRange then [('-', '-')] else []), rest)
      else if c = '-' && !isFirst && !inRange then classTail false true ranges rest
      else if inRange then
        match ranges with
        | [] => none
        | (low, _) :: others =>
            if c < low then none else classTail false false ((low, c) :: others) rest
      else classTail false false ((c, c) :: ranges) rest

def class? (text : List Char) : Option (Token × List Char) :=
  let negated := text.head? == some '!' || text.head? == some '^'
  (classTail true false [] (if negated then text.drop 1 else text)).map
    fun (ranges, rest) => (.oneOf negated (ranges.flatMap byteRanges), rest)

def isSeparator (c : Option Char) : Bool :=
  c == some '/'

def twoStars (draft : Draft) (before : Option Char) (rest : List Char) : Draft × List Char :=
  let inGroup := !draft.groups.isEmpty
  let next := rest.head?
  let opensBranch := inGroup && (before == some ',' || before == some '\x7b')
  let endsBranch := inGroup && (next == some ',' || next == some '\x7d')
  if draft.row.isEmpty then
    if next.isNone || isSeparator next then (draft.push [.leading], rest.drop 1)
    else (draft.push [.star, .star], rest)
  else if !isSeparator before && !opensBranch then (draft.push [.star, .star], rest)
  else if next.isNone || endsBranch then (draft.replaceSlash .trailing, rest)
  else if isSeparator next then (draft.replaceSlash .between, rest.drop 1)
  else (draft.push [.star, .star], rest)

def literal (c : Char) : List Token :=
  (bytes [c]).map .byte

/-- Reads a glob; `size` bounds its length, and `before` is the character read last. -/
def readFrom : Nat → Draft → Option Char → List Char → Option Draft
  | 0, _, _, _ => none
  | _, draft, _, [] => some draft
  | size + 1, draft, before, c :: rest =>
      match c, rest with
      | '?', rest => readFrom size (draft.push [.any]) (some '?') rest
      | '*', '*' :: rest =>
          let (next, left) := twoStars draft before rest
          readFrom size next (if left.length < rest.length then some '/' else some '*') left
      | '*', rest => readFrom size (draft.push [.star]) (some '*') rest
      | '[', rest => do
          let (token, left) ← class? rest
          readFrom size (draft.push [token]) (some ']') left
      | '\x7b', rest => readFrom size draft.openGroup (some '\x7b') rest
      | '\x7d', rest => do readFrom size (← draft.closeGroup?) (some '\x7d') rest
      | ',', rest =>
          if draft.groups.isEmpty then
            readFrom size (draft.push (literal ',')) (some ',') rest
          else readFrom size draft.nextBranch (some ',') rest
      | '\\', [] => none
      | '\\', c :: rest => readFrom size (draft.push (literal c)) (some c) rest
      | c, rest => readFrom size (draft.push (literal c)) (some c) rest

def read? (text : List Char) : Option (List Token) := do
  let draft ← readFrom (text.length + 1) ⟨[], []⟩ none text
  guard draft.groups.isEmpty
  return draft.row.reverse

end Glob
end WebCompat
