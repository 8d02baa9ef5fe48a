import WebCompat.Script.Dialect
import WebCompat.Script.Lexeme

/-!
# Statement ends that are not written

A statement may end without a semicolon: at the end of the script, before a
closing brace, and at the end of a line, unless the next line goes on with a
character that continues the statement.

## Where the rule is asked

The rule is asked at a place where a semicolon could stand.  `Place.valued`
says that an operand has just been completed there, so that an operator could
follow as well; `Place.signature` says that a function head has just been
completed, so that its body could follow.
-/

namespace WebCompat
namespace Script
namespace Semicolon

open Lexeme

structure Place where
  valued : Bool
  /-- A function head without a body has just been completed. -/
  signature : Bool := false
deriving DecidableEq, Repr

inductive Between where
  /-- A slash that starts no comment. -/
  | slash
  | comment (rest : List Char)
  | blank (rest : List Char)
deriving Repr

/-!
# Blanks and comments in between

Whether a line has ended may depend on the comments that are passed over.
-/

def behindBlock (newline : Bool) : List Char → List Char × Bool
  | [] => ([], newline)
  | c :: rest =>
      if c.toNat == 0 then (c :: rest, newline)
      else if c == '*' && rest.head? == some '/' then (rest.drop 1, newline)
      else behindBlock (newline || isNewline c) rest

theorem length_behindBlock_le (newline : Bool) (text : List Char) :
    (behindBlock newline text).1.length ≤ text.length := by
  induction text generalizing newline with
  | nil => simp [behindBlock]
  | cons c rest ih =>
      simp only [behindBlock]
      split
      · simp
      · split
        · simp only [List.length_drop, List.length_cons]
          omega
        · exact Nat.le_succ_of_le (ih _)

def behindLine (text : List Char) : List Char :=
  text.dropWhile fun c => !(isNewline c || c.toNat == 0)

theorem length_dropWhile_le {α : Type} (p : α → Bool) (list : List α) :
    (list.dropWhile p).length ≤ list.length := by
  induction list with
  | nil => simp
  | cons a rest ih =>
      simp only [List.dropWhile_cons]
      split
      · exact Nat.le_succ_of_le ih
      · simp

/--
Passes over blanks and comments.  Unless `through` is set, the walk stops behind
the first block comment that no comment follows immediately.
-/
def between (through : Bool) (newline : Bool) (text : List Char) : Between :=
  match _front : text.dropWhile isPlainBlank with
  | '/' :: '/' :: rest =>
      between through newline (behindLine rest)
  | '/' :: '*' :: rest =>
      let block := behindBlock newline rest
      if !through && block.1.head? != some '/' then
        if block.2 then .blank block.1 else .comment block.1
      else
        between through block.2 block.1
  | '/' :: _ => .slash
  | rest => .blank rest
termination_by text.length
decreasing_by
  · have hle := length_dropWhile_le isPlainBlank text
    have hrest := length_dropWhile_le (fun c => !(isNewline c || c.toNat == 0)) rest
    rw [_front] at hle
    simp only [List.length_cons] at hle
    unfold behindLine
    omega
  · have hle := length_dropWhile_le isPlainBlank text
    have hrest := length_behindBlock_le newline rest
    rw [_front] at hle
    simp only [List.length_cons] at hle
    omega

/-! # The line that follows -/

def startsWithRelation : List Char → Bool
  | 'i' :: 'n' :: rest =>
      match rest with
      | [] => true
      | c :: _ =>
          if !c.isAlpha then true
          else if "stanceof".toList.isPrefixOf rest then
            match (rest.drop 8).head? with
            | some d => !d.isAlpha
            | none => true
          else false
  | _ => false

/--
Whether a statement that ended on an earlier line is really over, judged by the
line that follows.
-/
def separates (dialect : Dialect) (place : Place) (line : List Char) : Bool :=
  match line with
  | [] => true
  | c :: rest =>
      let next (d : Char) : Bool := rest.head? == some d
      if ",;*%><=?^|&/:\x60".toList.contains c then false
      else if c == '.' then
        !dialect.hasTypes && (rest.head?.map Char.isDigit).getD false
      else if c == '(' || c == '[' then
        dialect.hasTypes && !place.valued
      else if c == '{' then !(dialect.hasTypes && place.signature)
      else if c == '+' then next '+'
      else if c == '-' then next '-'
      else if c == '!' then !next '='
      else !startsWithRelation line

def endsLine (dialect : Dialect) (place : Place) (text : List Char) : Bool :=
  match between true false text with
  | .slash => false
  | .comment rest => separates dialect place rest
  | .blank rest => separates dialect place rest

def isImplied (dialect : Dialect) (place : Place) (text : List Char) : Bool :=
  match text with
  | [] => true
  | c :: rest =>
      if c.toNat == 0 then true
      else if c == '/' && !dialect.hasTypes then
        match between false false (c :: rest) with
        | .slash => false
        | .comment behind => isImpliedBehind (c :: rest) behind
        | .blank behind =>
            if !place.valued && behind.head? != some ',' && behind.head? != some '=' then
              true
            else isImpliedBehind (c :: rest) behind
      else if c == '}' then
        if dialect.hasTypes && (rest.dropWhile isPlainBlank).head? == some ':' then
          place.valued
        else true
      else if c == '\n' || (isSeparator c && !dialect.hasTypes) then
        endsLine dialect place rest
      else if isPlainBlank c then isImplied dialect place rest
      else false
termination_by (text.length, 1)
where
  isImpliedBehind (text behind : List Char) : Bool :=
    match behind with
    | [] => false
    | c :: rest =>
        if c == '}' then true
        else if isNewline c then endsLine dialect place rest
        else if isPlainBlank c then
          if _h : rest.length < text.length then isImplied dialect place rest else false
        else false
  termination_by (text.length, 0)

/--
Whether the statement is over before the next lexeme.  Comments in between are
passed over one by one, and the rule is asked again behind each of them.
-/
def holds (dialect : Dialect) (place : Place) (text : List Char) : Bool :=
  if isImplied dialect place text then true
  else
    match _front : text.dropWhile isBlank with
    | [] => false
    | c :: rest =>
        match commentLength? false (c :: rest) with
        | some (n + 1) => holds dialect place (rest.drop n)
        | _ => false
termination_by text.length
decreasing_by
  have hle := length_dropWhile_le isBlank text
  rw [_front] at hle
  simp only [List.length_cons] at hle
  simp only [List.length_drop]
  omega

end Semicolon

/-! # Readers -/

namespace Reader

def seesEnd (dialect : Dialect) (place : Semicolon.Place) : Reader Bool := do
  return Semicolon.holds dialect place (← remaining)

def endOfStatement (dialect : Dialect) (place : Semicolon.Place) : Reader Unit := do
  if ← seesEnd dialect place then pure () else symbol ";"

end Reader
end Script
end WebCompat
