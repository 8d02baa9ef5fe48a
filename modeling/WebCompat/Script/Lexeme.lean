import WebCompat.Script.Reader
import WebCompat.Script.Tree

/-!
# Lexemes

The smallest pieces of a script: blanks and comments, names, numbers, strings,
regular expressions and punctuation.  Each kind has a function that says how
many characters at the front of a text belong to it; the readers at the end of
the module take that many.

## What counts as a name

A name may hold any character that is neither blank nor control character nor
punctuation, so that letters of all scripts and symbols beyond the basic plane
are allowed, as are escapes by code point.  Names are compared as written.
-/

namespace WebCompat
namespace Script
namespace Lexeme

/-! # Character classes -/

def isPlainBlank (c : Char) : Bool :=
  c == ' ' || (c.toNat ≥ 9 && c.toNat ≤ 13)

def isWideSpace (c : Char) : Bool :=
  let n := c.toNat
  n == 0xA0 || n == 0x1680 || (0x2000 ≤ n && n ≤ 0x200A) || n == 0x202F ||
    n == 0x205F || n == 0x3000

def isInvisible (c : Char) : Bool :=
  let n := c.toNat
  n == 0xFEFF || n == 0x2060 || n == 0x200B || n == 0x2028 || n == 0x2029

def isBlank (c : Char) : Bool :=
  isPlainBlank c || isWideSpace c || isInvisible c

def isSeparator (c : Char) : Bool :=
  c.toNat == 0x2028 || c.toNat == 0x2029

/-- Characters that end a line for the purpose of closing a statement. -/
def isNewline (c : Char) : Bool :=
  c == '\n' || isSeparator c

def isPunctuation (c : Char) : Bool :=
  ":;\x60\"'@#.,|^&<=>+-*/\\%?!~()[]\x7b\x7d".toList.contains c

def isNameChar (c : Char) : Bool :=
  c.toNat ≥ 0x20 && !isBlank c && !isPunctuation c

def isHexDigit (c : Char) : Bool :=
  c.isDigit || ('a' ≤ c && c ≤ 'f') || ('A' ≤ c && c ≤ 'F')

/-! # Blanks and comments -/

def closingLength? : List Char → Option Nat
  | [] => none
  | c :: rest =>
      if c == '*' && rest.head? == some '/' then some 2
      else if c.toNat == 0 then none
      else (closingLength? rest).map (· + 1)

def lineLength (text : List Char) : Nat :=
  (text.takeWhile fun c => !(c == '\n' || c == '\r' || isSeparator c || c.toNat == 0)).length

def signedLineLength (text : List Char) : Nat :=
  (text.takeWhile fun c => !(isNewline c || c.toNat == 0)).length

/--
Length of the comment at the front.  The signs that open and close a comment in
markup start a line comment where `signs` is set.
-/
def commentLength? (signs : Bool) : List Char → Option Nat
  | '/' :: '/' :: rest => some (2 + lineLength rest)
  | '/' :: '*' :: rest => (closingLength? rest).map (2 + ·)
  | '<' :: '!' :: '-' :: '-' :: rest =>
      if signs then some (4 + signedLineLength rest) else none
  | '-' :: '-' :: '>' :: rest =>
      if signs then some (3 + signedLineLength rest) else none
  | _ => none

def gapLength (signs : Bool) (text : List Char) : Nat :=
  match text with
  | [] => 0
  | c :: rest =>
      if isBlank c then gapLength signs rest + 1
      else
        match commentLength? signs (c :: rest) with
        | some (n + 1) => gapLength signs (rest.drop n) + (n + 1)
        | _ => 0
termination_by text.length
decreasing_by
  all_goals simp only [List.length_cons, List.length_drop]; omega

/-! # Names -/

def codePointLength? : List Char → Option Nat
  | '\\' :: 'u' :: '{' :: rest =>
      let digits := rest.takeWhile isHexDigit
      if digits.isEmpty then none
      else if (rest.drop digits.length).head? == some '}' then some (digits.length + 4)
      else none
  | '\\' :: 'u' :: a :: b :: c :: d :: _ =>
      if [a, b, c, d].all isHexDigit then some 6 else none
  | _ => none

def nameTailLength (text : List Char) : Nat :=
  match text with
  | [] => 0
  | c :: rest =>
      if isNameChar c then nameTailLength rest + 1
      else
        match codePointLength? (c :: rest) with
        | some (n + 1) => nameTailLength (rest.drop n) + (n + 1)
        | _ => 0
termination_by text.length
decreasing_by
  all_goals simp only [List.length_cons, List.length_drop]; omega

def nameLength : List Char → Nat
  | [] => 0
  | c :: rest => if c.isDigit then 0 else nameTailLength (c :: rest)

/-! # Numbers -/

/-- Length of digits of a kind, where a single low line may stand between two. -/
def digitsLength (isDigit : Char → Bool) : List Char → Nat
  | [] => 0
  | c :: rest =>
      if isDigit c then 1 + go rest else 0
where
  go : List Char → Nat
    | [] => 0
    | [c] => if isDigit c then 1 else 0
    | '_' :: d :: rest => if isDigit d then 2 + go rest else 0
    | c :: rest => if isDigit c then 1 + go rest else 0

def exponentLength : List Char → Nat
  | e :: rest =>
      if e == 'e' || e == 'E' then
        let signLength :=
          match rest with
          | '+' :: _ => 1
          | '-' :: _ => 1
          | _ => 0
        let digits := digitsLength Char.isDigit (rest.drop signLength)
        if digits == 0 then 0 else 1 + signLength + digits
      else 0
  | [] => 0

def basedLength : List Char → Nat
  | '0' :: mark :: rest =>
      let isDigit? : Option (Char → Bool) :=
        match mark with
        | 'x' => some isHexDigit
        | 'X' => some isHexDigit
        | 'b' => some fun c => c == '0' || c == '1'
        | 'B' => some fun c => c == '0' || c == '1'
        | 'o' => some fun c => '0' ≤ c && c ≤ '7'
        | 'O' => some fun c => '0' ≤ c && c ≤ '7'
        | _ => none
      match isDigit? with
      | none => 0
      | some isDigit =>
          match digitsLength isDigit rest with
          | 0 => 0
          | n => n + 2
  | _ => 0

/--
Length of the digits that may stand before a decimal point: a single zero, or
digits of which only the first may be a zero.
-/
def integerLength : List Char → Nat
  | '0' :: d :: rest =>
      if '1' ≤ d && d ≤ '9' then 1 + integerTail (d :: rest) else 1
  | text => integerTail text
where
  integerTail : List Char → Nat
    | [] => 0
    | c :: rest =>
        if c == '0' then 1
        else if '1' ≤ c && c ≤ '9' then 1 + followers rest
        else 0
  followers : List Char → Nat
    | '_' :: rest =>
        match digitsLength Char.isDigit rest with
        | 0 => 0
        | n => n + 1
    | rest => digitsLength Char.isDigit rest

def numberLength (text : List Char) : Nat :=
  let based := basedLength text
  let digits := digitsLength Char.isDigit text
  let whole := integerLength text
  let behind := text.drop whole
  let fraction :=
    if whole == 0 then 0
    else
      match behind with
      | '.' :: rest =>
          let decimals := digitsLength Char.isDigit rest
          whole + 1 + decimals + exponentLength (rest.drop decimals)
      | _ => 0
  let pointed :=
    match text with
    | '.' :: rest =>
        match digitsLength Char.isDigit rest with
        | 0 => 0
        | n => 1 + n + exponentLength (rest.drop n)
    | _ => 0
  let scaled := if whole == 0 then 0 else whole + exponentLength behind
  let big (length : Nat) : Nat :=
    if length == 0 then 0
    else if (text.drop length).head? == some 'n' then length + 1
    else length
  [big based, big digits, fraction, pointed, scaled].foldl max 0

/-! # Strings, templates and regular expressions -/

def escapeLength? : List Char → Option Nat
  | '\\' :: 'x' :: a :: b :: _ =>
      if isHexDigit a && isHexDigit b then some 4 else none
  | '\\' :: 'u' :: rest => codePointLength? ('\\' :: 'u' :: rest)
  | '\\' :: '\r' :: c :: _ => if isNewline c then some 3 else some 2
  | '\\' :: c :: rest =>
      let isOctal (d : Char) : Bool := '0' ≤ d && d ≤ '7'
      if isOctal c then some (1 + ((c :: rest).take 3 |>.takeWhile isOctal).length)
      else if c == 'x' || c.toNat == 0 then none
      else some 2
  | _ => none

def stringLength? (quote : Char) (text : List Char) : Option Nat :=
  match text with
  | [] => none
  | c :: rest =>
      if c == quote then some 1
      else if c == '\n' || c == '\r' || c.toNat == 0 then none
      else if c == '\\' then
        match escapeLength? (c :: rest) with
        | some (n + 1) => (stringLength? quote (rest.drop n)).map (· + (n + 1))
        | _ => none
      else (stringLength? quote rest).map (· + 1)
termination_by text.length
decreasing_by
  all_goals simp only [List.length_cons, List.length_drop]; omega

/--
Length of the characters and escapes of a template up to its end or to the next
substitution; nothing where an escape is malformed or the text ends.
-/
def templateLength? (text : List Char) : Option Nat :=
  match text with
  | [] => none
  | c :: rest =>
      if c == '\x60' then some 0
      else if c == '$' && rest.head? == some '{' then some 0
      else if c.toNat == 0 then none
      else if c == '\\' then
        match escapeLength? (c :: rest) with
        | some (n + 1) => (templateLength? (rest.drop n)).map (· + (n + 1))
        | _ => none
      else (templateLength? rest).map (· + 1)
termination_by text.length
decreasing_by
  all_goals simp only [List.length_cons, List.length_drop]; omega

def classLength? : List Char → Option Nat
  | [] => none
  | '\\' :: c :: rest =>
      if c == '\n' || c.toNat == 0 then none else (classLength? rest).map (· + 2)
  | c :: rest =>
      if c == ']' then some 1
      else if c == '\n' || c == '\\' || c.toNat == 0 then none
      else (classLength? rest).map (· + 1)

/-- Length of a regular expression behind its first slash, up to the last one. -/
def patternLength? (text : List Char) : Option Nat :=
  match text with
  | [] => none
  | c :: rest =>
      if c == '/' then some 0
      else if c == '\n' || c.toNat == 0 then none
      else if c == '\\' then
        match rest with
        | [] => none
        | d :: rest' =>
            if d == '\n' || d.toNat == 0 then none
            else (patternLength? rest').map (· + 2)
      else if c == '[' then
        match classLength? rest with
        | some n => (patternLength? (rest.drop n)).map (· + (n + 1))
        | none => none
      else (patternLength? rest).map (· + 1)
termination_by text.length
decreasing_by
  all_goals simp only [List.length_cons, List.length_drop]; omega

def flagsLength (text : List Char) : Nat :=
  (text.takeWhile fun c => 'a' ≤ c && c ≤ 'z').length

/-! # Markup text -/

def referenceLength? : List Char → Option Nat
  | '&' :: '#' :: mark :: rest =>
      if mark == 'x' || mark == 'X' then
        closed 3 6 isHexDigit rest
      else
        closed 2 5 Char.isDigit (mark :: rest)
  | '&' :: rest => closed 1 30 Char.isAlpha rest
  | _ => none
where
  closed (before most : Nat) (isDigit : Char → Bool) (text : List Char) :
      Option Nat :=
    let digits := (text.takeWhile isDigit).length
    if digits == 0 || digits > most then none
    else if (text.drop digits).head? == some ';' then some (before + digits + 1)
    else none

def endsMarkupText (c : Char) : Bool :=
  c == '<' || c == '>' || c == '{' || c == '}' || c == '&' || c.toNat == 0

/-- Whether a run of markup text has more than line ends and indentation. -/
def hasMarkupText (run : List Char) : Bool :=
  go false run
where
  go (atLineStart : Bool) : List Char → Bool
    | [] => false
    | c :: rest =>
        if c == '\n' then go true rest
        else if atLineStart && isPlainBlank c then go true rest
        else true

def markupTextLength (text : List Char) : Nat :=
  let run := text.takeWhile fun c => !endsMarkupText c
  if hasMarkupText run then run.length else 0

def attributeLength? (quote : Char) (text : List Char) : Option Nat :=
  match text with
  | [] => none
  | c :: rest =>
      if c == quote then some 1
      else if c.toNat == 0 then none
      else if c == '&' then
        match referenceLength? (c :: rest) with
        | some (n + 1) => (attributeLength? quote (rest.drop n)).map (· + (n + 1))
        | _ =>
            match rest with
            | [] => none
            | d :: rest' =>
                if d == '#' || d.isAlpha || d.toNat == 0 then none
                else (attributeLength? quote rest').map (· + 2)
      else (attributeLength? quote rest).map (· + 1)
termination_by text.length
decreasing_by
  all_goals simp only [List.length_cons, List.length_drop]; omega

def hyphenatedLength : List Char → Nat
  | [] => 0
  | c :: rest =>
      let isStart (d : Char) : Bool := d.isAlpha || d == '_' || d == '$'
      let isPart (d : Char) : Bool := d.isAlphanum || d == '_' || d == '$'
      if isStart c then
        let first := (rest.takeWhile isPart).length
        match rest.drop first with
        | '-' :: behind =>
            2 + first + (behind.takeWhile fun d => isPart d || d == '-').length
        | _ => 0
      else 0

end Lexeme

/-! # Readers of lexemes -/

namespace Reader

variable {α : Type}

def gap : Reader Unit := do
  skip (Lexeme.gapLength false (← remaining))

/--
Passes over blanks and comments where a statement or an operand starts, which
is where the comment signs of markup are comments too.
-/
def openGap : Reader Unit := do
  skip (Lexeme.gapLength true (← remaining))

def exactly (text : String) : Reader Unit := do
  if text.toList.isPrefixOf (← remaining) then skip text.length else refuse

def symbol (text : String) : Reader Unit := do
  gap
  exactly text

/-- Takes punctuation that none of the given characters may follow. -/
def symbolBefore (text : String) (excluded : List Char) : Reader Unit := do
  symbol text
  match (← remaining).head? with
  | some c => require (!excluded.contains c)
  | none => pure ()

def sees (text : String) : Reader Bool :=
  accepts (symbol text)

def bareName : Reader String := do
  match Lexeme.nameLength (← remaining) with
  | 0 => refuse
  | n => take n

def name : Reader String := do
  gap
  bareName

def word (text : String) : Reader Unit := do
  require ((← name) == text)

def nextName : Reader String := do
  return ((← optional (ahead name)).getD "")

def nextChar : Reader (Option Char) := do
  ahead do
    gap
    return (← remaining).head?

def nodeHere (kind : Kind) (reader : Reader (List Tree)) : Reader Tree := do
  let start ← offset
  let children ← reader
  return .node kind none start (← offset) children

def node (kind : Kind) (reader : Reader (List Tree)) : Reader Tree := do
  gap
  nodeHere kind reader

/-- A node that starts where its first child starts. -/
def extend (kind : Kind) (first : Tree) (others : Reader (List Tree)) :
    Reader Tree := do
  let children ← others
  return .node kind none first.start (← offset) (first :: children)

def leaf (kind : Kind) (reader : Reader α) : Reader Tree :=
  node kind do
    let _ ← reader
    return []

end Reader
end Script
end WebCompat
