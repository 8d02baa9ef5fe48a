import WebCompat.Ignore.Glob
import WebCompat.Text.Blank
import WebCompat.Text.Lines

/-!
# Ignore rules

A file of ignore rules has one rule to a line.  A rule is a glob for paths
relative to the directory of the file; it says that they are ignored or, with
an exclamation mark, that they are kept.  Of several rules that cover a path
the last one decides.
-/

namespace WebCompat
namespace Ignore

inductive Verdict where
  | ignored
  | kept
deriving DecidableEq, Repr

structure Rule where
  verdict : Verdict
  onlyDirectories : Bool
  glob : List Glob.Token
deriving Repr

/-- A line without the blanks at its end, unless the last one is escaped. -/
def dropBlanks (line : List Char) : List Char :=
  if ['\\', ' '].isSuffixOf line then line else Text.trimEnd line

/-- The verdict of a rule, whether it begins at the directory of its file, and its pattern. -/
def splitMarks (line : List Char) : Verdict × Bool × List Char :=
  match line with
  | '\\' :: '!' :: rest => (.ignored, false, '!' :: rest)
  | '\\' :: '#' :: rest => (.ignored, false, '#' :: rest)
  | '!' :: '/' :: rest => (.kept, true, rest)
  | '!' :: rest => (.kept, false, rest)
  | '/' :: rest => (.ignored, true, rest)
  | rest => (.ignored, false, rest)

def splitSlash (pattern : List Char) : Bool × List Char :=
  if pattern.getLast? = some '/' then
    let shorter := pattern.dropLast
    (true, if shorter.getLast? = some '\\' then shorter.dropLast else shorter)
  else (false, pattern)

/-- The pattern for whole paths; one without slashes may stand in any directory. -/
def wholePattern (isAnchored : Bool) (pattern : List Char) : List Char :=
  let isLeading := pattern = ['*', '*'] || ['*', '*', '/'].isPrefixOf pattern
  let placed :=
    if isAnchored || pattern.contains '/' || isLeading then pattern
    else '*' :: '*' :: '/' :: pattern
  if ['/', '*', '*'].isSuffixOf placed then placed ++ ['/', '*'] else placed

namespace Rule

def ofLine? (text : List Char) : Option Rule := do
  guard (text.head? != some '#')
  let line := dropBlanks text
  guard (!line.isEmpty)
  let (verdict, isAnchored, marked) := splitMarks line
  let (onlyDirectories, pattern) := splitSlash marked
  let glob ← Glob.read? (wholePattern isAnchored pattern)
  return { verdict, onlyDirectories, glob }

def covers (rule : Rule) (path : List UInt8) (isDirectory : Bool) : Bool :=
  (!rule.onlyDirectories || isDirectory) && Glob.covers rule.glob path

end Rule

def rulesOf (text : String) : List Rule :=
  let characters := text.toList
  let clean := if characters.head? = some (Char.ofNat 0xFEFF) then characters.drop 1 else characters
  (Text.endedLines clean).filterMap Rule.ofLine?

def verdict? (rules : List Rule) (names : List String) (isDirectory : Bool) : Option Verdict :=
  let path := ("/".intercalate names).toUTF8.toList
  (rules.reverse.find? fun rule => rule.covers path isDirectory).map Rule.verdict

end Ignore
end WebCompat
