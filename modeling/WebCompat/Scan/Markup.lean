import WebCompat.Text.Lines

/-!
# Scripts in markup

A markup document holds scripts between an opening tag `<script ...>` and the
first closing tag `</script>` behind it.  The letters of the tags may be of
either case; the long s counts as an s.
-/

namespace WebCompat
namespace Markup

/-- Whether a character is the given lower-case letter in either case. -/
def isLetter (letter c : Char) : Bool :=
  c.toLower == letter || (letter == 's' && c == Char.ofNat 0x17F)

def afterWord? : List Char → List Char → Option (List Char)
  | [], text => some text
  | _ :: _, [] => none
  | letter :: word, c :: text =>
      if isLetter letter c then afterWord? word text else none

def openingWord : List Char :=
  ['<', 's', 'c', 'r', 'i', 'p', 't']

def closingWord : List Char :=
  ['<', '/', 's', 'c', 'r', 'i', 'p', 't', '>']

def afterTag? : List Char → Option (List Char)
  | [] => none
  | c :: rest => if c = '>' then some rest else afterTag? rest

/-- The text up to the first closing tag, and the text behind that tag. -/
def untilClosing? : List Char → Option (List Char × List Char)
  | [] => none
  | c :: rest =>
      match afterWord? closingWord (c :: rest) with
      | some behind => some ([], behind)
      | none => (untilClosing? rest).map fun (content, behind) => (c :: content, behind)

def scriptAt? (text : List Char) : Option (List Char × List Char) := do
  let tag ← afterWord? openingWord text
  let inside ← afterTag? tag
  untilClosing? inside

structure Block where
  newlines : Nat
  content : List Char
deriving DecidableEq, Repr

/--
The scripts of a text behind `newlines` newlines.  The first `skipped`
characters belong to an earlier script.
-/
def blocksFrom (newlines skipped : Nat) : List Char → List Block
  | [] => []
  | c :: rest =>
      let passed := if c = '\n' then newlines + 1 else newlines
      if 0 < skipped then blocksFrom passed (skipped - 1) rest
      else
        match scriptAt? (c :: rest) with
        | some (content, behind) =>
            ⟨newlines, content⟩ :: blocksFrom passed (rest.length - behind.length) rest
        | none => blocksFrom passed 0 rest

def blocks (document : List Char) : List Block :=
  blocksFrom 0 0 document

end Markup
end WebCompat
