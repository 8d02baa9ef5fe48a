import WebCompat.Text.Position
import WebCompat.Text.Word

/-!
# Occurrences of words

A word occurs in a line where its characters stand and both of their ends are
word boundaries.  Occurrences are searched from left to right, and the next one
is searched behind the end of the one before.
-/

namespace WebCompat
namespace Text

/--
Whether a word occurs at the front of a text, where `before` is the character
in front of the text.
-/
def occursAt (word : List Char) (before : Option Char) (text : List Char) : Bool :=
  word.isPrefixOf text &&
    isBoundary before text.head? &&
    isBoundary (word.getLast?.or before) (text.drop word.length).head?

/--
The byte offsets of the occurrences of a word in a text that begins at the
given offset.  The first `skipped` characters belong to an earlier occurrence.
-/
def occurrencesFrom (word : List Char) (skipped : Nat) (before : Option Char)
    (offset : Nat) : List Char → List Nat
  | [] => if skipped = 0 ∧ occursAt word before [] then [offset] else []
  | c :: rest =>
      if 0 < skipped then
        occurrencesFrom word (skipped - 1) (some c) (offset + c.utf8Size) rest
      else if occursAt word before (c :: rest) then
        offset ::
          occurrencesFrom word (word.length - 1) (some c) (offset + c.utf8Size) rest
      else occurrencesFrom word 0 (some c) (offset + c.utf8Size) rest

def occurrences (word line : List Char) : List Nat :=
  occurrencesFrom word 0 none 0 line

end Text
end WebCompat
