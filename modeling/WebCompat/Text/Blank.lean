import WebCompat.Text.Ranges

/-!
# Blanks

A blank is a character with the Unicode property White_Space.  Contexts,
credentials and replies are trimmed of blanks at both ends.
-/

namespace WebCompat
namespace Text

def blankRanges : List (Nat × Nat) := [
  (0x09, 0x0D), (0x20, 0x20), (0x85, 0x85), (0xA0, 0xA0), (0x1680, 0x1680),
  (0x2000, 0x200A), (0x2028, 0x2029), (0x202F, 0x202F), (0x205F, 0x205F),
  (0x3000, 0x3000)]

def isBlank (c : Char) : Bool :=
  inRanges blankRanges c

def isBlankText (text : String) : Bool :=
  text.toList.all isBlank

def trimEnd (text : List Char) : List Char :=
  (text.reverse.dropWhile isBlank).reverse

def trim (text : List Char) : List Char :=
  trimEnd (text.dropWhile isBlank)

def trimmed (text : String) : String :=
  String.ofList (trim text.toList)

end Text
end WebCompat
