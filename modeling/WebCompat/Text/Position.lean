import WebCompat.Text.Lines

/-!
# Positions

A place in a text is a row and a column.  The same place has a column in bytes
(UTF-8), in which trees count, and one in UTF-16 units, in which reports count.
-/

namespace WebCompat
namespace Text

def utf8Length (text : List Char) : Nat :=
  text.foldr (fun c total => c.utf8Size + total) 0

def units16 (c : Char) : Nat :=
  if c.toNat < 0x10000 then 1 else 2

def utf16Length (text : List Char) : Nat :=
  text.foldr (fun c total => units16 c + total) 0

def takeBytes? : Nat → List Char → Option (List Char)
  | 0, _ => some []
  | _ + 1, [] => none
  | count + 1, c :: rest =>
      if c.utf8Size ≤ count + 1 then
        (takeBytes? (count + 1 - c.utf8Size) rest).map (c :: ·)
      else none

/--
The column in UTF-16 units of the place that many bytes into the line.  A count
that ends inside a character or behind the line stands for itself.
-/
def utf16Column (line : List Char) (byteColumn : Nat) : Nat :=
  match takeBytes? byteColumn line with
  | some before => utf16Length before
  | none => byteColumn

structure Position where
  row : Nat
  byteColumn : Nat
deriving DecidableEq, Repr

namespace Position

def after (before : List Char) : Position where
  row := before.count '\n'
  byteColumn := utf8Length (before.reverse.takeWhile (· != '\n'))

def ofOffset (text : List Char) (offset : Nat) : Position :=
  after (text.take offset)

end Position
end Text
end WebCompat
