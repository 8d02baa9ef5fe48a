/-!
# Lines

Sources are cut at newlines only, so that there is always one line more than
there are newlines.  Replies and code examples are read as a list of ended
lines, where a carriage return belongs to the end of the line and the end of
the last line opens no new one.
-/

namespace WebCompat
namespace Text

def consLine (c : Char) : List (List Char) → List (List Char)
  | [] => [[c]]
  | line :: rest => (c :: line) :: rest

def lines : List Char → List (List Char)
  | [] => [[]]
  | c :: rest => if c = '\n' then [] :: lines rest else consLine c (lines rest)

def dropReturn (line : List Char) : List Char :=
  if line.getLast? = some '\r' then line.dropLast else line

def dropLineEnds : List (List Char) → List (List Char)
  | [] => []
  | [last] => if last.isEmpty then [] else [last]
  | line :: rest => dropReturn line :: dropLineEnds rest

def endedLines (text : List Char) : List (List Char) :=
  dropLineEnds (lines text)

def joinLines (lines : List (List Char)) : List Char :=
  ['\n'].intercalate lines

end Text
end WebCompat
