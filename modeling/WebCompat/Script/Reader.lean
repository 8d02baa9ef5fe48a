/-!
# Readers

A reader takes a value off the front of the text that is left, or refuses.  A
refusal leaves no trace, so that another reader may be tried at the same place.
-/

namespace WebCompat
namespace Script

/-- A place in a script: the text from there on, and how much precedes it. -/
structure Cursor where
  rest : List Char
  offset : Nat
deriving Repr

namespace Cursor

def start (text : List Char) : Cursor :=
  ⟨text, 0⟩

def advance (count : Nat) (place : Cursor) : Cursor :=
  ⟨place.rest.drop count, place.offset + count⟩

end Cursor

def Reader (α : Type) : Type :=
  Cursor → Option (α × Cursor)

namespace Reader

variable {α β : Type}

instance : Monad Reader where
  pure value := fun place => some (value, place)
  bind first next := fun place =>
    match first place with
    | none => none
    | some (value, rest) => next value rest

/-! # Choices and places -/

def refuse : Reader α :=
  fun _ => none

def orElse (first : Reader α) (second : Unit → Reader α) : Reader α :=
  fun place =>
    match first place with
    | some result => some result
    | none => second () place

instance : OrElse (Reader α) := ⟨orElse⟩

def require (condition : Bool) : Reader Unit :=
  fun place => if condition then some ((), place) else none

def offset : Reader Nat :=
  fun place => some (place.offset, place)

def remaining : Reader (List Char) :=
  fun place => some (place.rest, place)

def here : Reader Cursor :=
  fun place => some (place, place)

def goTo (place : Cursor) : Reader Unit :=
  fun _ => some ((), place)

def skip (count : Nat) : Reader Unit :=
  fun place => some ((), place.advance count)

def take (count : Nat) : Reader String :=
  fun place => some (String.ofList (place.rest.take count), place.advance count)

/-- Whether a reader accepts what comes next; nothing is taken. -/
def accepts (reader : Reader α) : Reader Bool :=
  fun place => some ((reader place).isSome, place)

def ahead (reader : Reader α) : Reader α :=
  fun place => (reader place).map fun result => (result.1, place)

def optional (reader : Reader α) : Reader (Option α) :=
  fun place =>
    match reader place with
    | some (value, rest) => some (some value, rest)
    | none => some (none, place)

/-!
# Repetition

A repetition stops where nothing is taken, so that it always comes to an end.
-/

/-- Reads as often as the reader accepts and gets further. -/
def many (reader : Reader α) : Reader (List α) :=
  fun place =>
    match reader place with
    | none => some ([], place)
    | some (value, rest) =>
        if _h : rest.rest.length < place.rest.length then
          match many reader rest with
          | some (values, last) => some (value :: values, last)
          | none => some ([value], rest)
        else
          some ([value], rest)
termination_by place => place.rest.length

/-- Lets a value grow for as long as the step accepts and gets further. -/
def grow (step : α → Reader α) (value : α) : Reader α :=
  fun place =>
    match step value place with
    | none => some (value, place)
    | some (larger, rest) =>
        if _h : rest.rest.length < place.rest.length then
          grow step larger rest
        else
          some (larger, rest)
termination_by place => place.rest.length

def separated (reader : Reader α) (separator : Reader Unit) :
    Reader (List α) := do
  let first ← reader
  let others ← many do
    separator
    reader
  return first :: others

end Reader
end Script
end WebCompat
