import WebCompat.Json.Number

/-!
# JSON documents

A document is kept as it was written: members stand in the order of the text,
also when a name is repeated, and a number keeps its literal.  What a document
means is left to the functions that decode it.
-/

namespace WebCompat
namespace Json

inductive Value where
  | null
  | bool (value : Bool)
  /-- A number, by its literal. -/
  | number (literal : String)
  | string (text : String)
  /-- A string, or an object with a name, that an escape leaves with half a character. -/
  | garbled
  | array (items : List Value)
  /-- An object, with its members in the order of the text. -/
  | object (members : List (String × Value))
deriving Repr

namespace Value

def natural (value : Nat) : Value :=
  number (toString value)

def option {α : Type} (encode : α → Value) : Option α → Value
  | none => null
  | some value => encode value

mutual

/--
Whether all of a document can be taken over as data: nothing in it is garbled,
its numbers are in range, and no container stands in more than the given number
of containers, itself included.
-/
def isSound (depth : Nat) : Value → Bool
  | null => true
  | bool _ => true
  | number literal => isInRange literal
  | string _ => true
  | garbled => false
  | array items => 0 < depth && areSound (depth - 1) items
  | object members => 0 < depth && areMembersSound (depth - 1) members

def areSound (depth : Nat) : List Value → Bool
  | [] => true
  | value :: rest => value.isSound depth && areSound depth rest

def areMembersSound (depth : Nat) : List (String × Value) → Bool
  | [] => true
  | (_, value) :: rest => value.isSound depth && areMembersSound depth rest

end

def maxNesting : Nat := 127

end Value
end Json
end WebCompat
