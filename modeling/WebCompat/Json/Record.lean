import WebCompat.Dictionary
import WebCompat.Json.Value

/-!
# Decoding JSON documents

A record is decoded from an object, by the names of its fields, or from an
array, by their places.  An object may hold members that are no fields, but
must not repeat a field; an array may end early, but must not go on behind the
last field.
-/

namespace WebCompat
namespace Json
namespace Value

variable {α : Type}

def text? : Value → Option String
  | string text => some text
  | _ => none

def size? : Value → Option Nat
  | number literal => naturalBelow? (Nat.pow 2 64) literal
  | _ => none

def list? (decode : Value → Option α) : Value → Option (List α)
  | array items => items.mapM decode
  | _ => none

/-- The members of an object, each decoded; of members of one name the last one counts. -/
def dictionary? (decode : Value → Option α) : Value → Option (Dictionary α)
  | object members =>
      (members.mapM fun member => (decode member.2).map (member.1, ·)).map Dictionary.ofList
  | _ => none

def record? (names : List String) : Value → Option (String → Option Value)
  | object members =>
      if names.all fun name => (members.filter (·.1 == name)).length ≤ 1 then
        some fun name => members.lookup name
      else none
  | array items =>
      if items.length ≤ names.length then some fun name => (names.zip items).lookup name
      else none
  | _ => none

def required? (decode : Value → Option α) (field : Option Value) : Option α :=
  field.bind decode

def orDefault? (default : α) (decode : Value → Option α) : Option Value → Option α
  | none => some default
  | some value => decode value

/-- A field that may be missing or `null`. -/
def optional? (decode : Value → Option α) : Option Value → Option (Option α)
  | none => some none
  | some null => some none
  | some value => (decode value).map some

/-- One of several named choices, by its name or as the only member of an object, with `null`. -/
def choice? (choices : List (String × α)) : Value → Option α
  | string name => choices.lookup name
  | object [(name, null)] => choices.lookup name
  | _ => none

end Value
end Json
end WebCompat
