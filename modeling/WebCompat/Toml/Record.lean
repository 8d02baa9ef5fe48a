import WebCompat.Toml.Value

/-!
# Decoding TOML values

A record is decoded from a table, by the names of its fields, or from an array,
by their places.  Other keys, and items behind the last field, are passed over.
-/

namespace WebCompat
namespace Toml
namespace Value

variable {α : Type}

def text? : Value → Option String
  | string text => some text
  | _ => none

def list? (decode : Value → Option α) : Value → Option (List α)
  | array items => items.mapM decode
  | _ => none

def natural? (bound : Nat) : Value → Option Nat
  | integer value => if 0 ≤ value ∧ value < bound then some value.toNat else none
  | _ => none

def single? : Value → Option Number.Floating
  | integer value => some (.ofInt .single value)
  | float value => some (value.roundTo .single)
  | _ => none

def record? (names : List String) : Value → Option (String → Option Value)
  | table _ entries => some fun name => entries.lookup name
  | array items => some fun name => (names.zip items).lookup name
  | tables items => some fun name => (names.zip (items.map (table .header))).lookup name
  | moment => some fun _ => none
  | _ => none

def orDefault? (default : α) (decode : Value → Option α) : Option Value → Option α
  | none => some default
  | some value => decode value

end Value
end Toml
end WebCompat
