import WebCompat.Toml.Value

/-!
# Building tables

A header opens a table, and a key puts a value into the table that is open.
Neither may touch what has been completed before: no key has two values, no
table two headers, and nothing is added to a value from outside.
-/

namespace WebCompat
namespace Toml

def update? (key : String) (change : Option Value → Option Value) : Entries → Option Entries
  | [] => (change none).map fun value => [(key, value)]
  | (name, value) :: rest =>
      if name = key then (change (some value)).map fun value => (name, value) :: rest
      else (update? key change rest).map ((name, value) :: ·)

def updateLast? (change : Entries → Option Entries) :
    List Entries → Option (List Entries)
  | [] => none
  | [last] => (change last).map ([·])
  | first :: rest => (updateLast? change rest).map (first :: ·)

/-- Changes the table behind a row of keys as headers name it. -/
def descend? (change : Entries → Option Entries) : List String → Entries → Option Entries
  | [], entries => change entries
  | key :: path, entries =>
      update? key (fun found =>
        match found with
        | none => (descend? change path []).map (.table .implied)
        | some (.table .inline _) => none
        | some (.table origin inner) => (descend? change path inner).map (.table origin)
        | some (.tables items) => (updateLast? (descend? change path) items).map .tables
        | some _ => none) entries

def openTable? : List String → Entries → Option Entries
  | path, entries =>
      match path.getLast? with
      | none => none
      | some key =>
          descend? (update? key fun found =>
            match found with
            | none => some (.table .header [])
            | some (.table .implied inner) => some (.table .header inner)
            | some _ => none) path.dropLast entries

def openItem? : List String → Entries → Option Entries
  | path, entries =>
      match path.getLast? with
      | none => none
      | some key =>
          descend? (update? key fun found =>
            match found with
            | none => some (.tables [[]])
            | some (.tables items) => some (.tables (items ++ [[]]))
            | some _ => none) path.dropLast entries

def put? (key : String) (value : Value) : Entries → Option Entries :=
  update? key fun found =>
    match found with
    | none => some value
    | some _ => none

def assign? (value : Value) : List String → Entries → Option Entries
  | [], _ => none
  | [key], entries => put? key value entries
  | [key, last], entries =>
      update? key (fun found =>
        match found with
        | none => (put? last value []).map (.table .dotted)
        | some (.table .dotted inner) => (put? last value inner).map (.table .dotted)
        | some _ => none) entries
  | key :: path, entries =>
      update? key (fun found =>
        match found with
        | none => (assign? value path []).map (.table .dotted)
        | some (.table .dotted inner) => (assign? value path inner).map (.table .dotted)
        | some (.table .implied inner) => (assign? value path inner).map (.table .implied)
        | some (.tables items) => (updateLast? (assign? value path) items).map .tables
        | some _ => none) entries

def inlineTable? (pairs : List (List String × Value)) : Option Value :=
  (pairs.foldlM (fun entries (path, value) => assign? value path entries) []).map
    (.table .inline)

end Toml
end WebCompat
