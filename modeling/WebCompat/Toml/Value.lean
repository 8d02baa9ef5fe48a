import WebCompat.Number.Binary

/-!
# TOML documents

A document is a table of values.  Each table remembers how it came about, since
that decides whether later lines may add to it.
-/

namespace WebCompat
namespace Toml

inductive Origin where
  | header
  /-- By the header of a table inside it. -/
  | implied
  | dotted
  | inline
deriving DecidableEq, Repr

inductive Value where
  | string (text : String)
  | integer (value : Int)
  | float (value : Number.Floating)
  | bool (value : Bool)
  /-- A date, a time or both; nothing asks which. -/
  | moment
  | array (items : List Value)
  | table (origin : Origin) (entries : List (String × Value))
  /-- The tables that headers in double brackets add up. -/
  | tables (items : List (List (String × Value)))
deriving Repr

abbrev Entries : Type :=
  List (String × Value)

end Toml
end WebCompat
