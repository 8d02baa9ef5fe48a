import WebCompat.Json.Record

/-!
# Statuses of APIs

What the knowledge base holds against an API.
-/

namespace WebCompat
namespace Knowledge

inductive Status where
  | deprecated
  | nonBaseline
  | hazardous
deriving DecidableEq, Repr

namespace Status

def name : Status → String
  | deprecated => "deprecated"
  | nonBaseline => "non-baseline"
  | hazardous => "unsafe"

def all : List Status :=
  [deprecated, nonBaseline, hazardous]

def ofJson? : Json.Value → Option Status :=
  Json.Value.choice? (all.map fun status => (status.name, status))

end Status
end Knowledge
end WebCompat
