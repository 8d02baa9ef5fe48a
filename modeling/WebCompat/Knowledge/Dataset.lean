import WebCompat.FileSystem
import WebCompat.Json.Reader
import WebCompat.Knowledge.Feature

/-!
# Datasets of features

A dataset is a dictionary of features by their ids.  Its document is either
such a dictionary itself, or an object that holds one under the name
`features`.  A document is read in the second way where that is possible.
-/

namespace WebCompat
namespace Knowledge

open Json (Value)

abbrev Dataset : Type :=
  Dictionary Feature

namespace Dataset

def wrapped? : Value → Option Dataset
  | .object members => do
      let field ← (Value.object members).record? ["features"]
      Value.required? (Value.dictionary? Feature.ofJson?) (field "features")
  | _ => none

/-- The features of an object that holds nothing else. -/
def bare? : Value → Option Dataset :=
  Value.dictionary? Feature.ofJson?

def ofJson? (document : Value) : Option Dataset :=
  (wrapped? document).or (bare? document)

def ofText (text : String) : Except Failure Dataset :=
  match Json.readSound? text with
  | none => .error .datasetNotJson
  | some document =>
      match ofJson? document with
      | none => .error .datasetMalformed
      | some dataset => .ok dataset

def ofFile (files : FileSystem) (path : String) : Except Failure Dataset := do
  ofText (← files.read path)

end Dataset
end Knowledge
end WebCompat
