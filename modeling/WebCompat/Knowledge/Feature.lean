import WebCompat.Json.Record

/-!
# Features of the web platform

A feature record names the APIs that belong to a feature and says how far the
feature has come: whether it is part of the Baseline, since when, in which
browsers, and whether its use is discouraged.
-/

namespace WebCompat
namespace Knowledge

open Json (Value)

inductive BaselineLevel where
  | flag (reached : Bool)
  | level (name : String)
deriving DecidableEq, Repr

structure Availability where
  baseline : Option BaselineLevel
  lowDate : Option String
  /-- The first version of each browser that supports the feature. -/
  support : Dictionary String

structure Discouragement where
  accordingTo : List String
  alternatives : List String
deriving DecidableEq, Repr

structure Feature where
  name : Option String
  description : Option String
  availability : Option Availability
  apis : List String
  discouragement : Option Discouragement

namespace BaselineLevel

def ofJson? : Value → Option BaselineLevel
  | .bool reached => some (flag reached)
  | .string name => some (level name)
  | _ => none

end BaselineLevel

namespace Availability

def ofJson? (document : Value) : Option Availability := do
  let field ← document.record? ["baseline", "baseline_low_date", "support"]
  return {
    baseline := ← Value.optional? BaselineLevel.ofJson? (field "baseline")
    lowDate := ← Value.optional? Value.text? (field "baseline_low_date")
    support := ← Value.orDefault? ∅ (Value.dictionary? Value.text?) (field "support") }

def browsers (availability : Availability) : List String :=
  availability.support.entries.map fun (browser, version) => browser ++ " " ++ version

end Availability

namespace Discouragement

def ofJson? (document : Value) : Option Discouragement := do
  let field ← document.record? ["according_to", "alternatives"]
  return {
    accordingTo := ← Value.orDefault? [] (Value.list? Value.text?) (field "according_to")
    alternatives := ← Value.orDefault? [] (Value.list? Value.text?) (field "alternatives") }

end Discouragement

namespace Feature

def ofJson? (document : Value) : Option Feature := do
  let field ← document.record?
    ["name", "description", "status", "compat_features", "discouraged"]
  return {
    name := ← Value.optional? Value.text? (field "name")
    description := ← Value.optional? Value.text? (field "description")
    availability := ← Value.optional? Availability.ofJson? (field "status")
    apis := ← Value.orDefault? [] (Value.list? Value.text?) (field "compat_features")
    discouragement := ← Value.optional? Discouragement.ofJson? (field "discouraged") }

/--
Whether the feature never became part of the Baseline: nothing is known of its
availability, it is marked as not reached, or it has no date.
-/
def isProblematic (feature : Feature) : Bool :=
  match feature.availability with
  | none => true
  | some availability =>
      availability.baseline == some (.flag false) || availability.lowDate.isNone

def isDiscouraged (feature : Feature) : Bool :=
  feature.discouragement.isSome

def supportNote? (feature : Feature) : Option String :=
  match feature.availability with
  | none => none
  | some availability =>
      if availability.support.isEmpty then none
      else some ("Supported in " ++ ", ".intercalate availability.browsers)

end Feature
end Knowledge
end WebCompat
