import WebCompat.Knowledge.Feature
import WebCompat.Knowledge.Status

/-!
# Descriptors of problematic APIs

A descriptor holds the texts that a report shows about one API.  It is derived
from the record of a feature, or written by hand.
-/

namespace WebCompat
namespace Knowledge

structure Descriptor where
  api : String
  status : Status
  description : String
  /-- What to use instead; empty if nothing is suggested. -/
  suggestion : String
  browserSupport : String
  featureId : Option String
deriving DecidableEq, Repr

namespace Descriptor

def notSupported (name : String) : String :=
  name ++ " is not Baseline-supported"

def suggestionOf : Option Discouragement → String
  | none => ""
  | some discouragement =>
      if discouragement.alternatives.isEmpty then ""
      else "Consider " ++ " or ".intercalate discouragement.alternatives ++ " instead"

def ofFeature (featureId : String) (feature : Feature) (api : String) : Descriptor where
  api := api
  status := if feature.isDiscouraged then .deprecated else .nonBaseline
  description :=
    (feature.description.or (feature.name.map notSupported)).getD (notSupported api)
  suggestion := suggestionOf feature.discouragement
  browserSupport := feature.supportNote?.getD "Limited browser support"
  featureId := some featureId

end Descriptor
end Knowledge
end WebCompat
