import WebCompat.Json.Record

/-!
# Advice

Advice is what an issue may carry beyond its short suggestion: an alternative,
the reason for it, an example and the browsers that support it.
-/

namespace WebCompat

open Json (Value)

structure Advice where
  alternative : String
  explanation : String
  codeExample : String
  browserSupport : String
deriving DecidableEq, Repr

namespace Advice

def fieldNames : List String :=
  ["alternative", "explanation", "codeExample", "browserSupport"]

def toJson (advice : Advice) : Value :=
  .object [
    ("alternative", .string advice.alternative),
    ("explanation", .string advice.explanation),
    ("codeExample", .string advice.codeExample),
    ("browserSupport", .string advice.browserSupport)]

def ofJson? (document : Value) : Option Advice := do
  let field ← document.record? fieldNames
  return {
    alternative := ← Value.required? Value.text? (field "alternative")
    explanation := ← Value.required? Value.text? (field "explanation")
    codeExample := ← Value.required? Value.text? (field "codeExample")
    browserSupport := ← Value.required? Value.text? (field "browserSupport") }

end Advice
end WebCompat
