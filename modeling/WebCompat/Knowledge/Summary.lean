import WebCompat.Knowledge.Base
import WebCompat.Json.Printer

/-!
# Summaries of single APIs

What the knowledge base says about one API, whether it is known to be
problematic or not.
-/

namespace WebCompat
namespace Knowledge

open Json (Value)

structure Summary where
  api : String
  isBaseline : Bool
  status : String
  browserSupport : String
  suggestion : Option String
  description : String
deriving DecidableEq, Repr

namespace Summary

def ofDescriptor (descriptor : Descriptor) (api : String) : Summary where
  api := api
  isBaseline := false
  status := descriptor.status.name
  browserSupport :=
    if descriptor.browserSupport.isEmpty then "Limited support"
    else descriptor.browserSupport
  suggestion := if descriptor.suggestion.isEmpty then none else some descriptor.suggestion
  description := descriptor.description

def ofBaseline (api : String) : Summary where
  api := api
  isBaseline := true
  status := "stable"
  browserSupport := "Baseline supported"
  suggestion := none
  description := "This API is part of the Baseline web platform"

def toJson (summary : Summary) : Value :=
  .object [
    ("api", .string summary.api),
    ("isBaseline", .bool summary.isBaseline),
    ("status", .string summary.status),
    ("browserSupport", .string summary.browserSupport),
    ("suggestion", .option .string summary.suggestion),
    ("description", .string summary.description)]

def toText (summary : Summary) : String :=
  "api: " ++ summary.api ++ "\n" ++
  "baseline: " ++ (if summary.isBaseline then "true" else "false") ++ "\n" ++
  "status: " ++ summary.status ++ "\n" ++
  "browser_support: " ++ summary.browserSupport ++ "\n" ++
  (match summary.suggestion with
    | some suggestion => "suggestion: " ++ suggestion ++ "\n"
    | none => "") ++
  "description: " ++ summary.description ++ "\n"

end Summary
end Knowledge

namespace KnowledgeBase

def summary (base : KnowledgeBase) (api : String) : Knowledge.Summary :=
  match base.lookup api with
  | some descriptor => .ofDescriptor descriptor api
  | none => .ofBaseline api

end KnowledgeBase
end WebCompat
