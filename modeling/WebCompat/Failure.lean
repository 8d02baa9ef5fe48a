import WebCompat.Script.Dialect

/-!
# Failures

Everything that can go wrong, with the message that the user sees and the exit
code of the process.
-/

namespace WebCompat

inductive Failure where
  | fileNotFound (path : String)
  /-- Something exists but cannot be read as text. -/
  | unreadable
  | unknownExtension (extension : String)
  | malformedConfig (path : String)
  /-- Standard input is named more than once. -/
  | repeatedInput (count : Nat)
  | datasetNotJson
  /-- A dataset is a JSON document of another shape. -/
  | datasetMalformed
  | syntaxError (dialect : Script.Dialect)
  | providerStatus (status : Nat)
  | replyMalformed
  | replyEmpty
  | unreachable
deriving DecidableEq, Repr

namespace Failure

def exitCode : Failure → Nat
  | fileNotFound _ => 1
  | unreadable => 1
  | unknownExtension _ => 2
  | malformedConfig _ => 3
  | repeatedInput _ => 3
  | datasetNotJson => 4
  | datasetMalformed => 4
  | syntaxError _ => 4
  | providerStatus _ => 5
  | replyMalformed => 5
  | replyEmpty => 5
  | unreachable => 5

def message : Failure → String
  | fileNotFound path => "File not found: " ++ path
  | unreadable => "IO error"
  | unknownExtension extension => "Unsupported file type for extension: " ++ extension
  | malformedConfig path => "Configuration error: Failed to parse " ++ path
  | repeatedInput count =>
      "Configuration error: stdin ('-') named " ++ toString count ++
        " times; it can be read only once"
  | datasetNotJson => "Feature dataset error: Invalid feature dataset"
  | datasetMalformed =>
      "Feature dataset error: Invalid feature dataset: " ++
        "data did not match any variant of untagged enum DatasetDocument"
  | syntaxError dialect => "Syntax error in " ++ dialect.name ++ " source"
  | providerStatus status => "Suggestion provider returned HTTP " ++ toString status
  | replyMalformed => "Malformed suggestion provider response"
  | replyEmpty =>
      "Malformed suggestion provider response: response has no message content"
  | unreachable => "HTTP error"

end Failure
end WebCompat
