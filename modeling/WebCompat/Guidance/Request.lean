import WebCompat.Json.Printer
import WebCompat.Guidance.Settings

/-!
# Requests to the provider

A request asks the provider for a suggestion about one use of an API.  The path
of the API and the line of the source go into the question as they are.
-/

namespace WebCompat
namespace Request

open Json (Value)

def systemPrompt : String :=
  "You are a helpful web development assistant focused on modern web standards " ++
  "and browser compatibility. Always respond with valid JSON."

def prompt (api context : String) : String :=
  "You are a web development expert specializing in browser compatibility " ++
  "and modern web standards.\n\n" ++
  "API: " ++ api ++ "\n" ++
  "Code Context: " ++ context ++ "\n\n" ++
  "This API is either deprecated or not part of the Baseline web platform. " ++
  "Please provide a JSON response with:\n" ++
  "1. \"alternative\": A modern, Baseline-supported alternative\n" ++
  "2. \"explanation\": Brief explanation of why the original API should be avoided\n" ++
  "3. \"codeExample\": A practical code example showing the replacement\n" ++
  "4. \"browserSupport\": Browser support information for the suggested alternative\n\n" ++
  "Keep the response concise and practical for developers. Format as valid JSON."

def message (role content : String) : Value :=
  .object [("role", .string role), ("content", .string content)]

def document (settings : ProviderSettings) (api context : String) : Value :=
  .object [
    ("model", .string settings.model),
    ("messages", .array [
      message "system" systemPrompt,
      message "user" (prompt api context)]),
    ("max_tokens", .natural settings.maxTokens),
    ("temperature", .number settings.temperature.literal)]

end Request
end WebCompat
