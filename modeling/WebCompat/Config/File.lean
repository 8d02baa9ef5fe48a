import WebCompat.Config.Basic
import WebCompat.FileSystem
import WebCompat.Toml.Reader
import WebCompat.Toml.Record

/-!
# Configuration files

A configuration file is a TOML document with a table for each group of
settings.  What it does not mention keeps its default, and so does everything
where there is no file.
-/

namespace WebCompat

open Toml (Value)

namespace ProviderSettings

def ofToml? (document : Value) : Option ProviderSettings := do
  let field ← document.record?
    ["api_key", "endpoint", "model", "timeout_secs", "max_tokens", "temperature"]
  return {
    apiKey := ← Value.orDefault? default.apiKey (fun value => value.text?.map some)
      (field "api_key")
    endpoint := ← Value.orDefault? default.endpoint Value.text? (field "endpoint")
    model := ← Value.orDefault? default.model Value.text? (field "model")
    timeoutSeconds := ← Value.orDefault? default.timeoutSeconds (Value.natural? (Nat.pow 2 64))
      (field "timeout_secs")
    maxTokens := ← Value.orDefault? default.maxTokens (Value.natural? (Nat.pow 2 32))
      (field "max_tokens")
    temperature := ← Value.orDefault? default.temperature Value.single?
      (field "temperature") }

end ProviderSettings

namespace Selection

def ofToml? (document : Value) : Option Selection := do
  let field ← document.record? ["extensions", "exclude_dirs"]
  return {
    extensions := ← Value.orDefault? default.extensions (Value.list? Value.text?)
      (field "extensions")
    excludedDirectories := ← Value.orDefault? default.excludedDirectories
      (Value.list? Value.text?) (field "exclude_dirs") }

end Selection

namespace Config

def datasetPathOfToml? (document : Value) : Option (Option String) := do
  let field ← document.record? ["dataset_path"]
  Value.orDefault? none (fun value => value.text?.map some) (field "dataset_path")

def logLevelOfToml? (document : Value) : Option String := do
  let field ← document.record? ["level"]
  Value.orDefault? default.logLevel Value.text? (field "level")

def ofToml? (document : Toml.Entries) : Option Config := do
  let part (name : String) := document.lookup name
  return {
    datasetPath := ← Value.orDefault? default.datasetPath datasetPathOfToml?
      (part "knowledge_base")
    provider := ← Value.orDefault? default.provider ProviderSettings.ofToml?
      (part "suggestions")
    selection := ← Value.orDefault? default.selection Selection.ofToml? (part "scan")
    logLevel := ← Value.orDefault? default.logLevel logLevelOfToml? (part "logging") }

def ofText? (text : String) : Option Config :=
  (Toml.read? text).bind ofToml?

/-- The settings that a file makes; those of a missing file are the defaults. -/
def ofFile (files : FileSystem) (path : String) : Except Failure Config :=
  if files.contains path then do
    match ofText? (← files.read path) with
    | some config => return config
    | none => throw (.malformedConfig path)
  else return default

def defaultPath? (environment : Environment) : Option String :=
  environment.configDirectory.map fun directory =>
    Path.join (Path.join directory "baseline-scanner") "config.toml"

def load (files : FileSystem) (environment : Environment) (path : Option String) :
    Except Failure Config := do
  match path.or (defaultPath? environment) with
  | some path => return (← ofFile files path).withEnvironment environment
  | none => return default.withEnvironment environment

end Config
end WebCompat
