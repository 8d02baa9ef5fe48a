import Std.Time.DateTime.Timestamp
import WebCompat.Program
import WebCompat.Report.Time

/-!
# Launching the program

Collects what an invocation needs to see of its surroundings, runs the program
and writes what it answers.  The process makes no connections, so that every
advice is a built-in one.
-/

namespace WebCompat
namespace Launch

def pathOf (place : List String) : String :=
  "/" ++ "/".intercalate place

def placeOf (start : List String) (steps : List Step) : List String :=
  steps.foldl (fun place step =>
    match step with
    | .root => []
    | .here => place
    | .up => place.dropLast
    | .name text => place ++ [text]) start

def addFile (files : FileSystem) (place : List String) : IO FileSystem := do
  try
    let bytes ← IO.FS.readBinFile (pathOf place)
    return files.put place (.file (String.fromUTF8? bytes))
  catch _ => return files

def addRules (files : FileSystem) (place : List String) : IO FileSystem := do
  let files ← addFile files (place ++ [".ignore"])
  let files ← addFile files (place ++ [".gitignore"])
  let files ← addFile files (place ++ [".git", "info", "exclude"])
  let top := (← IO.currentDir) / pathOf (place ++ [".git"])
  if ← top.pathExists then return files.put (place ++ [".git"]) (.directory [])
  else return files

/-- Adds a directory with all below it that is of interest to a scan. -/
partial def addTree (selection : Selection) (files : FileSystem) (place : List String) :
    IO FileSystem := do
  let mut files ← addRules files place
  files := files.put place (.directory [])
  for entry in ← ((← IO.currentDir) / pathOf place).readDir do
    let inner := place ++ [entry.fileName]
    match (← entry.path.symlinkMetadata).type with
    | .dir =>
        files ←
          if selection.isExcluded entry.fileName then
            pure (files.put inner (.directory []))
          else addTree selection files inner
    | .symlink => files := files.put inner (.link "")
    | _ =>
        files ←
          if Walk.isSelected selection entry.fileName then addFile files inner
          else pure (files.put inner (.file none))
  return files

/-- Adds what a path leads to, and the rules of the directories above. -/
def addPath (selection : Selection) (files : FileSystem) (path : String) :
    IO FileSystem := do
  let mut files := files
  let steps := Path.route path
  let place := placeOf files.workingDirectory steps
  for count in List.range (steps.length + 1) do
    let before := placeOf files.workingDirectory (steps.take count)
    if ← ((← IO.currentDir) / pathOf before).isDir then
      files := files.put before (.directory [])
  if ← ((← IO.currentDir) / pathOf place).isDir then
    for count in List.range place.length do
      files ← addRules files (place.take count)
    addTree selection files place
  else addFile files place

def addOptional (files : FileSystem) (path : Option String) : IO FileSystem :=
  match path with
  | some path => addPath .default files path
  | none => return files

def configDirectory : IO (Option String) := do
  match ← IO.getEnv "XDG_CONFIG_HOME" with
  | some directory => if Path.isAbsolute directory then return some directory
  | none => pure ()
  return (← IO.getEnv "HOME").map fun home => Path.join home ".config"

partial def readAll (stream : IO.FS.Stream) (found : ByteArray) : IO ByteArray := do
  let next ← stream.read 65536
  if next.isEmpty then return found else readAll stream (found ++ next)

def standardInput : IO StandardInput := do
  match String.fromUTF8? (← readAll (← IO.getStdin) .empty) with
  | some text => return .text text
  | none => return .unreadable

def bareSurroundings (config : Option String) : IO Surroundings := do
  let environment : Environment := {
    apiKey := ← IO.getEnv "OPENAI_API_KEY"
    dataset := ← IO.getEnv "BASELINE_SCANNER_DATASET"
    configDirectory := ← configDirectory }
  let workingDirectory := Path.names (← IO.currentDir).toString
  let empty : FileSystem := { root := .directory [], workingDirectory }
  let files := empty.put workingDirectory (.directory [])
  let seconds := (← Std.Time.Timestamp.now).toSecondsSinceUnixEpoch.val
  return {
    files := ← addOptional files (config.or (Config.defaultPath? environment))
    environment
    input := .absent
    provider := fun _ _ => .none
    timestamp := Time.ofSeconds seconds.toNat }

/-- The surroundings as far as an invocation looks at them. -/
def surroundings (invocation : Invocation) : IO Surroundings := do
  let bare ← bareSurroundings invocation.config
  match Program.config bare invocation with
  | .error _ => return bare
  | .ok config =>
      let mut files ← addOptional bare.files config.datasetPath
      match invocation.command with
      | .lookup _ => return { bare with files }
      | .scan order =>
          files ← addOptional files (bare.environment.configDirectory.map fun directory =>
            Path.join (Path.join directory "git") "ignore")
          for path in order.paths do
            if path != ScanOrder.inputPath then files ← addPath config.selection files path
          let input ← if order.readsInput then standardInput else pure .absent
          return { bare with files, input }

end Launch
end WebCompat

def main (words : List String) : IO UInt32 := do
  let ending ←
    match WebCompat.CommandLine.read (← IO.getEnv "OPENAI_API_KEY") words with
    | .error stop => pure (WebCompat.Program.Ending.ofStop stop)
    | .ok invocation => do
        let surroundings ← WebCompat.Launch.surroundings invocation
        pure (.ofResult (WebCompat.Program.run surroundings invocation))
  IO.print ending.output
  if let some complaint := ending.complaint then
    IO.eprintln complaint
  return ending.exitCode.toUInt32
