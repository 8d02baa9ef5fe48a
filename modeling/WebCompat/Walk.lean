import WebCompat.Config.Basic
import WebCompat.Ignore.Level
import WebCompat.Session

/-!
# Walking directories

A directory stands for the files below it that are worth a scan: files with a
selected extension that are neither hidden nor ignored nor in an excluded
directory.  Links are not followed.
-/

namespace WebCompat
namespace Walk

open Ignore (Chain Rule)

structure Context where
  files : FileSystem
  selection : Selection
  userRules : List Rule

structure Place where
  names : List String
  /-- The directory, as the user names it. -/
  userPath : List String
  /-- The directory, from where the walk began. -/
  relative : List String
  chain : Chain

namespace Place

def enter (context : Context) (name : String) (place : Place) : Place where
  names := place.names ++ [name]
  userPath := place.userPath ++ [name]
  relative := place.relative ++ [name]
  chain := place.chain.enter context.files place.names name

def isSkipped (context : Context) (place : Place) (name : String) (isDirectory : Bool) : Bool :=
  match place.chain.verdict? context.userRules place.userPath name isDirectory with
  | some .ignored => true
  | some .kept => false
  | none => name.toList.head? == some '.'

end Place

/-! # Entries below a directory -/

def isSelected (selection : Selection) (name : String) : Bool :=
  (Path.extensionOfName? name).any selection.hasExtension

mutual

/-- The files of an entry that are scanned, by their names from where the walk began. -/
def entryFiles (context : Context) (place : Place) (name : String) :
    FileNode → List (List String)
  | .file _ =>
      if place.isSkipped context name false || !isSelected context.selection name then []
      else [place.relative ++ [name]]
  | .link _ => []
  | .directory entries =>
      if place.isSkipped context name true || context.selection.isExcluded name then []
      else directoryFiles context (place.enter context name) entries

def directoryFiles (context : Context) (place : Place) :
    List (String × FileNode) → List (List String)
  | [] => []
  | (name, node) :: rest =>
      entryFiles context place name node ++ directoryFiles context place rest

end

/-!
# Units of a path

A directory gives the files below it, in ascending order of their paths, and a
file gives itself.
-/

def pathBelow (root : String) (names : List String) : String :=
  names.foldl Path.join root

def userNames (path : String) : List String :=
  match Path.names path with
  | "." :: rest => rest
  | names => names

def files (context : Context) (root : String) : List String :=
  match context.files.locate? root with
  | none => []
  | some place =>
      match context.files.node? place with
      | some (.directory entries) =>
          let start : Place := {
            names := place
            userPath := userNames root
            relative := []
            chain := .ofPlace context.files place }
          ((directoryFiles context start entries).mergeSort fun a b => !decide (b < a)).map
            (pathBelow root)
      | _ => []

def unitsOfPath (context : Context) (path : String) : Except Failure (List SourceUnit) :=
  if context.files.isDirectory path then
    .ok ((files context path).filterMap fun file => (SourceUnit.ofPath file).toOption)
  else if context.files.contains path then (SourceUnit.ofPath path).map ([·])
  else .error (.fileNotFound path)

def units (context : Context) (paths : List String) : Except Failure (List SourceUnit) := do
  return (← paths.mapM (unitsOfPath context)).flatten

def userRules (files : FileSystem) (environment : Environment) : List Rule :=
  match environment.configDirectory with
  | some directory =>
      ((files.text? (Path.join (Path.join directory "git") "ignore")).map
        Ignore.rulesOf).getD []
  | none => []

end Walk
end WebCompat
