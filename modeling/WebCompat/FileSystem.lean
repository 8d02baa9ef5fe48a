import WebCompat.Failure
import WebCompat.Path

/-!
# File systems

A file system is taken as a value: a tree of files, symbolic links and
directories, and the directory in which the program works.
-/

namespace WebCompat

inductive FileNode where
  /-- A file; it has no content if its bytes are no text. -/
  | file (content : Option String)
  | link (target : String)
  | directory (entries : List (String × FileNode))
deriving Repr

namespace FileNode

def isDirectory : FileNode → Bool
  | directory _ => true
  | _ => false

def entry? (name : String) : FileNode → Option FileNode
  | directory entries => entries.lookup name
  | _ => none

def descend? (node : FileNode) : List String → Option FileNode
  | [] => some node
  | name :: rest => (node.entry? name).bind fun next => next.descend? rest

def entries : Option FileNode → List (String × FileNode)
  | some (directory found) => found
  | _ => []

/--
The tree with one more node at the end of a row of names.  Directories on the
way there are made, but what stands at the place already stays.
-/
def put (node : FileNode) : List String → Option FileNode → FileNode
  | [], present => present.getD node
  | name :: rest, present =>
      let found := entries present
      let inner := put node rest (found.lookup name)
      directory (found.filter (·.1 != name) ++ [(name, inner)])

end FileNode

/-!
# Places and paths

A place is a row of names from the root.  A path leads to a place step by step,
through the links on its way.
-/

/-- A tree of files, with the names that lead to the working directory. -/
structure FileSystem where
  root : FileNode
  workingDirectory : List String

namespace FileSystem

def node? (files : FileSystem) (place : List String) : Option FileNode :=
  files.root.descend? place

def put (files : FileSystem) (place : List String) (node : FileNode) : FileSystem :=
  { files with root := FileNode.put node place (some files.root) }

def isDirectoryAt (files : FileSystem) (place : List String) : Bool :=
  (files.node? place).any FileNode.isDirectory

/--
The place that steps lead to.  Behind a link the rest of the way is left to
`follow`.
-/
def advance (files : FileSystem) (follow : List String → List Step → Option (List String)) :
    List String → List Step → Option (List String)
  | place, [] => if (files.node? place).isSome then some place else none
  | _, .root :: rest => files.advance follow [] rest
  | place, .here :: rest =>
      if files.isDirectoryAt place then files.advance follow place rest else none
  | place, .up :: rest =>
      if files.isDirectoryAt place then files.advance follow place.dropLast rest else none
  | place, .name text :: rest =>
      match files.node? (place ++ [text]) with
      | none => none
      | some (.link target) => follow place (Path.route target ++ rest)
      | some _ => files.advance follow (place ++ [text]) rest

/-- The place that steps lead to, through at most the given number of links. -/
def locateWithin (files : FileSystem) : Nat → List String → List Step → Option (List String)
  | 0, _, _ => none
  | links + 1, place, steps => files.advance (files.locateWithin links) place steps

def maxLinks : Nat := 40

def locate? (files : FileSystem) (path : String) : Option (List String) :=
  if path.isEmpty then none
  else files.locateWithin (maxLinks + 1) files.workingDirectory (Path.route path)

/-! # What paths lead to -/

def lookup? (files : FileSystem) (path : String) : Option FileNode :=
  (files.locate? path).bind files.node?

def isDirectory (files : FileSystem) (path : String) : Bool :=
  (files.lookup? path).any FileNode.isDirectory

def contains (files : FileSystem) (path : String) : Bool :=
  (files.lookup? path).isSome

def text? (files : FileSystem) (path : String) : Option String :=
  match files.lookup? path with
  | some (.file content) => content
  | _ => none

def read (files : FileSystem) (path : String) : Except Failure String :=
  match files.lookup? path with
  | none => .error (.fileNotFound path)
  | some (.file (some content)) => .ok content
  | some _ => .error .unreadable

end FileSystem
end WebCompat
