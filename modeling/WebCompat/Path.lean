/-!
# Paths

A path names a place in a tree of files by the names on the way there, with
slashes between them.
-/

namespace WebCompat

inductive Step where
  | root
  | here
  | up
  | name (text : String)
deriving DecidableEq, Repr

namespace Path

def parts (path : String) : List String :=
  (path.toList.splitOn '/').map String.ofList

def isAbsolute (path : String) : Bool :=
  path.toList.head? == some '/'

def stepOf (part : String) : Step :=
  if part = "." then .here
  else if part = ".." then .up
  else .name part

def names (path : String) : List String :=
  (parts path).filter fun part => !part.isEmpty

/--
The steps by which a path is followed.  A slash at the end asks for a
directory.
-/
def route (path : String) : List Step :=
  (if isAbsolute path then [.root] else []) ++
    (names path).map stepOf ++
    (if path.toList.getLast? == some '/' then [.here] else [])

/-- The steps that matter to the meaning of a path: a single point only in front. -/
def components (path : String) : List Step :=
  let steps := (names path).map stepOf
  if isAbsolute path then .root :: steps.filter (· != .here)
  else
    match steps with
    | .here :: rest => .here :: rest.filter (· != .here)
    | steps => steps.filter (· != .here)

/-- The name of what a path leads to, unless its last step goes up or nowhere. -/
def fileName? (path : String) : Option String :=
  match (components path).getLast? with
  | some (.name text) => some text
  | _ => none

/-- The part of a file name behind its last point, unless that point comes first. -/
def extensionOfName? (name : String) : Option String :=
  let reversed := name.toList.reverse
  match reversed.dropWhile (· != '.') with
  | [] => none
  | [_] => none
  | _ => some (String.ofList (reversed.takeWhile (· != '.')).reverse)

def extension? (path : String) : Option String :=
  (fileName? path).bind extensionOfName?

def join (path name : String) : String :=
  if path.isEmpty || path.toList.getLast? == some '/' then path ++ name
  else path ++ "/" ++ name

end Path
end WebCompat
