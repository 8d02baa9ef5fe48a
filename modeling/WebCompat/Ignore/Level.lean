import WebCompat.FileSystem
import WebCompat.Ignore.Rule

/-!
# Levels of ignore rules

Each directory on the way to an entry may hold rules for it.  Rules of a nearer
directory decide before those of a farther one.  Rules for all programs decide
before those for a repository, which count only inside of one and only up to
its top.
-/

namespace WebCompat
namespace Ignore

structure Level where
  general : List Rule
  repository : List Rule
  /-- Rules of this copy of the repository alone. -/
  exclusions : List Rule
  isTop : Bool
  /-- The names that lead from the directory to that of the entry. -/
  below : List String

abbrev Chain : Type :=
  List Level

namespace Level

def rulesAt (files : FileSystem) (place : List String) (names : List String) : List Rule :=
  match (files.locateWithin FileSystem.maxLinks place (names.map .name)).bind files.node? with
  | some (.file (some text)) => rulesOf text
  | _ => []

def ofDirectory (files : FileSystem) (place below : List String) : Level where
  general := rulesAt files place [".ignore"]
  repository := rulesAt files place [".gitignore"]
  exclusions := rulesAt files place [".git", "info", "exclude"]
  isTop := (files.locateWithin FileSystem.maxLinks place [.name ".git"]).isSome
  below := below

def enter (name : String) (level : Level) : Level :=
  { level with below := level.below ++ [name] }

end Level

namespace Chain

def ofPlace (files : FileSystem) (place : List String) : Chain :=
  (List.range (place.length + 1)).map fun depth =>
    let count := place.length - depth
    .ofDirectory files (place.take count) (place.drop count)

def enter (files : FileSystem) (place : List String) (name : String) (chain : Chain) : Chain :=
  .ofDirectory files (place ++ [name]) [] :: chain.map (Level.enter name)

/-- The levels up to the first top of a repository. -/
def insideRepository : Chain → Chain
  | [] => []
  | level :: rest => level :: if level.isTop then [] else insideRepository rest

def ask (select : Level → List Rule) (name : String) (isDirectory : Bool) (chain : Chain) :
    Option Verdict :=
  chain.findSome? fun level => verdict? (select level) (level.below ++ [name]) isDirectory

/--
What all rules together say about an entry of the nearest directory.  The rules
of the user are about the path that begins in the working directory.
-/
def verdict? (chain : Chain) (userRules : List Rule) (userPath : List String) (name : String)
    (isDirectory : Bool) : Option Verdict :=
  let general := ask Level.general name isDirectory chain
  if chain.any Level.isTop then
    let inner := chain.insideRepository
    general.or <| (ask Level.repository name isDirectory inner).or <|
      (ask Level.exclusions name isDirectory inner).or <|
        Ignore.verdict? userRules (userPath ++ [name]) isDirectory
  else general

end Chain
end Ignore
end WebCompat
