import WebCompat.Script.Reading
import WebCompat.Script.Semicolon

/-!
# Grammar rules

The grammar's recursion runs through a handful of rules.  Every other function
of the grammar is given a `Grammar`, which reads those rules one level further
down, and is itself not recursive; tying the knot is left to the module that
reads whole scripts.
-/

namespace WebCompat
namespace Script

structure Context where
  /-- `in` is an operator here, and not the middle of a loop head. -/
  relational : Bool
  /-- A statement may end behind the expression. -/
  closable : Bool
  /-- A colon behind parameters may start the type of a function's result. -/
  returnTypes : Bool
  /-- The expression names the class that a class extends. -/
  heritage : Bool
deriving DecidableEq, Repr

namespace Context

def enclosed : Context where
  relational := true
  closable := false
  returnTypes := true
  heritage := false

def final : Context where
  relational := true
  closable := true
  returnTypes := true
  heritage := false

end Context

inductive Rule where
  | expression (context : Context)
  | operand (context : Context)
  /-- A type; the place says that a statement may end behind it. -/
  | type (place : Option Semicolon.Place)
  | typeOperand (place : Option Semicolon.Place)
  | element
  | parameters
  | arguments
  | statement
deriving Repr

structure Grammar where
  dialect : Dialect
  read : Rule → Reader Tree

namespace Grammar

open Reader

variable (g : Grammar)

def typed : Bool :=
  g.dialect.hasTypes

def expression (context : Context) : Reader Tree := do
  let tree ← g.read (.expression context)
  require tree.isValue
  return tree

def expressions (context : Context) : Reader Tree := do
  let first ← g.expression context
  if ← sees "," then
    extend .sequence first <| many do
      symbol ","
      g.expression context
  else
    return first

def statements : Reader (List Tree) :=
  many (g.read .statement)

def block : Reader Tree :=
  node .block do
    exactly "\x7b"
    let body ← g.statements
    openGap
    exactly "\x7d"
    return body

def finish (valued : Bool) : Reader Unit :=
  endOfStatement g.dialect { valued }

def ends (context : Context) : Reader Bool := do
  if context.closable then seesEnd g.dialect { valued := true } else return false

end Grammar
end Script
end WebCompat
