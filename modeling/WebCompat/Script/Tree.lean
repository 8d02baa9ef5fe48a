/-!
# Syntax trees

A tree node has a kind, the part it plays in its parent, the offsets of its
first character and of the character behind its last one, and its children in
source order.  Offsets count characters from the start of the script.

Leaves that no later step looks at (punctuation, keywords, comments) are not
kept.
-/

namespace WebCompat
namespace Script

inductive Field where
  | object
  | property
  | callee
deriving DecidableEq, Repr

inductive Kind where
  | program
  | identifier
  | undefined
  /-- A name that is looked up in an object or written in front of a value. -/
  | propertyName
  | typeName
  | label
  /-- A number, a string, a regular expression, or a word such as `null`. -/
  | literal
  /-- `this`, `super`, `import`, `new.target` and `import.meta`. -/
  | keyword
  | template
  | parenthesized
  | array
  | object
  | pair
  | shorthand
  /-- `name = value` in an object, which only a destructuring target may hold. -/
  | defaulted
  | spread
  | method
  /-- `object.property`, with or without a question mark before the point. -/
  | member
  /-- `object.property` in the type of an existing value, `typeof object.property`. -/
  | queriedMember
  | subscript
  | call
  | construct
  /-- `value!`. -/
  | nonNull
  | function
  | classExpression
  | arrow
  | assignment
  | unary
  | update
  | await
  | yield
  | binary
  | conditional
  | sequence
  /-- A change of the static type, or type arguments without a call. -/
  | typed
  | element
  /-- A dotted name outside of expressions. -/
  | dottedName
  | parameters
  | arguments
  | parameter
  | decorator
  | classBody
  | typeExpression
  | block
  | statement
  | declaration
deriving DecidableEq, Repr

inductive Tree where
  | node (kind : Kind) (field : Option Field) (start stop : Nat)
      (children : List Tree)
deriving Repr

namespace Tree

def kind : Tree → Kind
  | node kind _ _ _ _ => kind

def field : Tree → Option Field
  | node _ field _ _ _ => field

def start : Tree → Nat
  | node _ _ start _ _ => start

def stop : Tree → Nat
  | node _ _ _ stop _ => stop

def children : Tree → List Tree
  | node _ _ _ _ children => children

def leaf (kind : Kind) (start stop : Nat) : Tree :=
  node kind none start stop []

def withField (part : Field) : Tree → Tree
  | node kind _ start stop children => node kind (some part) start stop children

def withKind (kind : Kind) : Tree → Tree
  | node _ field start stop children => node kind field start stop children

/--
The child that plays the given part.  A step of a queried member does not name
its own property but leaves that to the step before it, so that the search goes
on in its first child.
-/
def child? (part : Field) : Tree → Option Tree
  | node kind _ _ _ children =>
      match children.find? fun child => child.field == some part with
      | some child => some child
      | none =>
          match kind, children with
          | .queriedMember, first :: _ => first.child? part
          | _, _ => none

mutual

def preorder : Tree → List Tree
  | node kind field start stop children =>
      node kind field start stop children :: preorderAll children

def preorderAll : List Tree → List Tree
  | [] => []
  | tree :: trees => tree.preorder ++ preorderAll trees

end

end Tree
end Script
end WebCompat
