import WebCompat.Script.Tree

/-!
# Two readings of one text

Until an `=`, an arrow or the word `of` follows, `[a, b]` may turn out to be a
value or a place to store values in, and `(a, b)` an expression or a parameter
list.  Both readings share one tree.  The functions of this module say which
readings a tree allows, so that nothing has to be read twice.
-/

namespace WebCompat
namespace Script
/-- Whether values can be stored in what a node of this kind names. -/
def Kind.isPlace : Kind → Bool
  | .identifier | .undefined | .member | .subscript | .nonNull => true
  | _ => false

namespace Tree

mutual

/--
Whether a tree may be read as a value.  All expressions may, except that an
object must not hold a name with a default, at any depth of nested literals.
-/
def isValue : Tree → Bool
  | node kind _ _ _ children =>
      match kind with
      | .defaulted => false
      | .array => areValues children
      | .object => areValues children
      | .pair => areValues children
      | .spread => areValues children
      | _ => true

def areValues : List Tree → Bool
  | [] => true
  | tree :: trees => tree.isValue && areValues trees

end

mutual

/--
Whether a tree may be read as a part of a destructuring target: a place, a
target that is itself a literal, or either of them behind a key, behind three
points, or before a default.
-/
def isTargetPart : Tree → Bool
  | node kind _ _ _ children =>
      match kind with
      | .shorthand => true
      | .defaulted => true
      | .array => areTargetParts children
      | .object => areTargetParts children
      | .assignment => isFirstTargetPart children
      | .spread => isFirstTargetPart children
      | .pair => isLastTargetPart children
      | _ => kind.isPlace

def areTargetParts : List Tree → Bool
  | [] => true
  | tree :: trees => tree.isTargetPart && areTargetParts trees

def isFirstTargetPart : List Tree → Bool
  | [] => false
  | tree :: _ => tree.isTargetPart

def isLastTargetPart : List Tree → Bool
  | [] => false
  | [tree] => tree.isTargetPart
  | _ :: trees => isLastTargetPart trees

end

def isTarget (tree : Tree) : Bool :=
  match tree.kind with
  | .array => tree.isTargetPart
  | .object => tree.isTargetPart
  | kind => kind.isPlace

def isDestructuring (tree : Tree) : Bool :=
  (tree.kind == .array || tree.kind == .object) && tree.isTargetPart

/--
Whether the tree is an operand on its own, which a template or an optional call
may follow, and which `new` may construct.
-/
def isPrimary (tree : Tree) : Bool :=
  match tree.kind with
  | .identifier | .undefined | .literal | .keyword | .template | .parenthesized
  | .array | .object | .member | .subscript | .call | .nonNull | .function | .arrow
  | .classExpression => true
  | _ => false

end Tree
end Script
end WebCompat
