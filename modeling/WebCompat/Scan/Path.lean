import WebCompat.Script.Tree

/-!
# Paths of expressions

The path of an expression is the dotted name by which it reaches an API.  Only
a plain name and an access to a member of something that has a path have one.
-/

namespace WebCompat
namespace Script

def slice (text : List Char) (start stop : Nat) : List Char :=
  (text.drop start).take (stop - start)

namespace Kind

def isMember : Kind → Bool
  | .member | .queriedMember => true
  | _ => false

end Kind

namespace Tree

def text (source : List Char) (tree : Tree) : List Char :=
  slice source tree.start tree.stop

theorem sizeOf_lt_of_child? {part : Field} {tree child : Tree}
    (h : tree.child? part = some child) : sizeOf child < sizeOf tree := by
  fun_induction child? part tree with
  | case1 kind field start stop children found hfound =>
      cases h
      have hmem := List.sizeOf_lt_of_mem (List.mem_of_find?_eq_some hfound)
      simp only [node.sizeOf_spec]
      omega
  | case2 field start stop first rest hnone ih =>
      have hfirst := ih h
      simp only [node.sizeOf_spec, List.cons.sizeOf_spec]
      omega
  | case3 =>
      cases h

def path? (source : List Char) (tree : Tree) : Option (List Char) :=
  if tree.kind = .identifier then some (tree.text source)
  else if tree.kind.isMember then
    match _hobject : tree.child? .object, tree.child? .property with
    | some object, some property =>
        (path? source object).map (· ++ '.' :: property.text source)
    | _, _ => none
  else none
termination_by tree
decreasing_by exact sizeOf_lt_of_child? (by assumption)

/--
The node whose path decides whether a node uses an API.  A call or construction
counts only if its callee is a plain name: any other callee counts by itself.
-/
def target? (tree : Tree) : Option Tree :=
  match tree.kind with
  | .member => some tree
  | .queriedMember => some tree
  | .call => (tree.child? .callee).filter fun callee => callee.kind = .identifier
  | .construct => (tree.child? .callee).filter fun callee => callee.kind = .identifier
  | _ => none

end Tree
end Script
end WebCompat
