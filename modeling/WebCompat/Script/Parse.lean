import WebCompat.Script.Grammar.Statement

/-!
# Reading scripts

The rules of the grammar are unrolled as often as the length of a script could
ever ask for.  A script that the grammar does not cover to its last character
is refused as a whole.
-/

namespace WebCompat
namespace Script

open Reader

def rules (dialect : Dialect) : Nat → Rule → Reader Tree
  | 0, _ => refuse
  | depth + 1, rule =>
      let g : Grammar := { dialect, read := rules dialect depth }
      match rule with
      | .expression context => g.chain context
      | .operand context => g.operand context
      | .type place => g.type place
      | .typeOperand place => g.typeOperand place
      | .element => g.element
      | .parameters => g.parameters
      | .arguments => g.arguments
      | .statement => g.statement

/-- The depth that suffices for a script: each character opens few rules at most. -/
def sufficientDepth (text : List Char) : Nat :=
  8 * text.length + 16

def interpreterLine : Reader Unit := do
  openGap
  exactly "#!"
  skip ((← remaining).takeWhile fun c => c != '\n' && c.toNat != 0).length

def program (dialect : Dialect) : Reader Tree := do
  let depth := sufficientDepth (← remaining)
  let g : Grammar := { dialect, read := rules dialect depth }
  let _ ← optional interpreterLine
  let body ← g.statements
  openGap
  require (← remaining).isEmpty
  return .node .program none 0 (← offset) body

def parse? (dialect : Dialect) (source : String) : Option Tree :=
  (program dialect (Cursor.start source.toList)).map Prod.fst

end Script
end WebCompat
