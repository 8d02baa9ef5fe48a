import WebCompat.Script.Grammar.Module

/-!
# Statements

The first word or sign of a statement decides what it is, except where a word
may also be a plain name and where a brace may also open an object.
-/

namespace WebCompat
namespace Script
namespace Grammar

open Reader

variable (g : Grammar)

def expressionStatement : Reader Tree :=
  node .statement do
    let value ← g.expressions .final
    g.finish true
    return [value]

/--
Whether what comes next continues an expression and cannot start a statement.
-/
def continues : Reader Bool := do
  if ← g.seesOperatorWord then return true
  match ← ahead (do gap; remaining) with
  | '.' :: c :: _ => return !c.isDigit
  | '!' :: '=' :: _ => return true
  | c :: _ => return ".?=,*%>&|^".toList.contains c
  | [] => return false

/-- A declaration, unless an expression goes on behind it. -/
def unlessContinued (reader : Reader Tree) : Reader Tree := do
  let start ← here
  let tree ← reader
  if ← g.continues then
    goTo start
    g.expressionStatement
  else
    return tree

def braces : Reader Tree :=
  (do let tree ← g.block
      require (!(← g.continues))
      return tree) <|> do
    require (← g.couldOpenObject)
    g.expressionStatement

def labelled : Reader Tree :=
  node .statement do
    let name ← nameLeaf .label
    symbol ":"
    return [name, ← g.read .statement]

/-! # Branches and loops -/

def ifStatement : Reader Tree :=
  node .statement do
    word "if"
    let condition ← g.parenthesized
    let positive ← g.read .statement
    let negative ← if (← nextName) == "else" then
        some <$> (do word "else"; g.read .statement)
      else
        pure none
    return condition :: positive :: negative.toList

def switchBranch : Reader (List Tree) := do
  openGap
  let labels := do
    word "case"
    let value ← g.expressions .enclosed
    symbol ":"
    return [value]
  let rest := do
    word "default"
    symbol ":"
    return []
  let label ← labels <|> rest
  let body ← many do
    let next ← nextName
    require (next != "case" && next != "default")
    g.read .statement
  return label ++ body

def switchStatement : Reader Tree :=
  node .statement do
    word "switch"
    let value ← g.parenthesized
    symbol "\x7b"
    let branches ← many g.switchBranch
    openGap
    exactly "\x7d"
    return value :: branches.flatten

def guarded (keyword : String) : Reader Tree :=
  node .statement do
    word keyword
    let condition ← g.parenthesized
    return [condition, ← g.read .statement]

def doStatement : Reader Tree :=
  node .statement do
    word "do"
    let body ← g.read .statement
    word "while"
    let condition ← g.parenthesized
    let _ ← optional (symbol ";")
    return [body, condition]

def iterationHead : Reader (List Tree) := do
  let declared := do
    let keyword ← name
    require (keyword == "var" || keyword == "let" || keyword == "const")
    if keyword == "let" then
      let next ← nextName
      require (next != "in" && next != "of")
    let target ← g.binding
    let value ← if keyword == "var" then
        g.initializer? { Context.enclosed with relational := false }
      else
        pure []
    return target :: value
  let assigned := do
    let place ← g.read (.operand .enclosed)
    require (place.isTarget || place.kind == .parenthesized)
    return [place]
  let target ← (do
    let target ← declared
    let next ← nextName
    require (next == "in" || next == "of")
    return target) <|> assigned
  word "in" <|> word "of"
  return target ++ [← g.expressions .enclosed]

def countingHead : Reader (List Tree) := do
  openGap
  let declared := do
    let keyword ← nextName
    require (keyword == "var" || keyword == "let" || keyword == "const")
    return [← g.variableDeclaration]
  let plain := do
    let first ← optional (g.expressions .enclosed)
    symbol ";"
    return first.toList
  let start ← declared <|> plain
  let condition ← optional (g.expressions .enclosed)
  openGap
  exactly ";"
  let step ← optional (g.expressions .enclosed)
  return start ++ condition.toList ++ step.toList

def forStatement : Reader Tree :=
  node .statement do
    word "for"
    let iteration := do
      let _ ← optional (word "await")
      symbol "("
      let head ← g.iterationHead
      symbol ")"
      return head
    let counting := do
      symbol "("
      let head ← g.countingHead
      openGap
      exactly ")"
      return head
    let head ← iteration <|> counting
    return head ++ [← g.read .statement]

/-! # Jumps and exceptions -/

def jump (keyword : String) : Reader Tree :=
  node .statement do
    word keyword
    if ← seesEnd g.dialect { valued := false } then
      return []
    else
      let label ← optional (nameLeaf .label)
      g.finish false
      return label.toList

def returnStatement : Reader Tree :=
  node .statement do
    word "return"
    if ← seesEnd g.dialect { valued := false } then
      return []
    else
      let value ← optional (g.expressions .final)
      g.finish value.isSome
      return value.toList

def throwStatement : Reader Tree :=
  node .statement do
    word "throw"
    let value ← g.expressions .final
    g.finish true
    return [value]

def handler : Reader (List Tree) := do
  word "catch"
  let parameter ← optional do
    symbol "("
    let target ← g.binding
    let type ← g.annotation? none
    symbol ")"
    return target :: type
  return parameter.getD [] ++ [← g.block]

def tryStatement : Reader Tree :=
  node .statement do
    word "try"
    let body ← g.block
    let handler ← if (← nextName) == "catch" then g.handler else pure []
    let final ← if (← nextName) == "finally" then
        (do word "finally"; return [← g.block])
      else
        pure []
    return body :: handler ++ final

/-! # All statements -/

/-- A statement that starts with a word which may also be a plain name. -/
def declarationOr (declaration : Reader Tree) : Reader Tree :=
  declaration <|> g.expressionStatement

def letStatement : Reader Tree := do
  let isName ← accepts do
    word "let"
    let next ← nextName
    require ((← seesEnd g.dialect { valued := true }) || next == "in" || next == "instanceof")
  if isName then g.expressionStatement else g.declarationOr g.variableDeclaration

def importOrExpression : Reader Tree := do
  match ← ahead (do word "import"; nextChar) with
  | some '(' => g.expressionStatement
  | some '.' => g.expressionStatement
  | _ => if g.typed then g.importStatement <|> g.importAlias else g.importStatement

def wordStatement (text : String) : Reader Tree := do
  if !g.startingWords.contains text && (← accepts (do let _ ← name; symbol ":")) then
    g.labelled
  else if ← g.seesFunction then
    g.unlessContinued g.functionDeclaration
  else if ← g.seesClass then
    g.unlessContinued g.classDeclaration
  else
    match text with
    | "var" => g.variableDeclaration
    | "const" => g.plainDeclaration
    | "let" => g.letStatement
    | "if" => g.ifStatement
    | "switch" => g.switchStatement
    | "for" => g.forStatement
    | "while" => g.guarded "while"
    | "with" => g.guarded "with"
    | "do" => g.doStatement
    | "try" => g.tryStatement
    | "break" => g.jump "break"
    | "continue" => g.jump "continue"
    | "debugger" => node .statement (do word "debugger"; g.finish false; return [])
    | "return" => g.returnStatement
    | "throw" => g.throwStatement
    | "import" => g.importOrExpression
    | "export" =>
        g.declarationOr (g.exportStatement <|> do
          require g.typed
          node .statement do
            word "export"
            return [← g.importAlias])
    | "enum" => if g.typed then g.enumDeclaration else g.expressionStatement
    | "interface" => if g.typed then g.interfaceDeclaration else g.expressionStatement
    | "abstract" => if g.typed then refuse else g.expressionStatement
    | "type" => if g.typed then g.declarationOr g.typeAlias else g.expressionStatement
    | "namespace" =>
        if g.typed then g.declarationOr g.namespaceDeclaration else g.expressionStatement
    | "module" =>
        if g.typed then g.declarationOr g.namespaceDeclaration else g.expressionStatement
    | "declare" => if g.typed then g.declarationOr g.ambient else g.expressionStatement
    | _ => g.expressionStatement

def statement : Reader Tree := do
  openGap
  match (← remaining).head? with
  | some ';' => leaf .statement (exactly ";")
  | some '{' => g.braces
  | some '@' =>
      if ← g.seesClass then g.unlessContinued g.classDeclaration
      else g.exportStatement <|> g.expressionStatement
  | some _ =>
      match ← optional (ahead bareName) with
      | some text => g.wordStatement text
      | none => g.expressionStatement
  | none => refuse

end Grammar
end Script
end WebCompat
