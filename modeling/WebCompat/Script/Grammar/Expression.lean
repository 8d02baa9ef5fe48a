import WebCompat.Script.Grammar.Class
import WebCompat.Script.Grammar.Element

/-!
# Expressions

An operand is a primary with suffixes (member access, calls, ...), possibly
behind prefix operators, or an assignment to such a place.  Operands are joined
by binary operators into flat chains: precedence would not change which names
are looked up or called.

## Words as names

A word is a keyword only where the grammar has a use for it as one.  In
`x = if`, say, `if` is a name.
-/

namespace WebCompat
namespace Script
namespace Grammar

open Reader

variable (g : Grammar)

/-! # Suffixes -/

def access (object : Tree) (point : String) : Reader Tree := do
  symbol point
  let name ← memberName
  return .node .member none object.start (← offset)
    [object.withField .object, name.withField .property]

def subscript (object : Tree) : Reader Tree :=
  extend .subscript object (return [← g.index])

def callWith (callee : Tree) (generic : List Tree) : Reader Tree :=
  extend .call (callee.withField .callee) (return generic ++ [← g.arguments])

def taggedTemplate (callee : Tree) : Reader Tree := do
  require (callee.isPrimary || callee.kind == .construct)
  extend .call (callee.withField .callee) (return [← g.template])

def optionalChain (object : Tree) : Reader Tree := do
  symbol "?."
  match (← remaining).head? with
  | some c => require !c.isDigit
  | none => refuse
  let member := access object ""
  let call := do
    require object.isPrimary
    let generic ← if g.typed then g.typeArguments? else pure []
    g.callWith object generic
  call <|> g.subscript object <|> member

def nonNull (context : Context) (value : Tree) : Reader Tree := do
  require g.typed
  require (!(← g.ends context))
  extend .nonNull value do
    symbolBefore "!" ['=']
    return []

def postUpdate (context : Context) (value : Tree) : Reader Tree := do
  require (!(← g.ends context))
  extend .update value do
    symbol "++" <|> symbol "--"
    return []

/-- Whether the text goes on with something that can only be another operand. -/
def startsOperand (text : List Char) : Bool :=
  match text with
  | [] => false
  | c :: _ =>
      let word := String.ofList (text.take (Lexeme.nameLength text))
      ['!', '~', '{', '"', '\'', '#', '@', '\x60', '\\'].contains c ||
        (Lexeme.isNameChar c && !(["in", "instanceof", "as", "satisfies", "of"].contains word))

/--
Type arguments behind a value.  Where another operand follows them, the brackets
are comparisons instead.
-/
def instantiation (context : Context) (value : Tree) : Reader Tree := do
  require g.typed
  let types ← g.typeArguments
  require ((← remaining).head? != some '=')
  if ← sees "(" then
    g.callWith value [types]
  else
    let isOver := context.heritage || (← g.ends context)
    let next ← ahead do
      gap
      remaining
    require (isOver || !startsOperand next)
    return .node .typed none value.start types.stop [value, types]

def suffix (context : Context) (value : Tree) : Reader Tree := do
  require value.isValue
  match ← nextChar with
  | some '.' => access value "."
  | some '?' => g.optionalChain value
  | some '[' => g.subscript value
  | some '(' => g.callWith value []
  | some '\x60' => g.taggedTemplate value
  | some '+' => g.postUpdate context value
  | some '-' => g.postUpdate context value
  | some '!' => g.nonNull context value
  | some '<' => g.instantiation context value
  | _ => refuse

/-- One suffix of what `new` constructs: anything but a plain call. -/
def constructorSuffix (value : Tree) : Reader Tree := do
  match ← nextChar with
  | some '.' => access value "."
  | some '?' => g.optionalChain value
  | some '[' => g.subscript value
  | some '\x60' => g.taggedTemplate value
  | some '!' => g.nonNull .enclosed value
  | _ => refuse

/-! # Primaries -/

def construction (primary : Reader Tree) : Reader Tree :=
  node .construct do
    word "new"
    let callee ← primary
    require (callee.isPrimary || callee.kind == .construct)
    let callee ← grow g.constructorSuffix callee
    let generic ← if g.typed then g.typeArguments? else pure []
    let arguments ← if ← sees "(" then some <$> g.arguments else pure none
    return callee.withField .callee :: generic ++ arguments.toList

def metaProperty (first second : String) : Reader Tree :=
  leaf .keyword do
    word first
    symbol "."
    word second

def importOperand : Reader Tree :=
  metaProperty "import" "meta" <|> do
    let source ← wordLeaf .keyword "import"
    access source "." <|> g.callWith source []

def groupOperand (context : Context) : Reader Tree := do
  let group ← g.group
  g.groupArrow context group.start group <|> do
    require group.isExpression
    return group.toTree .parenthesized

def nameOperand (context : Context) : Reader Tree := do
  let name ← nameLeaf .identifier
  if ← sees "=>" then
    g.arrowFrom context name.start [name]
  else
    return name

/-- What the word `async` may start; `calls` says that it may be called as a name. -/
def asyncOperand (context : Context) (calls : Bool) : Reader Tree := do
  let isName ← ahead do
    word "async"
    g.ends context
  let called := do
    let name ← nameLeaf .identifier
    let group ← g.group
    g.groupArrow context name.start group <|> do
      require (calls && group.isArguments)
      return .node .call none name.start (← offset)
        [name.withField .callee, group.toTree .arguments]
  let parameter := do
    let name ← nameLeaf .identifier
    let parameter ← nameLeaf .identifier
    g.arrowFrom context name.start [parameter]
  let generic := do
    require g.typed
    let name ← nameLeaf .identifier
    let arrow ← g.genericArrow context
    return .node .arrow none name.start arrow.stop [arrow]
  if isName then
    g.nameOperand context
  else
    match ← ahead (do word "async"; nextChar) with
    | some '(' => called <|> g.nameOperand context
    | some '<' => generic <|> g.nameOperand context
    | some '=' => g.nameOperand context
    | _ => g.functionExpression <|> parameter <|> g.nameOperand context

def namespaceRest (context : Context) : Reader (List Tree) := do
  require (!(← g.ends context))
  require (!(["in", "instanceof", "as", "satisfies"].contains (← nextName)))
  let name ← stringLiteral <|> dottedName
  let body ← if ← sees "\x7b" then some <$> g.block else pure none
  return name :: body.toList

def namespaceOperand (context : Context) : Reader Tree := do
  let space := node .declaration do
    word "namespace"
    g.namespaceRest context
  space <|> g.nameOperand context

def primary (context : Context) (calls : Bool) : Reader Tree := do
  openGap
  let text ← nextName
  match (← remaining).head? with
  | some '(' => g.groupOperand context
  | some '[' => g.array
  | some '{' => g.object
  | some '"' => stringLiteral
  | some '\'' => stringLiteral
  | some '\x60' => g.template
  | some '/' => patternLiteral
  | some '@' => g.classExpression
  | some '.' => numberLiteral
  | some c =>
      if c.isDigit then numberLiteral
      else
        match text with
        | "function" => g.functionExpression
        | "class" => g.classExpression
        | "this" => leaf .keyword name
        | "super" => leaf .keyword name
        | "true" => leaf .literal name
        | "false" => leaf .literal name
        | "null" => leaf .literal name
        | "undefined" => leaf .undefined name
        | "import" => g.importOperand
        | "async" => g.asyncOperand context calls
        | "await" => refuse
        | "yield" => refuse
        | "typeof" => refuse
        | "void" => refuse
        | "delete" => refuse
        | "new" => if g.typed then g.nameOperand context else refuse
        | "namespace" =>
            if g.typed then g.namespaceOperand context else g.nameOperand context
        | _ => g.nameOperand context
  | none => refuse

def newOperand (context : Context) (nested : Reader Tree) : Reader Tree := do
  metaProperty "new" "target" <|> g.construction nested <|> do
    require g.typed
    g.nameOperand context

def constructed (context : Context) : Reader Tree := do
  let depth := (← remaining).length
  chained depth
where
  chained : Nat → Reader Tree
    | 0 => refuse
    | depth + 1 => do
        if !g.typed && (← nextName) == "new" then
          metaProperty "new" "target" <|> g.construction (chained depth)
        else
          g.primary context false

/-! # Operands -/

def unary (context : Context) (kind : Kind) (operator : Reader Unit) : Reader Tree :=
  node kind do
    operator
    let operand ← g.read (.operand context)
    require operand.isValue
    return [operand]

def seesOperatorWord : Reader Bool := do
  let text ← nextName
  return text == "in" || text == "instanceof" ||
    (g.typed && (text == "as" || text == "satisfies"))

/-- `yield`, with or without a value.  A slash behind it opens a regular expression. -/
def yieldOperand (context : Context) : Reader Tree := do
  let value ← node .yield do
    word "yield"
    let delegated := do
      symbol "*"
      g.expression context
    let given := do
      require (!(← g.ends context))
      require (!(← g.seesOperatorWord))
      g.expression context
    match ← optional (delegated <|> given) with
    | some value => return [value]
    | none =>
        let next ← nextChar
        require (next != some '/' && next != some '<')
        return []
  grow (g.suffix context) value

def privateTest (context : Context) : Reader Tree :=
  node .binary do
    let name ← privateName
    word "in"
    let object ← g.read (.operand context)
    require object.isValue
    return [name, object]

def assertion (context : Context) : Reader Tree :=
  node .typed do
    let types ← g.typeArguments
    let value ← g.read (.operand context)
    require value.isValue
    return [types, value]

def bracketOperand (context : Context) : Reader Tree := do
  let arrow := do
    require g.typed
    g.genericArrow context
  if g.dialect.hasElements then
    arrow <|> do
      let element ← g.read .element
      grow (g.suffix context) element
  else
    arrow <|> g.assertion context

/-- The operators that combine a value with what a place holds, without their `=`. -/
def combiningOperators : List String :=
  [">>>", "**", "<<", ">>", "&&", "||", "??", "+", "-", "*", "/", "%", "&", "|", "^"]

def combination : Reader Unit := do
  gap
  combiningOperators.foldr
    (fun operator others => (do exactly operator; exactly "=") <|> others) refuse

def assigned (context : Context) (place : Tree) : Reader Tree := do
  let plain := do
    require (place.isTarget || place.kind == .parenthesized)
    extend .assignment place do
      symbolBefore "=" ['=', '>']
      return [← g.expression context]
  let combined := do
    require ((place.isTarget && place.kind != .array && place.kind != .object &&
      place.kind != .undefined) || place.kind == .parenthesized)
    extend .update place do
      combination
      return [← g.expression context]
  plain <|> combined <|> return place

def plainOperand (context : Context) : Reader Tree := do
  let first ← if (← nextName) == "new" then
      g.newOperand context (g.constructed context)
    else
      g.primary context true
  let value ← grow (g.suffix context) first
  g.assigned context value

def usingOperand (context : Context) : Reader Tree :=
  node .update do
    word "using"
    let place ← g.plainOperand context
    require (place.kind == .assignment)
    return [place]

def operand (context : Context) : Reader Tree := do
  openGap
  let text ← nextName
  match ← remaining with
  | '+' :: '+' :: _ => g.unary context .update (exactly "++")
  | '-' :: '-' :: _ => g.unary context .update (exactly "--")
  | '!' :: _ => g.unary context .unary (exactly "!")
  | '~' :: _ => g.unary context .unary (exactly "~")
  | '+' :: _ => g.unary context .unary (exactly "+")
  | '-' :: _ => g.unary context .unary (exactly "-")
  | '#' :: _ => g.privateTest context
  | '<' :: _ => g.bracketOperand context
  | _ =>
      match text with
      | "typeof" => g.unary context .unary (word "typeof")
      | "void" => g.unary context .unary (word "void")
      | "delete" => g.unary context .unary (word "delete")
      | "await" => g.unary context .await (word "await")
      | "yield" => g.yieldOperand context
      | "using" => if g.typed then g.usingOperand context else g.plainOperand context
      | _ => g.plainOperand context

/-! # Chains of operands -/

/-- The binary operators, each before those that it starts with. -/
def binaryOperators : List String :=
  [">>>", "===", "!==", "**", "<<", ">>", "<=", ">=", "==", "!=", "&&", "||", "??",
    "+", "-", "*", "/", "%", "<", ">", "&", "|", "^"]

def signOperator : Reader Unit := do
  gap
  let text ← remaining
  match binaryOperators.find? fun operator => operator.toList.isPrefixOf text with
  | none => refuse
  | some operator =>
      let next := (text.drop operator.length).head?
      require !(combiningOperators.contains operator && next == some '=')
      require !(operator == "+" && next == some '+')
      require !(operator == "-" && next == some '-')
      skip operator.length

def binaryOperator (context : Context) : Reader Unit :=
  signOperator <|> word "instanceof" <|> do
    require context.relational
    word "in"

def questionMark : Reader Unit := do
  symbolBefore "?" ['?']
  match ← remaining with
  | '.' :: rest => require ((rest.head?.map Char.isDigit).getD false)
  | rest =>
      let next := (rest.dropWhile Lexeme.isPlainBlank).head?
      require !(g.typed && (next == some ':' || next == some ')' || next == some ','))

/--
The two branches of a conditional expression.  A colon behind parameters in the
first branch is the type of a function's result if the branch can be completed
that way, and the colon between the branches otherwise.
-/
def branches (context : Context) : Reader (List Tree) := do
  g.questionMark
  let first (returnTypes : Bool) := do
    let value ← g.expression { Context.enclosed with returnTypes }
    symbol ":"
    return value
  let positive ← if g.typed then first true <|> first false else first true
  return [positive, ← g.expression context]

def link (context : Context) (left : Tree) : Reader Tree := do
  require left.isValue
  let binary := extend .binary left do
    binaryOperator context
    let right ← g.read (.operand context)
    require right.isValue
    return [right]
  let typed := do
    require g.typed
    require (!(← g.ends context))
    let place : Option Semicolon.Place :=
      if context.closable then some { valued := true } else none
    let value ← extend .typed left do
      (do word "as"; return [← wordLeaf .keyword "const" <|> g.read (.type place)]) <|>
        (do word "satisfies"; return [← g.read (.type place)])
    grow (g.suffix context) value
  let conditional := extend .conditional left (g.branches context)
  binary <|> typed <|> conditional

def chain (context : Context) : Reader Tree := do
  let first ← g.read (.operand context)
  grow (g.link context) first

end Grammar
end Script
end WebCompat
