import WebCompat.Script.Grammar.Dotted

/-!
# Types

Type annotations hold few names that matter later, but a type that is wrongly
read makes the whole script unreadable.  The operators between types are kept
flat: their precedence decides nothing that anyone asks for.

## Names in types

A dotted type name is a node around the dotted name of its namespace.  In
`typeof a.b.c`, the type of an existing value, every step is a member access.
-/

namespace WebCompat
namespace Script
namespace Grammar

open Reader

variable (g : Grammar)

def builtInTypes : List String :=
  ["any", "number", "boolean", "string", "symbol", "void", "unknown", "never", "object"]

def literalTypes : List String :=
  ["true", "false", "null", "undefined"]

def typeEnds (place : Option Semicolon.Place) : Reader Bool :=
  match place with
  | some place => seesEnd g.dialect place
  | none => return false

def innerType : Reader Tree :=
  g.read (.type none)

def typeArguments : Reader Tree :=
  node .typeExpression do
    exactly "<"
    let types ← separated g.innerType (symbol ",")
    let _ ← optional (symbol ",")
    symbol ">"
    return types

def typeArguments? : Reader (List Tree) := do
  return (← optional g.typeArguments).toList

def typeParameter : Reader (List Tree) := do
  let bare := do
    let name ← nameLeaf .typeName
    let next ← nextChar
    require (next == some ',' || next == some '>' || next == some '=' || next == some ':' ||
      (← nextName) == "extends")
    return name
  let name ← (do word "const"; bare) <|> bare
  let bound ← optional do
    word "extends" <|> symbol ":"
    g.innerType
  let default ← optional do
    symbol "="
    g.innerType
  return name :: bound.toList ++ default.toList

def typeParameters : Reader Tree :=
  node .typeExpression do
    exactly "<"
    let parameters ← separated g.typeParameter (symbol ",")
    let _ ← optional (symbol ",")
    symbol ">"
    return parameters.flatten

def typeParameters? : Reader (List Tree) := do
  if g.typed then return (← optional g.typeParameters).toList else return []

def annotation (place : Option Semicolon.Place) : Reader Tree := do
  symbol ":"
  g.read (.type place)

def annotation? (place : Option Semicolon.Place) : Reader (List Tree) := do
  if g.typed then return (← optional (g.annotation place)).toList else return []

def predicateSubject : Reader Tree :=
  wordLeaf .keyword "this" <|> nameLeaf .identifier

def typePredicate (place : Option Semicolon.Place) : Reader Tree :=
  node .typeExpression do
    let subject ← predicateSubject
    word "is"
    return [subject, ← g.read (.type place)]

def resultType (place : Option Semicolon.Place) : Reader Tree := do
  if (← nextName) == "asserts" then
    node .typeExpression do
      word "asserts"
      return [← g.typePredicate place <|> predicateSubject]
  else
    g.typePredicate place <|> g.read (.type place)

def resultType? (place : Option Semicolon.Place) : Reader (List Tree) := do
  if g.typed then
    let result ← optional do
      symbol ":"
      g.resultType place
    return result.toList
  else
    return []

/-! # Named types and types of values -/

/-- A type name, dotted or not.  An angle bracket behind it opens type arguments. -/
def namedType : Reader Tree := do
  let first ← nameLeaf .identifier
  let names ← dottedTail
  let named :=
    match names.getLast? with
    | none => first.withKind .typeName
    | some last =>
        .node .typeExpression none first.start last.stop
          [Dotted.whole .dottedName first names.dropLast, last.withKind .typeName]
  if ← accepts (symbolBefore "<" ['<', '=']) then
    let types ← g.typeArguments
    return .node .typeExpression none named.start types.stop [named, types]
  else
    return named

def queryStep (place : Option Semicolon.Place) (object : Tree) :
    Reader Tree := do
  require (!(← g.typeEnds place))
  let access := do
    symbol "?." <|> symbol "."
    let name ← memberName
    let property := if object.kind == .queriedMember then name else name.withField .property
    return Tree.node .queriedMember none object.start (← offset)
      [object.withField .object, property]
  let element := extend .subscript object do
    let _ ← optional (symbol "?.")
    symbol "["
    let index ← stringLiteral <|> numberLiteral <|> nameLeaf .typeName
    symbol "]"
    return [index]
  let call := extend .call (object.withField .callee) (return [← g.read .arguments])
  access <|> element <|> call

def typeQuery (place : Option Semicolon.Place) : Reader Tree :=
  node .typeExpression do
    word "typeof"
    let first ← wordLeaf .keyword "this" <|> wordLeaf .keyword "import" <|> nameLeaf .identifier
    let value ← grow (g.queryStep place) first
    return value :: (← g.typeArguments?)

def importedType : Reader Tree := do
  let first ← wordLeaf .keyword "import"
  let called ← extend .call (first.withField .callee) (return [← g.read .arguments])
  grow (fun object => do
    symbol "."
    let name ← memberName
    return .node .member none object.start (← offset)
      [object.withField .object, name.withField .property]) called

/-! # Composite types -/

def functionType (place : Option Semicolon.Place) : Reader Tree :=
  node .typeExpression do
    let generic ← g.typeParameters?
    let parameters ← g.read .parameters
    symbol "=>"
    return generic ++ [parameters, ← g.resultType place]

def constructorType (place : Option Semicolon.Place) : Reader Tree :=
  node .typeExpression do
    let _ ← optional (word "abstract")
    word "new"
    return [← g.functionType place]

def parenthesizedType : Reader Tree :=
  node .typeExpression do
    exactly "("
    let inner ← g.innerType
    symbol ")"
    return [inner]

def tupleMember : Reader (List Tree) := do
  gap
  let labelled := do
    let name ← nameLeaf .identifier
    let _ ← optional (symbol "?")
    return [name, ← g.annotation none]
  let spread := do
    exactly "..."
    labelled <|> (return [← g.innerType])
  let plain := do
    let type ← g.innerType
    let _ ← optional (symbol "?")
    return [type]
  spread <|> labelled <|> plain

def tupleType : Reader Tree :=
  node .typeExpression do
    exactly "["
    let members ← optional (separated g.tupleMember (symbol ","))
    let _ ← optional (symbol ",")
    symbol "]"
    return (members.getD []).flatten

def templateType : Reader Tree :=
  node .typeExpression do
    exactly "\x60"
    let substitutions ← many do
      match Lexeme.templateLength? (← remaining) with
      | some length => skip length
      | none => refuse
      exactly "$\x7b"
      let type ← g.innerType
      symbol "\x7d"
      return type
    match Lexeme.templateLength? (← remaining) with
    | some length => skip length
    | none => refuse
    exactly "\x60"
    return substitutions

def indexSignature (place : Option Semicolon.Place) : Reader (List Tree) := do
  let _ ← optional do
    let _ ← optional (symbol "-" <|> symbol "+")
    word "readonly"
  symbol "["
  let mapped := do
    let name ← nameLeaf .typeName
    word "in"
    let keys ← g.innerType
    let renamed ← optional do
      word "as"
      g.innerType
    return name :: keys :: renamed.toList
  let indexed := do
    let name ← nameLeaf .identifier
    return [name, ← g.annotation none]
  let inner ← indexed <|> mapped
  symbol "]"
  gap
  exactly "-?:" <|> exactly "+?:" <|> exactly "?:" <|> exactly ":"
  return inner ++ [← g.read (.type place)]

def signature (place : Option Semicolon.Place) :
    Reader (List Tree) := do
  let generic ← g.typeParameters?
  let parameters ← g.read .parameters
  return generic ++ parameters :: (← g.resultType? place)

/--
Takes a word in front of a key, where another key follows it; elsewhere the word
is the key itself.  `closable` says that a field may end behind the word.
-/
def modifier (closable : Bool) (words : List String) : Reader Unit := do
  let text ← name
  require (words.contains text)
  if closable then
    require (!(← seesEnd g.dialect { valued := false }))
  match ← nextChar with
  | some c => require (startsKey c)
  | none => refuse

/--
Takes what may stand right before the key of a method: `get` or `set`, or the
star of a generator.
-/
def methodMark (closable : Bool) : Reader Unit := do
  let accessor := do
    g.modifier closable ["get", "set"]
    require ((← nextChar) != some '*')
  let _ ← optional (accessor <|> symbol "*")
  return ()

/-- Takes at most one word of each group, group after group. -/
def modifiers (closable : Bool) (groups : List (List String)) : Reader Unit := do
  let _ ← groups.mapM fun words => optional (g.modifier closable words)
  return ()

def accessWords : List String :=
  ["public", "private", "protected"]

def modifier? (words : List String) : Reader Unit := do
  let _ ← optional (g.modifier true words)
  return ()

def typeMember : Reader (List Tree) := do
  let place : Option Semicolon.Place := some { valued := false }
  let constructs := do
    let _ ← optional (word "abstract")
    word "new"
    let next ← nextChar
    require (next == some '(' || next == some '<')
    g.signature place
  let named := do
    let key ← g.key
    let _ ← optional (symbolBefore "?" ['.'])
    return key
  let method := do
    g.modifier? ["async"]
    g.methodMark true
    let key ← named
    return key :: (← g.signature place)
  let property := do
    let key ← named
    return key :: (← g.annotation? place)
  let member := do
    require ((← nextName) != "abstract")
    g.modifiers true [accessWords, ["static"], ["override"], ["readonly"]]
    method <|> property
  gap
  g.indexSignature place <|> constructs <|> member <|> g.signature place

def typeMemberEnd : Reader Unit :=
  symbol "," <|> g.finish false

def objectType : Reader Tree :=
  node .typeExpression do
    exactly "\x7b"
    let members ← optional do
      let _ ← optional (symbol "," <|> symbol ";")
      let members ← separated (g.typeMember) g.typeMemberEnd
      let _ ← optional g.typeMemberEnd
      return members
    symbol "\x7d"
    return (members.getD []).flatten

/-! # Operands and operators -/

def signedNumber : Reader Tree :=
  leaf .literal do
    exactly "-" <|> exactly "+"
    numberLiteral

def primaryType (place : Option Semicolon.Place) :
    Reader Tree := do
  gap
  let text ← nextName
  match (← remaining).head? with
  | some '(' => g.functionType place <|> g.parenthesizedType
  | some '<' => g.functionType place
  | some '{' => g.objectType
  | some '[' => g.tupleType
  | some '"' => stringLiteral
  | some '\'' => stringLiteral
  | some '\x60' => g.templateType
  | some '-' => signedNumber
  | some '+' => signedNumber
  | some '*' => leaf .typeExpression (exactly "*")
  | some c =>
      if c.isDigit || c == '.' then numberLiteral
      else if text == "new" || text == "abstract" then g.constructorType place
      else if text == "typeof" then g.typeQuery place
      else if text == "this" || text == "const" || builtInTypes.contains text then
        leaf .keyword name
      else if literalTypes.contains text then leaf .literal name
      else if text == "unique" then
        leaf .keyword do
          word "unique"
          word "symbol"
      else if ["keyof", "readonly", "infer", "import"].contains text then refuse
      else g.namedType
  | none => refuse

def typeSuffix (place : Option Semicolon.Place) (inner : Tree) : Reader Tree := do
  require (!(← g.typeEnds place))
  extend .typeExpression inner do
    symbol "["
    let index ← optional g.innerType
    symbol "]"
    return index.toList

def typeOperand (place : Option Semicolon.Place) :
    Reader Tree := do
  let _ ← many (symbol "|" <|> symbol "&")
  let text ← nextName
  if text == "keyof" then
    node .typeExpression do
      word "keyof"
      let next ← nextName
      require (!(["readonly", "infer", "import"].contains next))
      return [← g.read (.typeOperand place)]
  else if text == "readonly" then
    node .typeExpression do
      word "readonly"
      return [← g.read (.typeOperand place)]
  else if text == "infer" then
    node .typeExpression do
      word "infer"
      let bound ← nameLeaf .typeName
      let limit ← optional do
        word "extends"
        g.read (.typeOperand place)
      return bound :: limit.toList
  else if text == "import" then
    g.importedType
  else if (← nextChar) == some '?' then
    node .typeExpression do
      exactly "?"
      return [← g.read (.typeOperand place)]
  else
    let first ← g.primaryType place
    grow (g.typeSuffix place) first

def typeUnion (place : Option Semicolon.Place) : Reader Tree := do
  let first ← g.read (.typeOperand place)
  grow (fun left => extend .typeExpression left do
    symbol "|" <|> symbol "&"
    return [← g.read (.typeOperand place)]) first

def type (place : Option Semicolon.Place) : Reader Tree := do
  let first ← g.typeUnion place
  let condition := do
    require (!(← g.typeEnds place))
    word "extends"
    let bound ← g.typeUnion none
    symbol "?"
    let positive ← g.innerType
    symbol ":"
    return [bound, positive, ← g.read (.type place)]
  match ← optional (extend .typeExpression first condition) with
  | some conditional => return conditional
  | none => return first

end Grammar
end Script
end WebCompat
