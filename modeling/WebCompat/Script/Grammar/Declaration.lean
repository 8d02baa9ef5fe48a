import WebCompat.Script.Grammar.Expression

/-!
# Declarations

Variables, functions, classes, and the declarations that only the dialects with
types have.
-/

namespace WebCompat
namespace Script
namespace Grammar

open Reader

variable (g : Grammar)

/-! # Variables -/

/-- One variable; also says whether its value is given. -/
def declarator : Reader (List Tree × Bool) := do
  let target ← g.binding
  let _ ← if g.typed then optional (symbolBefore "!" ['=']) else pure none
  let type ← g.annotation? (some { valued := false })
  let value ← g.initializer? .final
  return (target :: type ++ value, !value.isEmpty)

def declarators : Reader (List Tree) := do
  let declared ← separated g.declarator (symbol ",")
  g.finish ((declared.getLast?.map Prod.snd).getD false)
  return declared.flatMap Prod.fst

def variableDeclaration : Reader Tree :=
  node .declaration do
    word "var" <|> word "let" <|> word "const"
    g.declarators

/-! # Functions and classes -/

/--
The declaration of a function.  Where types are written, the body may be missing
unless the function is a generator.
-/
def functionDeclaration : Reader Tree :=
  node .declaration do
    let _ ← optional (word "async")
    word "function"
    let star ← optional (symbol "*")
    let name ← nameLeaf .identifier
    let place : Semicolon.Place := { valued := false, signature := true }
    let head ← g.signature (if star.isNone then some place else none)
    if g.typed && star.isNone && !(← sees "\x7b") then
      endOfStatement g.dialect place
      return name :: head
    else
      return name :: head ++ [← g.block]

/-- Whether the declaration of a function comes next, and not an expression. -/
def seesFunction : Reader Bool :=
  accepts do
    let _ ← optional do
      word "async"
      require (!(← seesEnd g.dialect { valued := true }))
    word "function"
    let _ ← optional (symbol "*")
    name

def classDeclaration : Reader Tree :=
  node .declaration do
    let decorations ← g.decorators
    if g.typed then
      let _ ← optional (word "abstract")
    word "class"
    return decorations ++ (← g.classRest true)

/-- Whether the declaration of a class comes next, and not an expression. -/
def seesClass : Reader Bool :=
  accepts do
    let _ ← g.decorators
    if g.typed then
      let _ ← optional (word "abstract")
    word "class"
    g.className

/-! # Types and namespaces -/

def typeAlias : Reader Tree :=
  node .declaration do
    word "type"
    require (!(← seesEnd g.dialect { valued := true }))
    let name ← nameLeaf .typeName
    let generic ← g.typeParameters?
    symbol "="
    let type ← g.read (.type (some { valued := false }))
    g.finish false
    return name :: generic ++ [type]

def interfaceDeclaration : Reader Tree :=
  node .declaration do
    word "interface"
    let name ← nameLeaf .typeName
    let generic ← g.typeParameters?
    let bases ← optional do
      word "extends"
      separated (g.namedType) (symbol ",")
    return name :: generic ++ bases.getD [] ++ [← g.objectType]

def enumMember : Reader (List Tree) := do
  openGap
  let key ← g.key
  return key :: (← g.initializer? .enclosed)

def enumDeclaration : Reader Tree :=
  node .declaration do
    let _ ← optional (word "const")
    word "enum"
    let name ← nameLeaf .identifier
    symbol "\x7b"
    let members ← optional do
      let members ← separated g.enumMember (symbol ",")
      let _ ← optional (symbol ",")
      return members
    openGap
    exactly "\x7d"
    return name :: (members.getD []).flatten

def namespaceDeclaration : Reader Tree :=
  node .declaration do
    word "namespace" <|> word "module"
    g.namespaceRest .final

def importAlias : Reader Tree :=
  node .declaration do
    word "import"
    let name ← nameLeaf .identifier
    symbol "="
    let target ← dottedName
    g.finish false
    return [name, target]

/-! # All declarations -/

def commonDeclaration : Reader Tree := do
  if ← g.seesFunction then g.functionDeclaration
  else if ← g.seesClass then g.classDeclaration
  else
    match ← nextName with
    | "var" => g.variableDeclaration
    | "let" => g.variableDeclaration
    | "const" => g.variableDeclaration
    | _ => refuse

def plainDeclaration : Reader Tree := do
  if g.typed then
    let isEnum ← accepts do
      let _ ← optional (word "const")
      word "enum"
    if isEnum then
      g.enumDeclaration
    else
      match ← nextName with
      | "type" => g.typeAlias
      | "interface" => g.interfaceDeclaration
      | "namespace" => g.namespaceDeclaration
      | "module" => g.namespaceDeclaration
      | "import" => g.importAlias
      | _ => g.commonDeclaration
  else
    g.commonDeclaration

def ambient : Reader Tree :=
  node .declaration do
    word "declare"
    require (!(← seesEnd g.dialect { valued := true }))
    let everywhere := do
      word "global"
      g.block
    let property := node .declaration do
      word "module"
      symbol "."
      let name ← nameLeaf .propertyName
      let type ← g.annotation (some { valued := false })
      g.finish false
      return [name, type]
    let repeated := do
      let _ ← many (word "declare")
      g.plainDeclaration
    return [← everywhere <|> property <|> repeated]

def declaration : Reader Tree := do
  if g.typed && (← nextName) == "declare" then g.ambient else g.plainDeclaration

end Grammar
end Script
end WebCompat
