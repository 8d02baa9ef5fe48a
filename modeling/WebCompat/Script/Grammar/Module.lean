import WebCompat.Script.Grammar.Declaration

/-!
# Imports and exports
-/

namespace WebCompat
namespace Script
namespace Grammar

open Reader

variable (g : Grammar)

def fromClause : Reader Tree := do
  word "from"
  stringLiteral

def entityName : Reader Tree :=
  stringLiteral <|> nameLeaf .identifier

def entities (item : Reader (List Tree)) : Reader (List Tree) := do
  symbol "\x7b"
  let items ← optional do
    let items ← separated item (symbol ",")
    let _ ← optional (symbol ",")
    return items
  symbol "\x7d"
  return (items.getD []).flatten

def exportedEntity : Reader (List Tree) := do
  let name ← entityName
  let given ← optional do
    word "as"
    entityName
  return name :: given.toList

def importedEntity : Reader (List Tree) := do
  let renamed := do
    let name ← entityName
    word "as"
    return [name, ← nameLeaf .identifier]
  renamed <|> return [← nameLeaf .identifier]

def entity (item : Reader (List Tree)) : Reader (List Tree) := do
  let plain := do
    let trees ← item
    let next ← nextChar
    require (next == some ',' || next == some '}')
    return trees
  let typeOnly := do
    require g.typed
    word "type" <|> word "typeof"
    plain
  plain <|> typeOnly

/-! # Imports -/

def namespaceImport : Reader (List Tree) := do
  symbol "*"
  word "as"
  return [← nameLeaf .identifier]

def importClause : Reader (List Tree) := do
  let several := namespaceImport <|> entities (g.entity importedEntity)
  let default := do
    let name ← nameLeaf .identifier
    let others ← optional do
      symbol ","
      several
    return name :: others.getD []
  several <|> default

def requireClause : Reader (List Tree) := do
  require g.typed
  let name ← nameLeaf .identifier
  symbol "="
  word "require"
  symbol "("
  let source ← stringLiteral
  symbol ")"
  return [name, source]

def importStatement : Reader Tree :=
  node .statement do
    word "import"
    let bound := do
      let names ← g.importClause
      return names ++ [← fromClause]
    let source := do
      return [← stringLiteral]
    let any := bound <|> g.requireClause <|> source
    let typeOnly := do
      require g.typed
      word "type" <|> word "typeof"
      any
    let imported ← any <|> typeOnly
    let attributes ← optional do
      word "with"
      let tree ← g.object
      require tree.isValue
      return tree
    g.finish false
    return imported ++ attributes.toList

/-! # Exports -/

def listExport : Reader (List Tree) := do
  let everything := do
    symbol "*"
    let name ← optional do
      word "as"
      entityName
    return name.toList ++ [← fromClause]
  let listed := do
    if g.typed then
      let _ ← optional (word "type")
    let items ← entities (g.entity exportedEntity)
    return items ++ (← optional fromClause).toList
  let exported ← everything <|> listed
  g.finish false
  return exported

def typedExport : Reader (List Tree) := do
  require g.typed
  let value := do
    symbolBefore "=" ['=', '>']
    let value ← g.expression .final
    g.finish true
    return [value]
  let space := do
    word "as"
    word "namespace"
    let name ← nameLeaf .identifier
    g.finish false
    return [name]
  value <|> space

def defaultExport : Reader (List Tree) := do
  word "default"
  let value := do
    let value ← g.expression .final
    g.finish true
    return value
  return [← g.declaration <|> value]

def exportStatement : Reader Tree :=
  node .statement do
    let decorations ← g.decorators
    word "export"
    require (!(← seesEnd g.dialect { valued := true }))
    let declared := do
      return decorations ++ (← g.defaultExport <|> (return [← g.declaration]))
    if decorations.isEmpty then
      g.listExport <|> g.typedExport <|> declared
    else
      declared

end Grammar
end Script
end WebCompat
