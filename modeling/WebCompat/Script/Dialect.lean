/-!
# Script dialects

A script is read in one of three dialects.  They share one grammar; a dialect
says which of its two optional parts, type annotations and markup elements,
are switched on.
-/

namespace WebCompat
namespace Script

inductive Dialect where
  | javascript
  | typescript
  | tsx
deriving DecidableEq, Repr

namespace Dialect

def name : Dialect → String
  | javascript => "javascript"
  | typescript => "typescript"
  | tsx => "tsx"

def hasTypes : Dialect → Bool
  | javascript => false
  | typescript => true
  | tsx => true

def hasElements : Dialect → Bool
  | javascript => true
  | typescript => false
  | tsx => true

def all : List Dialect :=
  [javascript, typescript, tsx]

def ofName? (text : String) : Option Dialect :=
  all.find? fun dialect => dialect.name == text

theorem ofName?_name (dialect : Dialect) :
    ofName? dialect.name = some dialect := by
  cases dialect <;> decide

end Dialect
end Script
end WebCompat
