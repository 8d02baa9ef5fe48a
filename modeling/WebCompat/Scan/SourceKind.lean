import WebCompat.Failure
import WebCompat.Json.Value
import WebCompat.Path

/-!
# Kinds of sources

A source is a script of some dialect, or a markup document with scripts in it.
The kind of a file shows in the extension of its name.
-/

namespace WebCompat

open Script (Dialect)

inductive SourceKind where
  | script (dialect : Dialect)
  | markup
deriving DecidableEq, Repr

namespace SourceKind

def name : SourceKind → String
  | script dialect => dialect.name
  | markup => "markup"

def ofName? (text : String) : Option SourceKind :=
  if text = "markup" then some markup else (Dialect.ofName? text).map script

def toJson : SourceKind → Json.Value
  | script dialect => .object [("script", .string dialect.name)]
  | markup => .string "markup"

def extensions : List (String × SourceKind) := [
  ("js", script .javascript), ("jsx", script .javascript),
  ("mjs", script .javascript), ("cjs", script .javascript),
  ("ts", script .typescript), ("mts", script .typescript), ("cts", script .typescript),
  ("tsx", script .tsx),
  ("html", markup), ("htm", markup)]

def ofExtension (extension : String) : Except Failure SourceKind :=
  match extensions.lookup extension.toLower with
  | some kind => .ok kind
  | none => .error (.unknownExtension extension)

def ofPath (path : String) : Except Failure SourceKind :=
  match Path.extension? path with
  | some extension => ofExtension extension
  | none => .error (.unknownExtension "none")

end SourceKind
end WebCompat
