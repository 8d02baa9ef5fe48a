import WebCompat.Issue.Advice
import WebCompat.Json.Reader
import WebCompat.Text.Blank
import WebCompat.Text.Lines
import WebCompat.Text.Lowercase
import WebCompat.Text.Word

/-!
# Replies of the provider

A reply should be a JSON document with the fields of an advice, perhaps between
code fences.  Any other reply is taken as free text, in which each field is
searched by its label.  What cannot be found is filled in, so that every reply
gives an advice without blank fields.
-/

namespace WebCompat
namespace Reply

open Json (Value)

/-! ## Structured replies -/

def fence : List Char :=
  ['\x60', '\x60', '\x60']

def dropClosingFence (text : List Char) : List Char :=
  if fence.isSuffixOf text then text.take (text.length - fence.length) else text

/-- What stands behind the first newline, or everything where there is none. -/
def afterFirstLine (text : List Char) : List Char :=
  match text.dropWhile (· != '\n') with
  | [] => text
  | _ :: rest => rest

/-- The text between code fences, or all of the text where it has none; without outer blanks. -/
def unfenced (reply : List Char) : List Char :=
  let text := Text.trim reply
  if fence.isPrefixOf text then
    Text.trim (afterFirstLine (dropClosingFence (text.drop fence.length)))
  else text

/-- The texts that stand for the fields of an advice that a reply does not give. -/
def placeholder : Advice where
  alternative := "Modern alternative available"
  explanation := "This API has compatibility issues"
  codeExample := "// See documentation for examples"
  browserSupport := "Check MDN for browser support"

def orPlaceholder (default : String) (given : Option String) : String :=
  (given.filter fun text => !Text.isBlankText text).getD default

/-- The advice of a document, with defaults for what is missing, `null` or blank. -/
def ofDocument? (document : Value) : Option Advice := do
  let field ← document.record? Advice.fieldNames
  let text (name : String) := Value.optional? Value.text? (field name)
  return {
    alternative := orPlaceholder placeholder.alternative (← text "alternative")
    explanation := orPlaceholder placeholder.explanation (← text "explanation")
    codeExample := orPlaceholder placeholder.codeExample (← text "codeExample")
    browserSupport := orPlaceholder placeholder.browserSupport (← text "browserSupport") }

def structured? (reply : String) : Option Advice :=
  (Json.read? (String.ofList (unfenced reply.toList))).bind ofDocument?

/-! ## Free text -/

def occursIn (sought : List Char) : List Char → Bool
  | [] => sought.isEmpty
  | c :: rest => sought.isPrefixOf (c :: rest) || occursIn sought rest

def mentions (label : String) (line : List Char) : Bool :=
  occursIn (Text.lower label.toList) (Text.lower line)

def isNumbered (line : List Char) : Bool :=
  !(line.takeWhile Text.isDigit).isEmpty &&
    (line.dropWhile Text.isDigit).head? == some '.'

def endsSection (line : List Char) : Bool :=
  line.all Text.isBlank || isNumbered line || line.contains ':'

/--
The lines of a section.  It begins behind the first line with its label;
further lines with the label are passed over.
-/
def sectionLines (label : String) (inside : Bool) : List (List Char) → List (List Char)
  | [] => []
  | line :: rest =>
      if mentions label line then sectionLines label true rest
      else if inside then
        if endsSection line then [] else line :: sectionLines label true rest
      else sectionLines label false rest

def sectionText (text label : String) : String :=
  String.ofList <| Text.trim <| Text.joinLines <|
    sectionLines label false (Text.endedLines text.toList)

def sectionOr (default text label : String) : String :=
  let found := sectionText text label
  if found.isEmpty then default else found

def ofFreeText (reply : String) : Advice where
  alternative := sectionOr placeholder.alternative reply "alternative"
  explanation := sectionOr placeholder.explanation reply "explanation"
  codeExample := sectionOr placeholder.codeExample reply "codeExample"
  browserSupport := sectionOr placeholder.browserSupport reply "browserSupport"

def advice (reply : String) : Advice :=
  (structured? reply).getD (ofFreeText reply)

end Reply
end WebCompat
