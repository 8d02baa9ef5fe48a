import WebCompat.Json.Printer

/-!
# Request targets

The target of a request is the normalised path of an address: segments of
single points are left out, a segment of two points takes back the segment
before it, and characters that may not stand in a path are percent-encoded.
-/

namespace WebCompat
namespace Target

def percent (byte : UInt8) : List Char :=
  let digit (value : Nat) : Char := (Json.hexDigit value).toUpper
  ['%', digit (byte.toNat / 16), digit (byte.toNat % 16)]

/-- A character as it stands in an address, where `isPlain` says which may stand for themselves. -/
def encode (isPlain : Char → Bool) (c : Char) : List Char :=
  if 0x20 < c.toNat && c.toNat < 0x7F && isPlain c then [c]
  else (String.singleton c).toUTF8.toList.flatMap percent

def isPathPlain (c : Char) : Bool :=
  !(['"', '#', '<', '>', '?', '\x60', '\x7b', '\x7d'].contains c)

def isQueryPlain (c : Char) : Bool :=
  !(['"', '#', '<', '>', '\''].contains c)

/-- The spellings of a segment that goes nowhere. -/
def isSingleDot (segment : String) : Bool :=
  [".", "%2e"].contains segment.toLower

/-- The spellings of a segment that goes back. -/
def isDoubleDot (segment : String) : Bool :=
  ["..", ".%2e", "%2e.", "%2e%2e"].contains segment.toLower

/-- The segments of a path, where `done` holds the ones before them, reversed. -/
def normalise (done : List String) : List String → List String
  | [] => done.reverse
  | [last] =>
      if isDoubleDot last then ("" :: done.drop 1).reverse
      else if isSingleDot last then ("" :: done).reverse
      else (last :: done).reverse
  | segment :: rest =>
      if isDoubleDot segment then normalise (done.drop 1) rest
      else if isSingleDot segment then normalise done rest
      else normalise (segment :: done) rest

def afterScheme? (address : List Char) : Option (List Char) :=
  let schemes := ["http:".toList, "https:".toList]
  (schemes.find? fun scheme => scheme.isPrefixOf (address.map Char.toLower)).map
    fun scheme => (address.drop scheme.length).dropWhile fun c => c == '/' || c == '\\'

def ofAddress? (address : String) : Option String := do
  let clean := (address.toList.filter fun c => c != '\t' && c != '\n' && c != '\r').dropWhile
    fun c => c.toNat ≤ 0x20
  let rest ← afterScheme? clean
  let host := rest.takeWhile fun c => !(['/', '\\', '?', '#'].contains c)
  guard (!host.isEmpty && !host.contains ' ')
  let place := (rest.drop host.length).takeWhile (· != '#')
  let path := place.takeWhile (· != '?')
  let query := place.drop path.length
  let segments :=
    ((path.drop 1).map fun c => if c = '\\' then '/' else c).splitOn '/'
  let normal := normalise [] (segments.map fun segment =>
    String.ofList (segment.flatMap (encode isPathPlain)))
  return "/" ++ "/".intercalate normal ++
    String.ofList (query.flatMap (encode isQueryPlain))

end Target
end WebCompat
