import WebCompat.Number.Binary

/-!
# Numbers in JSON documents

Number literals keep their spelling.  Two questions are asked of them: whether
reading them as double-precision numbers overflows, and whether they are plainly
written natural numbers.

A number is read as a word of 64 bits times a power of ten.  Digits that no longer
fit into the word are left out.  The word, the power and their product are rounded
one after the other, so that the reading is not always the nearest number, and the
limit of what can be read is not exactly that of double precision.
-/

namespace WebCompat
namespace Json

open Number (Format Magnitude)

def ofDigits (digits : List Char) : Nat :=
  digits.foldl (fun value digit => 10 * value + (digit.toNat - '0'.toNat)) 0

/-- A significand with the digits behind it that fit into the word, and those left out. -/
def takeDigits (significand : Nat) : List Char → Nat × List Char
  | [] => (significand, [])
  | digit :: rest =>
      let longer := 10 * significand + (digit.toNat - '0'.toNat)
      if longer < Nat.pow 2 64 then takeDigits longer rest else (significand, digit :: rest)

def staysFinite (significand power : Nat) : Bool :=
  match Format.double.round significand 1, Format.double.round (Nat.pow 10 power) 1 with
  | .finite first m, .finite second n =>
      Format.double.roundMagnitude (.finite (first * second) (m + n)) != .infinite
  | _, _ => false

/--
Whether a number literal can be read as a double-precision number.  No reading of
zero overflows, and no division by a power of ten.
-/
def isInRange (literal : String) : Bool :=
  let unsigned := literal.toList.filter (· != '-')
  let mantissa := unsigned.takeWhile fun c => c != 'e' && c != 'E'
  let (whole, surplus) := takeDigits 0 (mantissa.takeWhile (· != '.'))
  let fraction := (mantissa.dropWhile (· != '.')).drop 1
  let (significand, ignored) := takeDigits whole fraction
  let exponent := (literal.toList.dropWhile fun c => c != 'e' && c != 'E').drop 1
  let magnitude := ofDigits (exponent.filter Char.isDigit)
  let isNegative := exponent.head? == some '-'
  let shift : Int := surplus.length - (fraction.length - ignored.length)
  let power := if isNegative then shift - magnitude else shift + magnitude
  if significand = 0 then true
  -- An exponent that fits into no signed word of 32 bits is looked at no further.
  else if Nat.pow 2 31 ≤ magnitude then isNegative
  else power < 0 || power ≤ 308 && staysFinite significand power.toNat

def naturalBelow? (bound : Nat) (literal : String) : Option Nat :=
  let digits := literal.toList
  if digits.all Char.isDigit && !digits.isEmpty && ofDigits digits < bound then
    some (ofDigits digits)
  else none

end Json
end WebCompat
