import WebCompat.Number.Binary

/-!
# Shortest decimals

The decimal of a floating-point number is the one with the fewest digits that
rounds back to the number; of several the nearest.
-/

namespace WebCompat
namespace Number

structure Decimal where
  digits : Nat
  power : Int
deriving DecidableEq, Repr

def leadingPower (numerator denominator : Nat) : Int :=
  let rough : Int :=
    ((Nat.toDigits 10 numerator).length : Int) - (Nat.toDigits 10 denominator).length
  let reached :=
    if 0 ≤ rough then denominator * Nat.pow 10 rough.toNat ≤ numerator
    else denominator ≤ numerator * Nat.pow 10 (-rough).toNat
  if reached then rough else rough - 1

def Decimal.quotient (decimal : Decimal) : Nat × Nat :=
  if 0 ≤ decimal.power then (decimal.digits * Nat.pow 10 decimal.power.toNat, 1)
  else (decimal.digits, Nat.pow 10 (-decimal.power).toNat)

def Decimal.roundsTo (format : Format) (number : Magnitude) (decimal : Decimal) : Bool :=
  let (numerator, denominator) := decimal.quotient
  format.round numerator denominator == number

def neighbours (numerator denominator : Nat) (power : Int) : Decimal × Decimal :=
  let floor :=
    if 0 ≤ power then numerator / (denominator * Nat.pow 10 power.toNat)
    else numerator * Nat.pow 10 (-power).toNat / denominator
  (⟨floor, power⟩, ⟨floor + 1, power⟩)

def isNearerAbove (numerator denominator : Nat) (lower : Decimal) : Bool :=
  let (top, bottom) := lower.quotient
  let step :=
    if 0 ≤ lower.power then Nat.pow 10 lower.power.toNat * bottom * denominator
    else denominator
  step < 2 * (numerator * bottom - top * denominator)

/-- The decimals that round to a number, from few digits to many, starting at a power of ten. -/
def shortestFrom (format : Format) (number : Magnitude) (numerator denominator : Nat)
    (power : Int) : Nat → Decimal
  | 0 => (neighbours numerator denominator power).1
  | more + 1 =>
      let (lower, upper) := neighbours numerator denominator power
      let fromBelow := lower.roundsTo format number
      let fromAbove := upper.roundsTo format number
      if fromBelow && fromAbove then
        if isNearerAbove numerator denominator lower then upper else lower
      else if fromBelow then lower
      else if fromAbove then upper
      else shortestFrom format number numerator denominator (power - 1) more

def shortest (format : Format) (significand : Nat) (exponent : Int) : Decimal :=
  if significand = 0 then ⟨0, 0⟩
  else
    let (numerator, denominator) :=
      if 0 ≤ exponent then (significand * Nat.pow 2 exponent.toNat, 1)
      else (significand, Nat.pow 2 (-exponent).toNat)
    shortestFrom format (.finite significand exponent) numerator denominator
      (leadingPower numerator denominator) format.precision

/-! # Writing decimals -/

def Decimal.positional (decimal : Decimal) : String :=
  let digits := Nat.toDigits 10 decimal.digits
  if 0 ≤ decimal.power then
    String.ofList (digits ++ List.replicate decimal.power.toNat '0')
  else
    let places := (-decimal.power).toNat
    let padded := List.replicate (places + 1 - digits.length) '0' ++ digits
    let whole := padded.take (padded.length - places)
    String.ofList (whole ++ '.' :: padded.drop (padded.length - places))

/--
The digits of a decimal, always with a point or an exponent: positional from
five zeros behind the point up to thirteen digits before it.
-/
def Decimal.scientific (decimal : Decimal) : String :=
  let digits := Nat.toDigits 10 decimal.digits
  let point : Int := digits.length + decimal.power
  if 0 ≤ decimal.power ∧ point ≤ 13 then decimal.positional ++ ".0"
  else if -6 < point ∧ point ≤ 13 then decimal.positional
  else
    let fraction := String.ofList (digits.drop 1)
    String.ofList (digits.take 1) ++ (if fraction.isEmpty then "" else "." ++ fraction) ++
      "e" ++ toString (point - 1)

namespace Floating

def sign (negative : Bool) : String :=
  if negative then "-" else ""

def text : Floating → String
  | undefined => "NaN"
  | signed negative .infinite => sign negative ++ "inf"
  | signed negative (.finite significand exponent) =>
      sign negative ++ (shortest .single significand exponent).positional

/-- A single-precision number as a JSON literal; what is not a number is `null`. -/
def literal : Floating → String
  | undefined => "null"
  | signed _ .infinite => "null"
  | signed negative (.finite significand exponent) =>
      sign negative ++ (shortest .single significand exponent).scientific

end Floating
end Number
end WebCompat
