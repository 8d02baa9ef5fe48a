/-!
# Binary floating-point numbers

A floating-point number is kept exactly, as a whole number times a power of
two.  Rounding to a format takes the nearest number of the format, and of two
that are equally near the one with the even significand.
-/

namespace WebCompat
namespace Number

structure Format where
  precision : Nat
  /-- The exponent of the smallest positive number. -/
  minExponent : Int
  /-- The largest exponent of a significand with all of its bits. -/
  maxExponent : Int

def Format.single : Format := ⟨24, -149, 104⟩

def Format.double : Format := ⟨53, -1074, 971⟩

inductive Magnitude where
  /-- The significand times two to the power of the exponent. -/
  | finite (significand : Nat) (exponent : Int)
  | infinite
deriving DecidableEq, Repr

inductive Floating where
  | signed (negative : Bool) (magnitude : Magnitude)
  | undefined
deriving DecidableEq, Repr

/-- The quotient of two natural numbers, rounded to the nearest, a half to the even one. -/
def roundDiv (numerator denominator : Nat) : Nat :=
  let quotient := numerator / denominator
  let twice := 2 * (numerator % denominator)
  if twice < denominator then quotient
  else if denominator < twice then quotient + 1
  else quotient + quotient % 2

def scale (numerator denominator : Nat) (exponent : Int) : Nat × Nat :=
  if 0 ≤ exponent then (numerator, denominator * Nat.pow 2 exponent.toNat)
  else (numerator * Nat.pow 2 (-exponent).toNat, denominator)

namespace Format

def exponentAt (format : Format) (numerator denominator : Nat) : Int :=
  let rough : Int := (numerator.log2 : Int) - denominator.log2 - format.precision
  let (top, bottom) := scale numerator denominator rough
  let exact := if top / bottom < Nat.pow 2 format.precision then rough else rough + 1
  max exact format.minExponent

def round (format : Format) (numerator denominator : Nat) : Magnitude :=
  if numerator = 0 then .finite 0 format.minExponent
  else
    let exponent := format.exponentAt numerator denominator
    let (top, bottom) := scale numerator denominator exponent
    let significand := roundDiv top bottom
    if significand = Nat.pow 2 format.precision then
      if format.maxExponent ≤ exponent then .infinite
      else .finite (Nat.pow 2 (format.precision - 1)) (exponent + 1)
    else if format.maxExponent < exponent then .infinite
    else .finite significand exponent

def roundMagnitude (format : Format) : Magnitude → Magnitude
  | .infinite => .infinite
  | .finite significand exponent =>
      if 0 ≤ exponent then format.round (significand * Nat.pow 2 exponent.toNat) 1
      else format.round significand (Nat.pow 2 (-exponent).toNat)

def roundDecimal (format : Format) (digits : Nat) (power : Int) : Magnitude :=
  if digits = 0 then .finite 0 format.minExponent
  else if 400 < power then .infinite
  else if power + digits.log2 < -400 then .finite 0 format.minExponent
  else if 0 ≤ power then format.round (digits * Nat.pow 10 power.toNat) 1
  else format.round digits (Nat.pow 10 (-power).toNat)

end Format

namespace Floating

def roundTo (format : Format) : Floating → Floating
  | undefined => undefined
  | signed negative magnitude => signed negative (format.roundMagnitude magnitude)

def ofInt (format : Format) (value : Int) : Floating :=
  signed (value < 0) (format.round value.natAbs 1)

end Floating
end Number
end WebCompat
