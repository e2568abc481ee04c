/-
This file relates binary floating-point numbers of 64 bits to exact fractions. A finite number
is a whole number times a power of two; back again, a fraction goes to the nearest number, and
one halfway between two numbers to the one whose last bit is clear.
-/

import Bindery.Decimal.Rounding

namespace Bindery.Decimal

/-- A finite value with its sign: the significand times two to the power of the exponent. -/
structure Binary where
  negative : Bool
  significand : Nat
  exponent : Int
deriving Repr, DecidableEq

namespace Binary

/-- The exact value of a finite number in the format of 64 bits. -/
def ofBits (bits : UInt64) : Binary :=
  let word := bits.toNat
  let fraction := word % twoTo 52
  let field := word / twoTo 52 % twoTo 11
  { negative := word / twoTo 63 = 1
    significand := if field = 0 then fraction else fraction + twoTo 52
    exponent := (if field = 0 then (1 : Int) else Int.ofNat field) - 1075 }

/-- The exact value of a finite number. -/
def ofFloat (value : Float) : Binary := ofBits value.toBits

/-- The magnitude as a numerator and a denominator. -/
def fraction (value : Binary) : Nat × Nat :=
  if 0 ≤ value.exponent then (value.significand * twoTo value.exponent.toNat, 1)
  else (value.significand, twoTo (-value.exponent).toNat)

/-- Whether two values are the same number. Zero has no sign here. -/
def isEqual (first second : Binary) : Bool :=
  first.fraction.1 * second.fraction.2 = second.fraction.1 * first.fraction.2 ∧
    (first.negative = second.negative ∨ first.significand = 0)

/-- The whole number that a value has before its point, towards zero. -/
def whole (value : Binary) : Int :=
  let magnitude : Int := value.fraction.1 / value.fraction.2
  if value.negative then -magnitude else magnitude

/-- Whether nothing but zeros follow the point. -/
def isWhole (value : Binary) : Bool := value.fraction.1 % value.fraction.2 = 0

end Binary

/-- A fraction in units of a power of two, rounded. -/
def inUnits (numerator denominator : Nat) (exponent : Int) : Nat :=
  if 0 ≤ exponent then roundDiv numerator (denominator * twoTo exponent.toNat)
  else roundDiv (numerator * twoTo (-exponent).toNat) denominator

/-- The power of two that is the greatest one not above a positive fraction. -/
def leadingPower (numerator denominator : Nat) : Int :=
  let guess : Int := (numerator.log2 : Int) - denominator.log2
  let reached : Bool :=
    if 0 ≤ guess then denominator * twoTo guess.toNat ≤ numerator
    else denominator ≤ numerator * twoTo (-guess).toNat
  if reached then guess else guess - 1

/-- The number nearest to a fraction. Fractions beyond the greatest number go to infinity.

The last bit of a number counts 52 places behind its first one, but never less than the smallest
positive number; both fields of the format together are then a count of such units, so that
rounding up to the next power of two carries into the exponent by itself. -/
def nearest (negative : Bool) (numerator denominator : Nat) : Float :=
  let word :=
    if numerator = 0 then 0
    else
      let unit := max (leadingPower numerator denominator - 52) (-1074)
      (unit + 1074).toNat * twoTo 52 + inUnits numerator denominator unit
  let magnitude := min word (2047 * twoTo 52)
  Float.ofBits (UInt64.ofNat (if negative then twoTo 63 + magnitude else magnitude))

/-- The number nearest to a whole number, if that is not beyond all of them. -/
def nearestWhole? (value : Int) : Option Float :=
  let number := nearest (value < 0) value.natAbs 1
  if number.isInf then none else some number

/-- The number nearest to digits with a power of ten. -/
def nearestDecimal (negative : Bool) (digits : Nat) (power : Int) : Float :=
  let size : Int := digits.log2
  -- the power of ten is at least the power of eight, so these results are certain
  if digits = 0 ∨ size + 3 * power < -1200 then nearest negative 0 1
  else if 0 ≤ power ∧ 1200 < size + 3 * power then nearest negative (twoTo 1024) 1
  else if 0 ≤ power then nearest negative (digits * tenTo power.toNat) 1
  else nearest negative digits (tenTo (-power).toNat)

end Bindery.Decimal
