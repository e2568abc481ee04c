/-
This file names the powers that numbers are scaled by, those of ten for decimal places and those
of two for bits, and divides whole numbers with rounding: to the nearest whole number, where a
quotient halfway between two of them goes to the even one.
-/

namespace Bindery.Decimal

/-- One with `places` zeros behind it. -/
def tenTo (places : Nat) : Nat := Nat.pow 10 places

/-- How many numbers `bits` bits can tell apart. -/
def twoTo (bits : Nat) : Nat := Nat.pow 2 bits

/-- The quotient rounded to the nearest whole number, a half to the even neighbour. -/
def roundDiv (numerator denominator : Nat) : Nat :=
  let quotient := numerator / denominator
  let twice := 2 * (numerator % denominator)
  if twice < denominator then quotient
  else if denominator < twice then quotient + 1
  else quotient + quotient % 2

end Bindery.Decimal
