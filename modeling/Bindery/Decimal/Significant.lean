/-
This file writes binary floating-point numbers by their significant digits: a first digit, the
digits behind it and a power of ten. Either the count of digits is given, and the exact value is
rounded to that many, or it is the least count from which the number can be read back.
-/

import Bindery.Decimal.Fixed

namespace Bindery.Decimal

/-- Decimal digits, the first of them at the place of `power`. -/
structure Digits where
  shown : List Char
  power : Int
deriving Repr, DecidableEq

/-- Decimal digits of a whole number. -/
def digitsOf (value : Nat) : List Char := (toString value).toList

/-- The place of the first digit of a positive fraction. The fraction is scaled to a number
that has that digit before its point. -/
def leadingPlace (numerator denominator : Nat) : Int :=
  let shift := denominator.log2
  ((digitsOf (numerator * tenTo shift / denominator)).length : Int) - 1 - shift

/-- A fraction in units of a power of ten, as a numerator and a denominator. -/
def perPlace (numerator denominator : Nat) (place : Int) : Nat × Nat :=
  if 0 ≤ place then (numerator, denominator * tenTo place.toNat)
  else (numerator * tenTo (-place).toNat, denominator)

/-- The magnitude rounded to `count` digits; zero has zeros only. -/
def Binary.significant (value : Binary) (count : Nat) : Digits :=
  if value.significand = 0 then ⟨List.replicate count '0', 0⟩
  else
    let (numerator, denominator) := value.fraction
    let first := leadingPlace numerator denominator
    let (above, below) := perPlace numerator denominator (first - count + 1)
    let rounded := digitsOf (roundDiv above below)
    -- a run of nines rounds up to one more digit
    if rounded.length ≤ count then ⟨rounded, first⟩ else ⟨rounded.take count, first + 1⟩

/-! ### The least count of digits -/

/-- The numbers around a value that still round to it, in quarters of its last bit: how far down
and how far up they reach. Below a power of two the neighbours stand closer. -/
def Binary.reach (value : Binary) : Nat × Nat :=
  if value.significand = twoTo 52 ∧ -1074 < value.exponent then (1, 2) else (2, 2)

/-- The decimals next to a value in units of one place that round back to it, the nearer one
first; of two at the same distance the even one. The value, and how far down and up the decimals
may lie, are given over one denominator; `closed` tells whether those bounds count. -/
def candidate? (value down up denominator : Nat) (closed : Bool) : Option Nat :=
  let below := value / denominator
  let distance := value % denominator
  let fits (gap bound : Nat) : Bool := gap < bound || (closed && gap == bound)
  let lower := fits distance down
  let upper := fits (denominator - distance) up
  if lower && upper then some (roundDiv value denominator)
  else if lower then some below
  else if upper then some (below + 1)
  else none

/-- Tries counts of digits from `count` on. Seventeen digits always suffice. -/
def Binary.shortestFrom (value : Binary) (first : Int) : (fuel count : Nat) → Nat × Int
  | 0, count => (0, first - count + 1)
  | fuel + 1, count =>
    let place := first - count + 1
    let (numerator, denominator) := value.fraction
    let (above, below) := perPlace numerator denominator place
    -- the last bit in the same units: the value over its significand
    let bit := above / value.significand
    let (down, up) := value.reach
    match candidate? (4 * above) (down * bit) (up * bit) (4 * below)
        (value.significand % 2 = 0) with
    | some units => (units, place)
    | none => value.shortestFrom first fuel (count + 1)

/-- The fewest digits that read back as the value, and of those the nearest. -/
def Binary.shortest (value : Binary) : Digits :=
  if value.significand = 0 then ⟨['0'], 0⟩
  else
    let (units, place) :=
      value.shortestFrom (leadingPlace value.fraction.1 value.fraction.2) 17 1
    let all := digitsOf units
    let shown := (all.reverse.dropWhile (· == '0')).reverse
    ⟨shown, place + all.length - 1⟩

/-! ### Digits as text -/

/-- A power of ten in writing: its sign and at least two digits. -/
def powerText (power : Int) : List Char :=
  let shown := digitsOf power.natAbs
  'e' :: (if power < 0 then '-' else '+') ::
    (if shown.length < 2 then '0' :: shown else shown)

/-- Digits with a point behind the first one and the power of ten. -/
def Digits.scientific (digits : Digits) : List Char :=
  let rest := digits.shown.drop 1
  digits.shown.take 1 ++ (if rest = [] then [] else '.' :: rest) ++ powerText digits.power

/-- Digits at their places, with at least one digit before the point. -/
def Digits.positional (digits : Digits) : List Char × List Char :=
  if digits.power < 0 then
    (['0'], List.replicate (digits.power.natAbs - 1) '0' ++ digits.shown)
  else
    let count := digits.power.toNat + 1
    let front := digits.shown.take count
    (front ++ List.replicate (count - front.length) '0', digits.shown.drop count)

/-- A floating-point number in the shortest form that reads back as it. It is positional while
its first digit stands no further than sixteen places before and four places after the point,
and then has at least one digit after the point; else it has a power of ten. -/
def shortest (value : Float) : String :=
  match unbounded? value with
  | some text => text
  | none =>
    let exact := Binary.ofFloat value
    let digits := exact.shortest
    let body :=
      if -4 ≤ digits.power ∧ digits.power < 16 then
        let (front, back) := digits.positional
        front ++ '.' :: (if back = [] then ['0'] else back)
      else digits.scientific
    (if exact.negative then "-" else "") ++ String.ofList body

end Bindery.Decimal
