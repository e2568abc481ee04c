/-
This file writes numbers as directives ask for them: whole numbers to the base of ten, eight or
sixteen, other numbers with a fixed count of decimal places, with a power of ten, or in the more
readable of both forms.
-/

import Bindery.Decimal.Significant

namespace Bindery.Template

/-- Digits of a whole number to a base of at most sixteen, at least `least` of them, behind its
sign and the mark of the base. -/
def wholeText (base : Nat) (mark : List Char) (least : Nat) (value : Int) : List Char :=
  let digits := Nat.toDigits base value.natAbs
  (if value < 0 then ['-'] else []) ++ mark ++
    List.replicate (least - digits.length) '0' ++ digits

/-- Digits without the zeros at their end. -/
def withoutZeros (digits : List Char) : List Char :=
  (digits.reverse.dropWhile (· == '0')).reverse

/-- The point and the digits behind it. A point without digits appears only if it is wanted. -/
def fractionText (pointed : Bool) (digits : List Char) : List Char :=
  if digits = [] ∧ ¬ pointed then [] else '.' :: digits

/-- Digits with a power of ten. -/
def scientific (pointed : Bool) (digits : Decimal.Digits) : List Char :=
  digits.shown.take 1 ++ fractionText pointed (digits.shown.drop 1) ++
    Decimal.powerText digits.power

/-- Digits at their places. -/
def positional (pointed : Bool) (digits : Decimal.Digits) : List Char :=
  let (front, back) := digits.positional
  front ++ fractionText pointed back

/-- A number in the form of a letter, without its sign: `f` for a fixed count of places, `e` for
a power of ten, `g` for `count` digits, positional while the first of them stands before the
last one and no further than four places after the point. -/
def realText (letter : Char) (pointed : Bool) (count : Nat) (value : Decimal.Binary) :
    List Char :=
  if letter = 'f' then
    (Decimal.pointed count (value.scaled count)).toList ++
      (if count = 0 ∧ pointed then ['.'] else [])
  else if letter = 'e' then scientific pointed (value.significant (count + 1))
  else
    let count := max count 1
    let digits := value.significant count
    let kept : Decimal.Digits :=
      if pointed then digits
      else { digits with shown := digits.shown.take 1 ++ withoutZeros (digits.shown.drop 1) }
    if -4 ≤ digits.power ∧ digits.power < count then positional pointed kept
    else scientific pointed kept

end Bindery.Template
