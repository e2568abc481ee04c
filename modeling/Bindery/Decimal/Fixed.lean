/-
This file writes binary floating-point numbers with a fixed count of decimal places. The value
of the number is taken exactly and rounded to the nearest decimal; a value halfway between two
decimals goes to the even one.
-/

import Bindery.Decimal.Binary

namespace Bindery.Decimal

/-- The magnitude in units of the last of `places` decimal places. -/
def Binary.scaled (value : Binary) (places : Nat) : Nat :=
  roundDiv (value.fraction.1 * tenTo places) value.fraction.2

/-- A count of units of the last of `places` places, as text. -/
def pointed (places units : Nat) : String :=
  let whole := toString (units / tenTo places)
  if places = 0 then whole
  else
    let fraction := toString (units % tenTo places)
    whole ++ "." ++ String.ofList (List.replicate (places - fraction.length) '0') ++ fraction

/-- A value with `places` decimal places. The sign is kept when nothing but zeros follow. -/
def Binary.fixed (value : Binary) (places : Nat) : String :=
  (if value.negative then "-" else "") ++ pointed places (value.scaled places)

/-- A number that is not finite, as text. -/
def unbounded? (value : Float) : Option String :=
  if value.isNaN then some "nan"
  else if value.isInf then some (if value < 0 then "-inf" else "inf")
  else none

/-- A floating-point number with `places` decimal places. -/
def fixed (places : Nat) (value : Float) : String :=
  (unbounded? value).getD ((Binary.ofFloat value).fixed places)

end Bindery.Decimal
