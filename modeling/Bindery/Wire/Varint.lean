/-
This file holds the variable-length numbers of the wire format: seven bits a byte, lowest
first, and every byte but the last marked by its high bit. The writer produces the shortest
form. The reader takes any form of at most a given number of bytes.
-/

import Bindery.Text.Utf8

namespace Bindery.Wire.Varint

/-! ### Writing -/

/-- The shortest form of a number. -/
def write (value : Nat) : List UInt8 :=
  if value < 0x80 then [UInt8.ofNat value]
  else UInt8.ofNat (value % 0x80 + 0x80) :: write (value / 0x80)
termination_by value
decreasing_by omega

/-! ### Reading -/

/-- A number of at most `limit` bytes with the bytes after it. There is none when the bytes end
within it or when it goes on beyond the limit. -/
def readUpTo : (limit : Nat) → List UInt8 → Option (Nat × List UInt8)
  | 0, _ => none
  | _, [] => none
  | limit + 1, byte :: rest =>
    if byte.toNat < 0x80 then some (byte.toNat, rest)
    else (readUpTo limit rest).map fun (high, left) => (byte.toNat - 0x80 + 0x80 * high, left)

/-- What a number leaves is shorter than what it was read from. -/
theorem length_lt_of_readUpTo {limit : Nat} {bytes left : List UInt8} {value : Nat}
    (found : readUpTo limit bytes = some (value, left)) : left.length < bytes.length := by
  induction limit generalizing bytes value left with
  | zero => simp [readUpTo] at found
  | succ limit shorter =>
    cases bytes with
    | nil => simp [readUpTo] at found
    | cons byte rest =>
      rw [readUpTo] at found
      split at found
      · cases found
        simp
      · obtain ⟨⟨high, after⟩, inner, same⟩ := Option.map_eq_some_iff.1 found
        cases same
        have := shorter inner
        simp only [List.length_cons]
        omega

/-- The longest form that a number of 64 bits needs. -/
def longest : Nat := 10

/-- How many numbers 64 bits can tell apart. -/
def range : Nat := 0x10000000000000000

/-- How many numbers 32 bits can tell apart. -/
def shortRange : Nat := 0x100000000

/-- A number of 64 bits. Ten bytes carry seventy bits; those beyond the sixty-fourth are
dropped. -/
def read? (bytes : List UInt8) : Option (Nat × List UInt8) :=
  (readUpTo longest bytes).map fun (value, left) => (value % range, left)

theorem length_lt_of_read? {bytes left : List UInt8} {value : Nat}
    (found : read? bytes = some (value, left)) : left.length < bytes.length := by
  obtain ⟨⟨wide, after⟩, inner, same⟩ := Option.map_eq_some_iff.1 found
  cases same
  exact length_lt_of_readUpTo inner

end Bindery.Wire.Varint
