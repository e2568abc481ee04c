/-
This file proves that a variable-length number is read back from the bytes that it was written
as, whatever follows them.

A reader takes a front of its bytes and never looks at the others. That is stated once, for any
reader, because it is what lets bytes that were received be read again in another place.
-/

import Bindery.Wire.Varint
import Bindery.Proofs.Text.Utf8

namespace Bindery.Wire

/-! ### Readers that take a front -/

/-- What a reader takes is a front of its bytes, and it takes the same from that front whatever
follows. -/
def TakesFront {Found : Type} (read : List UInt8 → Option (Found × List UInt8)) : Prop :=
  ∀ bytes left found, read bytes = some (found, left) →
    ∃ front, bytes = front ++ left ∧ ∀ other, read (front ++ other) = some (found, other)

namespace TakesFront

variable {Found Other : Type} {read : List UInt8 → Option (Found × List UInt8)}

theorem map (front : TakesFront read) (change : Found → Other) :
    TakesFront fun bytes => (read bytes).map fun (found, left) => (change found, left) := by
  intro bytes left found taken
  obtain ⟨⟨inner, after⟩, took, same⟩ := Option.map_eq_some_iff.1 taken
  cases same
  obtain ⟨first, rfl, again⟩ := front _ _ _ took
  exact ⟨first, rfl, fun other => by simp only [again, Option.map_some]⟩

/-- A reader that goes on behind another. -/
theorem andThen {next : Found → List UInt8 → Option (Other × List UInt8)}
    {both : List UInt8 → Option (Other × List UInt8)} (front : TakesFront read)
    (nextFront : ∀ found, TakesFront (next found))
    (fails : ∀ bytes, read bytes = none → both bytes = none)
    (goesOn : ∀ bytes found left, read bytes = some (found, left) →
      both bytes = next found left) : TakesFront both := by
  intro bytes left found taken
  cases took : read bytes with
  | none =>
    rw [fails _ took] at taken
    cases taken
  | some pair =>
    obtain ⟨inner, after⟩ := pair
    rw [goesOn _ _ _ took] at taken
    obtain ⟨first, rfl, firstAgain⟩ := front _ _ _ took
    obtain ⟨second, rfl, secondAgain⟩ := nextFront inner _ _ _ taken
    refine ⟨first ++ second, by simp, fun other => ?_⟩
    rw [List.append_assoc, goesOn _ _ _ (firstAgain _), secondAgain]

theorem failing : TakesFront fun _ => (none : Option (Found × List UInt8)) :=
  fun _ _ _ taken => by cases taken

end TakesFront

namespace Varint

theorem takesFront_readUpTo (limit : Nat) : TakesFront (readUpTo limit) := by
  induction limit with
  | zero => exact fun _ _ _ taken => by simp [readUpTo] at taken
  | succ limit inductionHypothesis =>
    intro bytes left value taken
    cases bytes with
    | nil => simp [readUpTo] at taken
    | cons byte rest =>
      rw [readUpTo] at taken
      split at taken
      next last =>
        cases taken
        exact ⟨[byte], rfl, fun other => by
          rw [List.singleton_append, readUpTo, if_pos last]⟩
      next goesOn =>
        obtain ⟨⟨high, after⟩, inner, same⟩ := Option.map_eq_some_iff.1 taken
        cases same
        obtain ⟨front, rfl, again⟩ := inductionHypothesis _ _ _ inner
        refine ⟨byte :: front, rfl, fun other => ?_⟩
        rw [List.cons_append, readUpTo, if_neg goesOn, again]
        rfl

theorem takesFront_read? : TakesFront read? :=
  (takesFront_readUpTo longest).map fun value => value % range

/-! ### Reading what was written -/

/-- How many numbers so many bytes can tell apart, each of which carries seven bits. -/
def capacity : (bytes : Nat) → Nat
  | 0 => 1
  | bytes + 1 => 0x80 * capacity bytes

theorem readUpTo_write {limit value : Nat} (small : value < capacity (limit + 1))
    (rest : List UInt8) : readUpTo (limit + 1) (write value ++ rest) = some (value, rest) := by
  induction limit generalizing value with
  | zero =>
    have last : value < 0x80 := small
    have byte : (UInt8.ofNat value).toNat = value := Text.toNat_ofNat_of_lt (by omega)
    rw [write, if_pos last, List.singleton_append, readUpTo, byte, if_pos last]
  | succ limit inductionHypothesis =>
    rw [write]
    split
    next last =>
      have byte : (UInt8.ofNat value).toNat = value := Text.toNat_ofNat_of_lt (by omega)
      rw [List.singleton_append, readUpTo, byte, if_pos last]
    next goesOn =>
      have byte : (UInt8.ofNat (value % 0x80 + 0x80)).toNat = value % 0x80 + 0x80 :=
        Text.toNat_ofNat_of_lt (by omega)
      have high : value / 0x80 < capacity (limit + 1) := Nat.div_lt_of_lt_mul small
      have whole : value % 0x80 + 0x80 - 0x80 + 0x80 * (value / 0x80) = value := by omega
      rw [List.cons_append, readUpTo, byte, if_neg (by omega), inductionHypothesis high,
        Option.map_some]
      exact congrArg (fun number => some (number, rest)) whole

theorem read?_write {value : Nat} (small : value < range) (rest : List UInt8) :
    read? (write value ++ rest) = some (value, rest) := by
  have wide : value < capacity (9 + 1) := Nat.lt_trans small (by decide)
  have whole : readUpTo longest (write value ++ rest) = some (value, rest) :=
    readUpTo_write wide rest
  rw [read?, whole, Option.map_some]
  exact congrArg (fun number => some (number, rest)) (Nat.mod_eq_of_lt small)

end Varint

end Bindery.Wire
