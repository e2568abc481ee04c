/-
This file proves that bytes which are read as a text are the bytes of that text.

The reader takes a character where the bytes have its only form: as many bytes as the first one
says, none of which could be left out. So the character is written as the bytes that it was read
from, and nothing of what was received is lost in a text.
-/

import Bindery.Proofs.Text.Utf8

namespace Bindery.Text

/-! ### The bytes of one character -/

theorem takeFollowers_isPrefix (first : UInt8) (count : Nat) (rest : List UInt8) :
    takeFollowers first count rest <+: rest := by
  unfold takeFollowers
  split
  · exact List.nil_prefix
  · exact List.nil_prefix
  next count second more =>
    split
    · exact List.prefix_cons_iff.2 (.inr ⟨_, rfl,
        (List.takeWhile_prefix _).trans (List.take_prefix count more)⟩)
    · exact List.nil_prefix

theorem takeFollowers_fits {first second : UInt8} {count : Nat} {rest more : List UInt8}
    (taken : takeFollowers first count rest = second :: more) :
    seconds first second = true ∧ ∀ byte ∈ more, continues byte = true := by
  unfold takeFollowers at taken
  split at taken
  · cases taken
  · cases taken
  · split at taken
    next allowed =>
      cases taken
      exact ⟨allowed, fun byte member => List.mem_takeWhile_imp member⟩
    · cases taken

/-- A character is read from a first byte and as many bytes as it says, which may all stand where
they stand. -/
theorem exists_of_decodeFirst {first : UInt8} {rest left : List UInt8} {c : Char}
    (step : decodeFirst first rest = .ok (c, left)) :
    ∃ others, rest = others ++ left ∧ c = assemble first others ∧
      followers? first = some others.length ∧
      ∀ second more, others = second :: more →
        seconds first second = true ∧ ∀ byte ∈ more, continues byte = true := by
  unfold decodeFirst at step
  split at step
  · cases step
  next count followed =>
    dsimp only at step
    split at step
    next whole =>
      cases step
      have split := List.prefix_iff_eq_append.1 (takeFollowers_isPrefix first count rest)
      rw [whole] at split
      exact ⟨_, split.symm, rfl, by rw [followed, whole], fun second more => takeFollowers_fits⟩
    · split at step <;> cases step

/-! ### Written as it was read -/

/-- Bytes stand for the character of the bits that they carry together. -/
theorem toNat_assemble {first : UInt8} {others : List UInt8} {number : Nat}
    (gathered : others.foldl (fun value byte => value * 0x40 + byte.toNat % 0x40)
      (leadBits first) = number)
    (valid : number < 0xD800 ∨ 0xDFFF < number ∧ number < 0x110000) :
    (assemble first others).toNat = number := by
  rw [assemble, gathered, Char.ofNat, dif_pos valid]
  rfl

theorem ofNat_eq_of_toNat {byte : UInt8} {number : Nat} (same : number = byte.toNat) :
    UInt8.ofNat number = byte := by
  rw [same, UInt8.ofNat_toNat]

theorem utf8EncodeChar_eq (c : Char) :
    String.utf8EncodeChar c =
      if c.toNat ≤ 0x7F then [UInt8.ofNat c.toNat]
      else if c.toNat ≤ 0x7FF then
        [UInt8.ofNat (c.toNat / 64 % 0x20 + 0xC0), UInt8.ofNat (c.toNat % 0x40 + 0x80)]
      else if c.toNat ≤ 0xFFFF then
        [UInt8.ofNat (c.toNat / 4096 % 0x10 + 0xE0), UInt8.ofNat (c.toNat / 64 % 0x40 + 0x80),
          UInt8.ofNat (c.toNat % 0x40 + 0x80)]
      else
        [UInt8.ofNat (c.toNat / 262144 % 0x8 + 0xF0), UInt8.ofNat (c.toNat / 4096 % 0x40 + 0x80),
          UInt8.ofNat (c.toNat / 64 % 0x40 + 0x80), UInt8.ofNat (c.toNat % 0x40 + 0x80)] :=
  rfl

/-- Bytes that have the form of a character are those that it is written as. -/
theorem utf8EncodeChar_assemble {first : UInt8} {others : List UInt8}
    (count : followers? first = some others.length)
    (fits : ∀ second more, others = second :: more →
      seconds first second = true ∧ ∀ byte ∈ more, continues byte = true) :
    String.utf8EncodeChar (assemble first others) = first :: others := by
  have inByte := first.toNat_lt
  have leads := leadBits_eq first
  rw [followers?_eq] at count
  -- The number of bytes tells the range of the first one, and with it that of the character.
  match others with
  | [] =>
    have range : first.toNat < 128 := by grind
    have number := @toNat_assemble first [] first.toNat (by grind) (by omega)
    rw [utf8EncodeChar_eq, number, if_pos (by omega), ofNat_eq_of_toNat rfl]
  | [second] =>
    have range : 194 ≤ first.toNat ∧ first.toNat < 224 := by grind
    have low := (continues_iff second).1 ((seconds_iff first second).1 (fits _ _ rfl).1).1
    have number := @toNat_assemble first [second]
      (first.toNat % 32 * 64 + second.toNat % 64) (by grind) (by omega)
    rw [utf8EncodeChar_eq, number, if_neg (by omega), if_pos (by omega),
      @ofNat_eq_of_toNat first _ (by omega), @ofNat_eq_of_toNat second _ (by omega)]
  | [second, third] =>
    have range : 224 ≤ first.toNat ∧ first.toNat < 240 := by grind
    obtain ⟨allowed, continued⟩ := fits _ _ rfl
    obtain ⟨low, notShort, noSurrogate, -, -⟩ := (seconds_iff first second).1 allowed
    have low := (continues_iff second).1 low
    have lower := (continues_iff third).1 (continued third List.mem_cons_self)
    have number := @toNat_assemble first [second, third]
      ((first.toNat % 16 * 64 + second.toNat % 64) * 64 + third.toNat % 64)
      (by grind) (by omega)
    rw [utf8EncodeChar_eq, number, if_neg (by omega), if_neg (by omega), if_pos (by omega),
      @ofNat_eq_of_toNat first _ (by omega), @ofNat_eq_of_toNat second _ (by omega),
      @ofNat_eq_of_toNat third _ (by omega)]
  | [second, third, fourth] =>
    have range : 240 ≤ first.toNat ∧ first.toNat < 245 := by grind
    obtain ⟨allowed, continued⟩ := fits _ _ rfl
    obtain ⟨low, -, -, notShort, notLarge⟩ := (seconds_iff first second).1 allowed
    have low := (continues_iff second).1 low
    have lower := (continues_iff third).1 (continued third List.mem_cons_self)
    have lowest := (continues_iff fourth).1 (continued fourth (by simp))
    have number := @toNat_assemble first [second, third, fourth]
      (((first.toNat % 8 * 64 + second.toNat % 64) * 64 + third.toNat % 64) * 64 +
        fourth.toNat % 64) (by grind) (by omega)
    rw [utf8EncodeChar_eq, number, if_neg (by omega), if_neg (by omega), if_neg (by omega),
      @ofNat_eq_of_toNat first _ (by omega), @ofNat_eq_of_toNat second _ (by omega),
      @ofNat_eq_of_toNat third _ (by omega), @ofNat_eq_of_toNat fourth _ (by omega)]
  | _ :: _ :: _ :: _ :: _ => grind

/-! ### Whole texts -/

/-- Bytes that are read as a text, from wherever, are the bytes of the text. -/
theorem encode_of_decodeAt {position : Nat} {bytes : List UInt8} {text : List Char}
    (read : decodeAt position bytes = .ok text) : encode text = bytes := by
  fun_induction decodeAt position bytes generalizing text with
  | case1 =>
    cases read
    rfl
  | case2 => cases read
  | case3 position first rest c left step inductionHypothesis =>
    obtain ⟨others, rfl, rfl, count, fits⟩ := exists_of_decodeFirst step
    cases decoded : decodeAt (position + ((others ++ left).length + 1 - left.length)) left with
    | error fault =>
      rw [decoded] at read
      cases read
    | ok more =>
      rw [decoded] at read
      cases read
      unfold encode
      rw [List.flatMap_cons, utf8EncodeChar_assemble count fits, List.cons_append]
      exact congrArg (fun back => first :: (others ++ back)) (inductionHypothesis decoded)

theorem bytesOf_of_textOf {bytes : List UInt8} {text : String} (read : textOf bytes = .ok text) :
    bytesOf text = bytes := by
  cases decoded : decode bytes with
  | error fault =>
    rw [textOf, decoded] at read
    cases read
  | ok characters =>
    rw [textOf, decoded] at read
    cases read
    rw [bytesOf, String.toList_ofList]
    exact encode_of_decodeAt decoded

end Bindery.Text
