/-
This file proves that a text is read back from its bytes.

The bytes of a character are told apart by their ranges: the first byte says how many follow, and
the second one is such that no shorter form, no surrogate and nothing too large is accepted. So
the decoder takes from the front of the bytes exactly the character that was written there.
-/

import Bindery.Text.Utf8
import Mathlib.Data.List.TakeWhile

namespace Bindery.Text

/-! ### Bytes as numbers -/

theorem toNat_ofNat_of_lt {number : Nat} (small : number < 256) :
    (UInt8.ofNat number).toNat = number := by
  rw [UInt8.toNat_ofNat']
  exact Nat.mod_eq_of_lt small

theorem continues_iff (byte : UInt8) :
    continues byte = true ↔ 128 ≤ byte.toNat ∧ byte.toNat ≤ 191 := by
  simp [continues, UInt8.le_iff_toNat_le]

theorem followers?_eq (first : UInt8) :
    followers? first =
      if first.toNat < 128 then some 0
      else if first.toNat < 194 then none
      else if first.toNat < 224 then some 1
      else if first.toNat < 240 then some 2
      else if first.toNat < 245 then some 3
      else none := by
  simp [followers?, UInt8.lt_iff_toNat_lt]

theorem seconds_iff (first second : UInt8) :
    seconds first second = true ↔ continues second = true ∧
      (first.toNat = 224 → 160 ≤ second.toNat) ∧ (first.toNat = 237 → second.toNat < 160) ∧
      (first.toNat = 240 → 144 ≤ second.toNat) ∧ (first.toNat = 244 → second.toNat < 144) := by
  have same : ∀ value : UInt8, first = value ↔ first.toNat = value.toNat := fun value =>
    UInt8.toNat_inj.symm
  unfold seconds
  simp only [same, UInt8.le_iff_toNat_le, UInt8.lt_iff_toNat_lt]
  simp
  grind

theorem leadBits_eq (first : UInt8) :
    leadBits first =
      if first.toNat < 128 then first.toNat
      else if first.toNat < 224 then first.toNat % 32
      else if first.toNat < 240 then first.toNat % 16
      else first.toNat % 8 := by
  simp [leadBits, UInt8.lt_iff_toNat_lt]

/-! ### One character -/

/-- A first byte with as many bytes after it as it says, all of which may stand there, is a
character. -/
theorem decodeFirst_eq {first : UInt8} {others : List UInt8} (rest : List UInt8)
    (count : followers? first = some others.length)
    (fits : ∀ second more, others = second :: more →
      seconds first second = true ∧ ∀ byte ∈ more, continues byte = true) :
    decodeFirst first (others ++ rest) = .ok (assemble first others, rest) := by
  have taken : takeFollowers first others.length (others ++ rest) = others := by
    cases others with
    | nil =>
      unfold takeFollowers
      rfl
    | cons second more =>
      obtain ⟨allowed, continued⟩ := fits second more rfl
      have whole : (more ++ rest).take more.length = more := List.take_left
      show (if seconds first second = true then
        second :: ((more ++ rest).take more.length).takeWhile continues else []) = second :: more
      rw [if_pos allowed, whole, List.takeWhile_eq_self_iff.mpr continued]
  unfold decodeFirst
  rw [count]
  dsimp only
  rw [taken, if_pos rfl, List.drop_left]

/-- The byte that carries six bits of a character after its first byte. -/
def tailByte (bits : Nat) : UInt8 := UInt8.ofNat (bits + 128)

theorem toNat_tailByte {bits : Nat} (small : bits < 64) : (tailByte bits).toNat = bits + 128 :=
  toNat_ofNat_of_lt (by omega)

/-- A first byte and the six bits of each byte after it are read as the character that has the
bits in order. -/
theorem decodeFirst_tailBytes {c : Char} {first : UInt8} {tail : List Nat} (rest : List UInt8)
    (small : ∀ bits ∈ tail, bits < 64) (count : followers? first = some tail.length)
    (fits : ∀ bits more, tail = bits :: more → seconds first (tailByte bits) = true)
    (value : tail.foldl (fun value bits => value * 64 + bits) (leadBits first) = c.toNat) :
    decodeFirst first (tail.map tailByte ++ rest) = .ok (c, rest) := by
  have gathered : ∀ start, (tail.map tailByte).foldl
      (fun value byte => value * 0x40 + byte.toNat % 0x40) start =
        tail.foldl (fun value bits => value * 64 + bits) start := by
    clear count fits value
    induction tail with
    | nil => exact fun start => rfl
    | cons bits more inductionHypothesis =>
      intro start
      have inByte := small bits List.mem_cons_self
      have sixBits : (tailByte bits).toNat % 0x40 = bits := by
        rw [toNat_tailByte inByte]
        omega
      rw [List.map_cons, List.foldl_cons, List.foldl_cons, sixBits]
      exact inductionHypothesis (fun each member => small each (List.mem_cons_of_mem _ member)) _
  rw [decodeFirst_eq rest (by rw [count, List.length_map])]
  · rw [assemble, gathered, value, Char.ofNat_toNat]
  · intro second more same
    obtain ⟨bits, others, rfl, rfl, rfl⟩ := List.map_eq_cons_iff.mp same
    refine ⟨fits bits others rfl, fun byte member => ?_⟩
    obtain ⟨each, inside, rfl⟩ := List.mem_map.mp member
    have inByte := small each (List.mem_cons_of_mem _ inside)
    rw [continues_iff, toNat_tailByte inByte]
    omega

/-- A second byte may follow unless the first one is at an end of its range. -/
theorem seconds_tailByte {lead bits : Nat} (inLead : lead < 256) (small : bits < 64)
    (notLess : (lead = 224 → 32 ≤ bits) ∧ (lead = 240 → 16 ≤ bits))
    (notMore : (lead = 237 → bits < 32) ∧ (lead = 244 → bits < 16)) :
    seconds (UInt8.ofNat lead) (tailByte bits) = true := by
  rw [seconds_iff, continues_iff, toNat_ofNat_of_lt inLead, toNat_tailByte small]
  omega

/-- The numbers that are characters. -/
theorem toNat_range (c : Char) : c.toNat < 0xD800 ∨ 0xDFFF < c.toNat ∧ c.toNat < 0x110000 := by
  have valid := c.valid
  rwa [UInt32.isValidChar, Nat.isValidChar] at valid

/-- The bytes of a character are read as the character. -/
theorem decodeFirst_utf8EncodeChar (c : Char) (rest : List UInt8) :
    ∃ first others, String.utf8EncodeChar c = first :: others ∧
      decodeFirst first (others ++ rest) = .ok (c, rest) := by
  have range := toNat_range c
  have lead : ∀ {number : Nat}, number < 256 → (UInt8.ofNat number).toNat = number :=
    toNat_ofNat_of_lt
  by_cases oneByte : c.toNat ≤ 127
  · refine ⟨UInt8.ofNat c.toNat, [].map tailByte, if_pos oneByte, ?_⟩
    refine decodeFirst_tailBytes rest (by simp) ?_ (by simp) ?_
    · rw [followers?_eq, lead (by omega), if_pos (by omega), List.length_nil]
    · rw [List.foldl_nil, leadBits_eq, lead (by omega), if_pos (by omega)]
  by_cases twoBytes : c.toNat ≤ 2047
  · refine ⟨UInt8.ofNat (c.toNat / 64 % 32 + 192), [c.toNat % 64].map tailByte,
      (if_neg oneByte).trans (if_pos twoBytes), ?_⟩
    refine decodeFirst_tailBytes rest (by simp; omega) ?_ ?_ ?_
    · rw [followers?_eq, lead (by omega), if_neg (by omega), if_neg (by omega),
        if_pos (by omega)]
      rfl
    · rintro bits more same
      cases same
      exact seconds_tailByte (by omega) (by omega) (by omega) (by omega)
    · simp only [List.foldl_cons, List.foldl_nil]
      rw [leadBits_eq, lead (by omega), if_neg (by omega), if_pos (by omega)]
      omega
  by_cases threeBytes : c.toNat ≤ 65535
  · refine ⟨UInt8.ofNat (c.toNat / 4096 % 16 + 224),
      [c.toNat / 64 % 64, c.toNat % 64].map tailByte,
      (if_neg oneByte).trans ((if_neg twoBytes).trans (if_pos threeBytes)), ?_⟩
    refine decodeFirst_tailBytes rest (by simp; omega) ?_ ?_ ?_
    · rw [followers?_eq, lead (by omega), if_neg (by omega), if_neg (by omega),
        if_neg (by omega), if_pos (by omega)]
      rfl
    · rintro bits more same
      cases same
      exact seconds_tailByte (by omega) (by omega) (by omega) (by omega)
    · simp only [List.foldl_cons, List.foldl_nil]
      rw [leadBits_eq, lead (by omega), if_neg (by omega), if_neg (by omega), if_pos (by omega)]
      omega
  · refine ⟨UInt8.ofNat (c.toNat / 262144 % 8 + 240),
      [c.toNat / 4096 % 64, c.toNat / 64 % 64, c.toNat % 64].map tailByte,
      (if_neg oneByte).trans ((if_neg twoBytes).trans (if_neg threeBytes)), ?_⟩
    refine decodeFirst_tailBytes rest (by simp; omega) ?_ ?_ ?_
    · rw [followers?_eq, lead (by omega), if_neg (by omega), if_neg (by omega),
        if_neg (by omega), if_neg (by omega), if_pos (by omega)]
      rfl
    · rintro bits more same
      cases same
      exact seconds_tailByte (by omega) (by omega) (by omega) (by omega)
    · simp only [List.foldl_cons, List.foldl_nil]
      rw [leadBits_eq, lead (by omega), if_neg (by omega), if_neg (by omega), if_neg (by omega)]
      omega

/-! ### Whole texts -/

/-- A text is read back from its bytes, wherever they begin. -/
theorem decodeAt_encode (text : List Char) (position : Nat) :
    decodeAt position (encode text) = .ok text := by
  induction text generalizing position with
  | nil =>
    show decodeAt position [] = .ok []
    rw [decodeAt]
  | cons c text inductionHypothesis =>
    obtain ⟨first, others, shape, decoded⟩ := decodeFirst_utf8EncodeChar c (encode text)
    have bytes : encode (c :: text) = first :: (others ++ encode text) := by
      unfold encode
      rw [List.flatMap_cons, shape, List.cons_append]
    rw [bytes, decodeAt]
    split
    next failed => rw [decoded] at failed; cases failed
    next found left same =>
      rw [decoded] at same
      cases same
      rw [inductionHypothesis]
      rfl

theorem textOf_bytesOf (text : String) : textOf (bytesOf text) = .ok text := by
  show (decodeAt 0 (encode text.toList)).map String.ofList = _
  rw [decodeAt_encode]
  show Except.ok (String.ofList text.toList) = _
  rw [String.ofList_toList]

end Bindery.Text
