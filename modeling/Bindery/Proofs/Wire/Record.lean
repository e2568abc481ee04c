/-
This file proves that records are read again as they were read before, and that the record which
a value is written as is read back.

A record keeps the bytes that it was read from. They are a front of what was there, and they are
read in the same way whatever follows them, groups and all. So bytes that are put together from
such fronts split into the same records, wherever the records came from.
-/

import Bindery.Proofs.Wire.Varint
import Bindery.Wire.Encoding

namespace Bindery.Wire

/-! ### The parts of a record -/

theorem Tag.takesFront_read? : TakesFront Tag.read? := by
  have known : ∀ value, TakesFront fun left => (Tag.ofValue? value).map (·, left) := by
    intro value bytes left tag taken
    obtain ⟨_, valid, same⟩ := Option.map_eq_some_iff.1 taken
    cases same
    exact ⟨[], rfl, fun other => by simp only [valid, Option.map_some, List.nil_append]⟩
  refine (Varint.takesFront_readUpTo Tag.longest).andThen known ?_ ?_
  · intro bytes ended
    simp only [Tag.read?, ended]
  · intro bytes value left taken
    simp only [Tag.read?, taken]

theorem takesFront_cutAt? (count : Nat) : TakesFront (cutAt? count) := by
  intro bytes left front taken
  simp only [cutAt?] at taken
  split at taken
  next long =>
    cases taken
    refine ⟨bytes.take count, (List.take_append_drop count bytes).symm, fun other => ?_⟩
    have cut : (bytes.take count ++ other).take count = bytes.take count :=
      List.take_left' long
    simp only [cutAt?, cut, long, if_true, List.drop_left' long]
  · cases taken

theorem cutAt?_append (bytes rest : List UInt8) :
    cutAt? bytes.length (bytes ++ rest) = some (bytes, rest) := by
  simp only [cutAt?, List.take_left, if_true, List.drop_left]

theorem Payload.takesFront_read? (kind : Kind) : TakesFront (Payload.read? kind) := by
  cases kind with
  | varint => exact Varint.takesFront_read?.map Payload.varint
  | fixed64 => exact (takesFront_cutAt? 8).map Payload.fixed64
  | fixed32 => exact (takesFront_cutAt? 4).map Payload.fixed32
  | delimited =>
    refine Varint.takesFront_read?.andThen
      (fun length => (takesFront_cutAt? length).map Payload.delimited) ?_ ?_
    · intro bytes ended
      simp only [Payload.read?, ended]
    · intro bytes length left taken
      simp only [Payload.read?, taken]
  | opening | closing => exact TakesFront.failing

/-- A number among the contents has 64 bits. -/
theorem Payload.word_lt_of_read? {kind : Kind} {word : Nat} {bytes left : List UInt8}
    (found : Payload.read? kind bytes = some (.varint word, left)) : word < Varint.range := by
  cases kind with
  | varint =>
    obtain ⟨⟨value, after⟩, read, same⟩ := Option.map_eq_some_iff.1 found
    cases same
    obtain ⟨⟨wide, after⟩, _, same⟩ := Option.map_eq_some_iff.1 read
    cases same
    exact Nat.mod_lt _ (by decide)
  | fixed64 | fixed32 =>
    obtain ⟨_, _, same⟩ := Option.map_eq_some_iff.1 found
    cases same
  | delimited =>
    simp only [Payload.read?] at found
    split at found
    · cases found
    · obtain ⟨_, _, same⟩ := Option.map_eq_some_iff.1 found
      cases same
  | opening | closing => cases found

/-! ### Groups -/

/-- One tag within groups, without the bounds that make the recursion end. -/
theorem afterGroups?_cons (depth number : Nat) (outer : List Nat) (bytes : List UInt8) :
    afterGroups? depth (number :: outer) bytes =
      match Tag.read? bytes with
      | none => none
      | some (tag, rest) =>
        match tag.kind with
        | .opening =>
          if outer.length + 1 < depth then afterGroups? depth (tag.number :: number :: outer) rest
          else none
        | .closing => if tag.number = number then afterGroups? depth outer rest else none
        | kind =>
          match Payload.read? kind rest with
          | none => none
          | some (_, left) => afterGroups? depth (number :: outer) left := by
  rw [afterGroups?]
  split
  next tagged => simp only [tagged]
  next tag rest tagged =>
    simp only [tagged]
    obtain ⟨tagNumber, kind⟩ := tag
    cases kind with
    | opening | closing => rfl
    | varint | fixed64 | delimited | fixed32 =>
      dsimp only
      split
      next skipped => simp only [skipped]
      next skipped => simp only [skipped]

theorem afterGroups?_front {depth : Nat} {groups : List Nat} {bytes left : List UInt8}
    (found : afterGroups? depth groups bytes = some left) :
    ∃ front, bytes = front ++ left ∧
      ∀ other, afterGroups? depth groups (front ++ other) = some other := by
  fun_induction afterGroups? depth groups bytes with
  | case1 bytes =>
    cases found
    exact ⟨[], rfl, fun other => by rw [List.nil_append, afterGroups?]⟩
  | case2 => cases found
  | case3 bytes number outer tag rest tagged _ opening fits inductionHypothesis =>
    rw [if_pos fits] at found
    obtain ⟨head, rfl, headAgain⟩ := Tag.takesFront_read? _ _ _ tagged
    obtain ⟨body, rfl, bodyAgain⟩ := inductionHypothesis found
    refine ⟨head ++ body, by simp, fun other => ?_⟩
    simp only [afterGroups?_cons, List.append_assoc, headAgain, opening, bodyAgain]
    exact if_pos fits
  | case4 _ _ _ _ _ _ _ _ full =>
    rw [if_neg full] at found
    cases found
  | case5 bytes outer tag rest tagged _ closing inductionHypothesis =>
    obtain ⟨head, rfl, headAgain⟩ := Tag.takesFront_read? _ _ _ tagged
    obtain ⟨body, rfl, bodyAgain⟩ := inductionHypothesis found
    refine ⟨head ++ body, by simp, fun other => ?_⟩
    simp only [afterGroups?_cons, List.append_assoc, headAgain, closing, if_true, bodyAgain]
  | case6 | case7 => cases found
  | case8 bytes number outer tag rest tagged _ payload after notOpening notClosing skipped _
      inductionHypothesis =>
    obtain ⟨head, rfl, headAgain⟩ := Tag.takesFront_read? _ _ _ tagged
    obtain ⟨body, rfl, bodyAgain⟩ := Payload.takesFront_read? _ _ _ _ skipped
    obtain ⟨more, rfl, moreAgain⟩ := inductionHypothesis found
    refine ⟨head ++ (body ++ more), by simp, fun other => ?_⟩
    simp only [afterGroups?_cons, List.append_assoc, headAgain, bodyAgain, moreAgain]

/-- Groups that end within a limit end in the same place within a higher one. -/
theorem afterGroups?_mono {depth limit : Nat} (higher : depth ≤ limit) {groups : List Nat}
    {bytes left : List UInt8} (found : afterGroups? depth groups bytes = some left) :
    afterGroups? limit groups bytes = some left := by
  fun_induction afterGroups? depth groups bytes with
  | case1 bytes => rwa [afterGroups?]
  | case2 => cases found
  | case3 bytes number outer tag rest tagged _ opening fits inductionHypothesis =>
    rw [if_pos fits] at found
    have fits : outer.length + 1 < limit := Nat.lt_of_lt_of_le fits higher
    simp only [afterGroups?_cons, tagged, opening, if_pos fits, inductionHypothesis found]
  | case4 _ _ _ _ _ _ _ _ full =>
    rw [if_neg full] at found
    cases found
  | case5 bytes outer tag rest tagged _ closing inductionHypothesis =>
    simp only [afterGroups?_cons, tagged, closing, if_true, inductionHypothesis found]
  | case6 | case7 => cases found
  | case8 bytes number outer tag rest tagged _ payload after notOpening notClosing skipped _
      inductionHypothesis =>
    simp only [afterGroups?_cons, tagged, skipped, inductionHypothesis found]

/-! ### Whole records -/

namespace Record

theorem contents?_mono {depth limit : Nat} (higher : depth ≤ limit) {tag : Tag}
    {bytes left : List UInt8} {payload : Payload}
    (taken : contents? depth tag bytes = some (payload, left)) :
    contents? limit tag bytes = some (payload, left) := by
  unfold contents? at taken ⊢
  split
  next opening =>
    simp only [opening] at taken
    split at taken
    next some =>
      obtain ⟨after, closed, same⟩ := Option.map_eq_some_iff.1 taken
      rw [if_pos (Nat.lt_of_lt_of_le some higher), afterGroups?_mono higher closed, ← same]
      rfl
    · cases taken
  · simpa using taken

theorem takesFront_contents? (depth : Nat) (tag : Tag) : TakesFront (contents? depth tag) := by
  unfold contents?
  split
  · split
    · intro bytes left payload taken
      obtain ⟨after, closed, same⟩ := Option.map_eq_some_iff.1 taken
      cases same
      obtain ⟨front, rfl, again⟩ := afterGroups?_front closed
      exact ⟨front, rfl, fun other => by simp only [again, Option.map_some]⟩
    · exact TakesFront.failing
  · exact Payload.takesFront_read? _

/-- The bytes of a record are read as that record, whatever follows them. -/
def Rereads (depth : Nat) (record : Record) : Prop :=
  ∀ rest, read? depth (record.raw ++ rest) = some (record, rest)

/-- A record that is read within a limit is read within a higher one. -/
theorem Rereads.mono {depth limit : Nat} {record : Record} (rereads : record.Rereads depth)
    (higher : depth ≤ limit) : record.Rereads limit := by
  intro rest
  have found := rereads rest
  unfold read? at found ⊢
  split at found
  · cases found
  next tag left tagged =>
    obtain ⟨content, taken, same⟩ := Option.map_eq_some_iff.1 found
    rw [contents?_mono higher taken, ← same]
    rfl

/-- A record is made of the bytes of its tag and those of its contents. -/
theorem read?_append {depth : Nat} {tag : Tag} {payload : Payload} {head body rest : List UInt8}
    (tagged : Tag.read? (head ++ (body ++ rest)) = some (tag, body ++ rest))
    (taken : contents? depth tag (body ++ rest) = some (payload, rest)) :
    read? depth (head ++ body ++ rest) = some (⟨tag.number, payload, head ++ body⟩, rest) := by
  have raw : (head ++ body ++ rest).take ((head ++ body ++ rest).length - rest.length) =
      head ++ body := by
    rw [List.length_append, Nat.add_sub_cancel]
    exact List.take_left
  rw [← List.append_assoc] at tagged
  simp only [read?, tagged, taken, Option.map_some, raw]

theorem rereads_of_read? {depth : Nat} {bytes left : List UInt8} {record : Record}
    (found : read? depth bytes = some (record, left)) :
    bytes = record.raw ++ left ∧ record.Rereads depth := by
  have original := found
  unfold read? at found
  split at found
  · cases found
  next tag rest tagged =>
    obtain ⟨⟨payload, after⟩, taken, same⟩ := Option.map_eq_some_iff.1 found
    obtain ⟨head, rfl, headAgain⟩ := Tag.takesFront_read? _ _ _ tagged
    obtain ⟨body, rfl, bodyAgain⟩ := takesFront_contents? depth tag _ _ _ taken
    have whole := fun other => read?_append (headAgain (body ++ other)) (bodyAgain other)
    rw [← List.append_assoc, whole] at original
    injection original with original
    injection original with same leftSame
    subst same
    subst leftSame
    exact ⟨(List.append_assoc head body after).symm, whole⟩

/-- A number in a record has 64 bits. -/
theorem word_lt_of_read? {depth word : Nat} {bytes left : List UInt8} {record : Record}
    (found : read? depth bytes = some (record, left)) (holds : record.payload = .varint word) :
    word < Varint.range := by
  unfold read? at found
  split at found
  · cases found
  · obtain ⟨⟨payload, after⟩, taken, same⟩ := Option.map_eq_some_iff.1 found
    cases same
    cases holds
    unfold contents? at taken
    split at taken
    · split at taken
      · simp at taken
      · cases taken
    · exact Payload.word_lt_of_read? taken

theorem Rereads.word_lt {depth word : Nat} {record : Record} (rereads : record.Rereads depth)
    (holds : record.payload = .varint word) : word < Varint.range :=
  word_lt_of_read? (rereads []) holds

theorem split?_of_read? {depth : Nat} {bytes left : List UInt8} {record : Record}
    (found : read? depth bytes = some (record, left)) :
    split? depth bytes = (split? depth left).map (record :: ·) := by
  cases bytes with
  | nil =>
    have shorter := length_lt_of_read? found
    simp at shorter
  | cons first more =>
    rw [split?]
    split
    next failed =>
      rw [failed] at found
      cases found
    next again =>
      rw [again] at found
      cases found
      rfl

/-- Records that are read again after one another are what their bytes split into. -/
theorem split?_flatten {depth : Nat} {records : List Record}
    (rereads : ∀ record ∈ records, record.Rereads depth) :
    split? depth (records.map raw).flatten = some records := by
  induction records with
  | nil =>
    rw [List.map_nil, List.flatten_nil, split?]
  | cons record records inductionHypothesis =>
    have first := rereads record List.mem_cons_self (records.map raw).flatten
    rw [List.map_cons, List.flatten_cons, split?_of_read? first,
      inductionHypothesis fun other member => rereads other (List.mem_cons_of_mem _ member),
      Option.map_some]

/-- What bytes split into are records that are read again, and the bytes are theirs. -/
theorem rereads_of_split? {depth : Nat} {bytes : List UInt8} {records : List Record}
    (found : split? depth bytes = some records) :
    bytes = (records.map raw).flatten ∧ ∀ record ∈ records, record.Rereads depth := by
  fun_induction split? depth bytes generalizing records with
  | case1 =>
    cases found
    exact ⟨rfl, fun record member => by cases member⟩
  | case2 => cases found
  | case3 first more record left read _ inductionHypothesis =>
    obtain ⟨others, inner, rfl⟩ := Option.map_eq_some_iff.1 found
    obtain ⟨same, rereads⟩ := inductionHypothesis inner
    obtain ⟨front, again⟩ := rereads_of_read? read
    refine ⟨?_, fun other member => ?_⟩
    · rw [front, same, List.map_cons, List.flatten_cons]
    · rcases List.mem_cons.1 member with rfl | member
      · exact again
      · exact rereads other member

end Record

/-! ### The records of values -/

theorem Kind.ofCode?_code (kind : Kind) : Kind.ofCode? kind.code = some kind := by
  cases kind <;> rfl

theorem Kind.code_lt (kind : Kind) : kind.code < 8 := by
  cases kind <;> decide

/-- The number of a field has 29 bits, and so the tag has 32. -/
theorem Tag.read?_write {number : Nat} (kind : Kind) (positive : 0 < number)
    (small : number < 0x20000000) (rest : List UInt8) :
    Tag.read? (Tag.write ⟨number, kind⟩ ++ rest) = some (⟨number, kind⟩, rest) := by
  have code := kind.code_lt
  have short : 8 * number + kind.code < Varint.shortRange := by
    unfold Varint.shortRange
    omega
  have read : Varint.readUpTo Tag.longest (Tag.write ⟨number, kind⟩ ++ rest) =
      some (8 * number + kind.code, rest) :=
    Varint.readUpTo_write (Nat.lt_trans short (by decide)) rest
  have number_eq : (8 * number + kind.code) / 8 = number := by omega
  have code_eq : (8 * number + kind.code) % 8 = kind.code := by omega
  have valid : Tag.ofValue? (8 * number + kind.code) = some ⟨number, kind⟩ := by
    rw [Tag.ofValue?, number_eq, code_eq, if_pos ⟨short, by omega⟩, Kind.ofCode?_code,
      Option.map_some]
  simp only [Tag.read?, read, valid, Option.map_some]

theorem rereads_numberRecord {number word : Nat} (depth : Nat) (positive : 0 < number)
    (small : number < 0x20000000) (fits : word < Varint.range) :
    Record.Rereads depth ⟨number, .varint word, numberRecord number word⟩ := by
  intro rest
  refine Record.read?_append (Tag.read?_write .varint positive small _) ?_
  show Payload.read? .varint (Varint.write word ++ rest) = some (.varint word, rest)
  simp only [Payload.read?, Varint.read?_write fits, Option.map_some]

theorem rereads_bytesRecord {number : Nat} {bytes : List UInt8} (depth : Nat)
    (positive : 0 < number) (small : number < 0x20000000) (fits : bytes.length < Varint.range) :
    Record.Rereads depth ⟨number, .delimited bytes, bytesRecord number bytes⟩ := by
  intro rest
  rw [bytesRecord, List.append_assoc _ _ bytes]
  refine Record.read?_append (Tag.read?_write .delimited positive small _) ?_
  show Payload.read? .delimited (Varint.write bytes.length ++ bytes ++ rest) =
    some (.delimited bytes, rest)
  simp only [Payload.read?, List.append_assoc, Varint.read?_write fits, cutAt?_append,
    Option.map_some]

end Bindery.Wire
