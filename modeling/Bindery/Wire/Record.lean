/-
This file splits the bytes of a message into its records. A record is a tag, which names a
field by number and tells the kind of its contents, and the contents. Nothing here depends on
the types of messages: a record can be cut off, and kept as it was received, without knowing
what its field is.
-/

import Bindery.Wire.Varint

namespace Bindery.Wire

/-! ### Tags -/

/-- The kinds of contents. -/
inductive Kind where
  /-- A variable-length number. -/
  | varint
  /-- Eight bytes. -/
  | fixed64
  /-- A length and as many bytes. -/
  | delimited
  /-- The beginning of a group of records. -/
  | opening
  /-- The end of a group of records. -/
  | closing
  /-- Four bytes. -/
  | fixed32
deriving DecidableEq, Repr

/-- The number of a kind. -/
def Kind.code : Kind → Nat
  | .varint => 0
  | .fixed64 => 1
  | .delimited => 2
  | .opening => 3
  | .closing => 4
  | .fixed32 => 5

/-- The kind of a number; two of the eight numbers that fit into a tag have none. -/
def Kind.ofCode? : Nat → Option Kind
  | 0 => some .varint
  | 1 => some .fixed64
  | 2 => some .delimited
  | 3 => some .opening
  | 4 => some .closing
  | 5 => some .fixed32
  | _ => none

/-- The head of a record. -/
structure Tag where
  number : Nat
  kind : Kind
deriving DecidableEq, Repr

namespace Tag

/-- The bytes of a tag. -/
def write (tag : Tag) : List UInt8 := Varint.write (8 * tag.number + tag.kind.code)

/-- The longest form of a tag. -/
def longest : Nat := 5

/-- A tag that its value stands for. It has at most 32 bits, and no field is numbered zero. -/
def ofValue? (value : Nat) : Option Tag :=
  if value < Varint.shortRange ∧ value / 8 ≠ 0 then
    (Kind.ofCode? (value % 8)).map (⟨value / 8, ·⟩)
  else none

/-- A tag with the bytes after it. -/
def read? (bytes : List UInt8) : Option (Tag × List UInt8) :=
  match Varint.readUpTo longest bytes with
  | none => none
  | some (value, left) => (ofValue? value).map (·, left)

theorem length_lt_of_read? {bytes left : List UInt8} {tag : Tag}
    (found : read? bytes = some (tag, left)) : left.length < bytes.length := by
  unfold read? at found
  split at found
  · cases found
  next value after inner =>
    obtain ⟨_, _, same⟩ := Option.map_eq_some_iff.1 found
    cases same
    exact Varint.length_lt_of_readUpTo inner

end Tag

/-! ### Contents -/

/-- The contents of a record. Those of a group are of no use to any field. -/
inductive Payload where
  | varint (value : Nat)
  | fixed64 (bytes : List UInt8)
  | delimited (bytes : List UInt8)
  | group
  | fixed32 (bytes : List UInt8)
deriving DecidableEq, Repr

/-- The first `count` bytes and the others, if there are as many. -/
def cutAt? (count : Nat) (bytes : List UInt8) : Option (List UInt8 × List UInt8) :=
  let front := bytes.take count
  if front.length = count then some (front, bytes.drop count) else none

theorem length_le_of_cutAt? {count : Nat} {bytes front left : List UInt8}
    (found : cutAt? count bytes = some (front, left)) : left.length ≤ bytes.length := by
  simp only [cutAt?] at found
  split at found
  · cases found
    simp
  · cases found

/-- Contents with the bytes after them. Groups are no contents of this sort: their end is told
by a tag. -/
def Payload.read? (kind : Kind) (bytes : List UInt8) : Option (Payload × List UInt8) :=
  match kind with
  | .varint => (Varint.read? bytes).map fun (value, left) => (.varint value, left)
  | .fixed64 => (cutAt? 8 bytes).map fun (front, left) => (.fixed64 front, left)
  | .fixed32 => (cutAt? 4 bytes).map fun (front, left) => (.fixed32 front, left)
  | .delimited =>
    match Varint.read? bytes with
    | none => none
    | some (length, rest) =>
      (cutAt? length rest).map fun (front, left) => (.delimited front, left)
  | .opening | .closing => none

theorem Payload.length_le_of_read? {kind : Kind} {bytes left : List UInt8} {payload : Payload}
    (found : Payload.read? kind bytes = some (payload, left)) : left.length ≤ bytes.length := by
  unfold Payload.read? at found
  split at found
  · obtain ⟨⟨value, after⟩, inner, same⟩ := Option.map_eq_some_iff.1 found
    cases same
    exact Nat.le_of_lt (Varint.length_lt_of_read? inner)
  · obtain ⟨⟨front, after⟩, inner, same⟩ := Option.map_eq_some_iff.1 found
    cases same
    exact length_le_of_cutAt? inner
  · obtain ⟨⟨front, after⟩, inner, same⟩ := Option.map_eq_some_iff.1 found
    cases same
    exact length_le_of_cutAt? inner
  · split at found
    · cases found
    next length rest size =>
      obtain ⟨⟨front, after⟩, inner, same⟩ := Option.map_eq_some_iff.1 found
      cases same
      have := length_le_of_cutAt? inner
      have := Varint.length_lt_of_read? size
      omega
  · cases found
  · cases found

/-! ### Groups -/

/-- The bytes after the end of all groups that are open, whose numbers are given from the
innermost outwards. At most `depth` groups may be open at a time, and each is closed by its own
number. -/
def afterGroups? (depth : Nat) (groups : List Nat) (bytes : List UInt8) : Option (List UInt8) :=
  match groups with
  | [] => some bytes
  | number :: outer =>
    match tagged : Tag.read? bytes with
    | none => none
    | some (tag, rest) =>
      have := Tag.length_lt_of_read? tagged
      match tag.kind with
      | .opening =>
        if groups.length < depth then afterGroups? depth (tag.number :: groups) rest else none
      | .closing => if tag.number = number then afterGroups? depth outer rest else none
      | kind =>
        match skipped : Payload.read? kind rest with
        | none => none
        | some (_, left) =>
          have := Payload.length_le_of_read? skipped
          afterGroups? depth groups left
termination_by bytes.length
decreasing_by all_goals omega

theorem length_le_of_afterGroups? {depth : Nat} {groups : List Nat} {bytes left : List UInt8}
    (found : afterGroups? depth groups bytes = some left) : left.length ≤ bytes.length := by
  fun_induction afterGroups? depth groups bytes with
  | case1 => cases found; simp
  | case3 _ _ _ _ _ _ shorter _ fits inner =>
    rw [if_pos fits] at found
    have := inner found
    omega
  | case4 _ _ _ _ _ _ _ _ full => rw [if_neg full] at found; cases found
  | case5 _ _ _ _ _ shorter _ inner => have := inner found; omega
  | case8 _ _ _ _ _ shorter _ _ _ _ _ _ noLonger inner => have := inner found; omega
  | case2 | case6 | case7 => cases found

/-! ### Records -/

/-- A record: the number of its field, its contents, and the bytes that it was read from. -/
structure Record where
  number : Nat
  payload : Payload
  raw : List UInt8
deriving DecidableEq, Repr

namespace Record

/-- The contents after a tag. -/
def contents? (depth : Nat) (tag : Tag) (bytes : List UInt8) :
    Option (Payload × List UInt8) :=
  match tag.kind with
  | .opening =>
    if 0 < depth then (afterGroups? depth [tag.number] bytes).map (.group, ·) else none
  | kind => Payload.read? kind bytes

/-- The first record with the bytes after it. Groups may be nested `depth` deep. -/
def read? (depth : Nat) (bytes : List UInt8) : Option (Record × List UInt8) :=
  match Tag.read? bytes with
  | none => none
  | some (tag, rest) =>
    (contents? depth tag rest).map fun (payload, left) =>
      (⟨tag.number, payload, bytes.take (bytes.length - left.length)⟩, left)

theorem length_lt_of_read? {depth : Nat} {bytes left : List UInt8} {record : Record}
    (found : read? depth bytes = some (record, left)) : left.length < bytes.length := by
  unfold read? at found
  split at found
  · cases found
  next tag rest tagged =>
    have tagLength := Tag.length_lt_of_read? tagged
    obtain ⟨⟨payload, after⟩, inner, same⟩ := Option.map_eq_some_iff.1 found
    cases same
    unfold contents? at inner
    split at inner
    · split at inner
      · obtain ⟨ending, closed, same⟩ := Option.map_eq_some_iff.1 inner
        cases same
        have := length_le_of_afterGroups? closed
        omega
      · cases inner
    · have := Payload.length_le_of_read? inner
      omega

/-- All records of the bytes in their order; none if the bytes are not made of records. -/
def split? (depth : Nat) (bytes : List UInt8) : Option (List Record) :=
  match bytes with
  | [] => some []
  | first :: more =>
    match found : read? depth (first :: more) with
    | none => none
    | some (record, left) =>
      have := length_lt_of_read? found
      (split? depth left).map (record :: ·)
termination_by bytes.length
decreasing_by assumption

end Record

end Bindery.Wire
