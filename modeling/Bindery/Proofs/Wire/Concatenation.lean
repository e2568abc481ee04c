/-
This file proves that the bytes of two messages, one behind the other, are read as the first message
with the second one merged into it.

The first bytes are read back as the first message, and reading goes on with it. Each record of the
second message then gives its field a value: that of the second message, or the message that comes
of reading into the one that the field holds, and this is the same statement one level further down.
No value of the second message touches what another one of them is merged into, so what a field
holds when its record comes is what it holds in the first message.
-/

import Bindery.Proofs.Wire.Merge
import Bindery.Proofs.Wire.RoundTrip

namespace Bindery.Wire

/-! ### Joined values -/

/-- Keys and numbers decide what stays, and those of joined values are those of the values. -/
theorem Field.spares_join (field : Field) (type : MessageType) (first : Message) (number : Nat)
    (value : Value) (item : Nat × Value) :
    field.spares type (value.join type first number) (item.1, item.2.join type first item.1) =
      field.spares type value item := by
  unfold spares
  simp only [Value.key_join]

/-- Joined values are as far apart as the values were. -/
theorem MessageType.Apart.join {type : MessageType} {one other : Nat × Value}
    (apart : type.Apart one other) (first : Message) :
    type.Apart (one.1, one.2.join type first one.1) (other.1, other.2.join type first other.1) :=
  ⟨fun field found => (field.spares_join type first other.1 other.2 one).trans
      (apart.1 field found),
    fun field found => (field.spares_join type first one.1 one.2 other).trans
      (apart.2 field found)⟩

/-- Joined values are in the order in which the values were. -/
theorem inOrder_joinItems {items : List (Nat × Value)} (ordered : InOrder items)
    (type : MessageType) (first : Message) : InOrder (joinItems type first items) := by
  unfold InOrder
  rw [joinItems_eq_map, List.pairwise_map]
  refine ordered.imp fun {one other} before => ?_
  rw [precedes_iff] at before ⊢
  rwa [Value.key_join, Value.key_join]

theorem apart_joinItems {type : MessageType} {items : List (Nat × Value)}
    (apart : items.Pairwise type.Apart) (first : Message) :
    (joinItems type first items).Pairwise type.Apart := by
  rw [joinItems_eq_map, List.pairwise_map]
  exact apart.imp fun apart => apart.join first

theorem Arranged.joinItems {items order : List (Nat × Value)} (arranged : Arranged items order)
    (type : MessageType) (first : Message) :
    Arranged (Wire.joinItems type first items) (Wire.joinItems type first order) := by
  rw [joinItems_eq_map, joinItems_eq_map]
  exact arranged.map fun item entry => (Value.isEntry_join ..).trans entry

namespace Message

variable {depth : Nat} {type inner : MessageType} {field : Field}
  {first message content held : Message} {value : Value}

/-- The message that another one is merged into is the one in its field. -/
theorem value?_of_held? {heldType : MessageType} (found : type.field? field.number = some field)
    (holds : field.type = .message inner)
    (present : first.held? type field.number = some (heldType, held)) :
    field.isMany = false ∧ heldType = inner ∧ first.value? field.number = some (.message held) := by
  simp only [held?, found, holds] at present
  split at present
  · cases present
  next single =>
    split at present
    next inside content same set =>
      cases same
      cases present
      exact ⟨by simpa using single, rfl, set⟩
    · cases present

/-- Where there is none, the field of one message holds the empty one. -/
theorem inner_of_not_held? (found : type.field? field.number = some field)
    (holds : field.type = .message inner) (single : field.isMany = false)
    (absent : first.held? type field.number = none) : first.inner field.number = empty := by
  simp only [held?, found, holds, single, Bool.false_eq_true, if_false] at absent
  unfold Message.inner
  split
  next content set =>
    rw [set] at absent
    cases absent
  · rfl

/-! ### Reading into a message -/

/-- Whether bytes of a message that are read into another one merge it into that one, where at most
`depth` messages are nested. -/
def ReadsOnto (depth : Nat) : Prop :=
  ∀ {type first second written}, type.height < depth → Inside depth type first →
    Inside depth type second → second.Rearranged written →
    written.encode.length < Varint.range →
    readBelow depth type first written.encode = some (first.merge type second)

/-- Bytes of a message that are read into the one in a field give the two merged. -/
theorem read_held {heldType : MessageType} {written : Message} (onto : ReadsOnto depth)
    (low : type.height ≤ depth) (shaped : Shaped depth (Inside depth) type first)
    (found : type.field? field.number = some field) (holds : field.type = .message inner)
    (joined : first.held? type field.number = some (heldType, held))
    (within : Inside depth inner content) (alike : content.Rearranged written)
    (fits : (bytesRecord field.number written.encode).length < Varint.range) :
    heldType = inner ∧ field.isMany = false ∧ first.inner field.number = held ∧
      readBelow depth inner held written.encode = some (held.merge inner content) ∧
      Inside depth inner (held.merge inner content) := by
  obtain ⟨single, same, set⟩ := value?_of_held? found holds joined
  have start : first.inner field.number = held := by rw [Message.inner, set]
  have innerLow := Nat.lt_of_lt_of_le
    (MessageType.height_lt (MessageType.mem_of_field? found) holds) low
  have heldWithin : Inside depth inner held := start ▸ shaped.inside_inner found holds innerLow
  have read := onto innerLow heldWithin within alike
    (Nat.lt_of_le_of_lt (length_le_bytesRecord field.number _) fits)
  exact ⟨same, single, start, read, inside_of_readBelow innerLow heldWithin read⟩

/-- The record of a value gives the field what the value is joined to. -/
theorem receiveRecord_join (onto : ReadsOnto depth) (low : type.height ≤ depth)
    (shaped : Shaped depth (Inside depth) type first) {written : Value}
    (alike : value.Rearranged written) (found : type.field? field.number = some field)
    (takes : field.Takes (Inside depth) value)
    (fits : (written.encode field.number).length < Varint.range)
    (same : field.isMany = false → message.value? field.number = first.value? field.number) :
    receiveRecord (readBelow depth) type message (written.record field.number) =
      some (message.place type field (value.join type first field.number)) := by
  have back := readsBack_readBelow depth
  cases value with
  | message content =>
    obtain ⟨other, rfl, inside⟩ := alike.exists_message
    have ⟨_, inner, holds, within⟩ := takes
    have start : field.isMany = false → message.inner field.number = first.inner field.number :=
      fun single => by rw [Message.inner, same single, ← Message.inner]
    cases joined : first.held? type field.number with
    | none =>
      rw [Value.join, joined]
      exact receiveRecord_message back inside found takes fits fun single =>
        (start single).trans (inner_of_not_held? found holds single joined)
    | some pair =>
      obtain ⟨rfl, single, held, read, -⟩ :=
        read_held onto low shaped found holds joined within inside fits
      rw [Value.join, joined]
      simp only [receiveRecord, Value.record, Value.payload, found, holds, receiveMessage]
      cases rule : field.rule with
      | repeated | keyed => simp [Field.isMany, rule] at single
      | plain | optional | oneof =>
        simp only [start single, held, read, Option.map_some, assign_eq_place type _ single]
  | int | bool | text | bytes | entry =>
    exact receiveRecord_record back alike found takes fits fun content equal => by cases equal

/-- What a value is joined to fits where the value does. -/
theorem fits_join (onto : ReadsOnto depth) (low : type.height ≤ depth)
    (shaped : Shaped depth (Inside depth) type first) {item : Nat × Value} {written : Value}
    (alike : item.2.Rearranged written) (fits : type.Fits (Inside depth) item)
    (short : (written.encode item.1).length < Varint.range) :
    type.Fits (Inside depth) (item.1, item.2.join type first item.1) := by
  obtain ⟨field, found, takes, admitted⟩ := fits
  obtain ⟨number, value⟩ := item
  cases MessageType.number_of_field? found
  cases value with
  | message content =>
    obtain ⟨other, rfl, inside⟩ := alike.exists_message
    have ⟨unkeyed, inner, holds, within⟩ := takes
    cases joined : first.held? type field.number with
    | none =>
      rw [Value.join, joined]
      exact ⟨field, found, takes, admitted⟩
    | some pair =>
      obtain ⟨rfl, -, -, -, merged⟩ :=
        read_held onto low shaped found holds joined within inside short
      rw [Value.join, joined]
      exact ⟨field, found, ⟨unkeyed, _, holds, merged⟩, admitted⟩
  | int | bool | text | bytes | entry => exact ⟨field, found, takes, admitted⟩

/-- The values of a message that is read into another one are given to the fields one after
another. None of them changes what a later one is joined to. -/
theorem foldlM_join (onto : ReadsOnto depth) (low : type.height ≤ depth)
    (shaped : Shaped depth (Inside depth) type first) {items written : List (Nat × Value)}
    (alike : ItemsRearranged items written) (apart : items.Pairwise type.Apart)
    (fitting : ∀ item ∈ items, type.Fits (Inside depth) item)
    (fits : ∀ item ∈ written, (item.2.encode item.1).length < Varint.range)
    (same : ∀ item ∈ items, ∀ field, type.field? item.1 = some field → field.isMany = false →
      message.value? item.1 = first.value? item.1) :
    (written.map fun item => item.2.record item.1).foldlM
        (receiveRecord (readBelow depth) type) message =
      some ((joinItems type first items).foldl (placeItem type) message) := by
  induction items generalizing written message with
  | nil =>
    cases alike
    rfl
  | cons item items inductionHypothesis =>
    obtain ⟨field, found, takes, admitted⟩ := fitting item List.mem_cons_self
    obtain ⟨headApart, restApart⟩ := List.pairwise_cons.1 apart
    cases alike with
    | @cons number value other items others head rest =>
      cases MessageType.number_of_field? found
      have placed := @placeItem_of_field? type field message
        (field.number, value.join type first field.number) found
      have received := receiveRecord_join onto low shaped head found takes
        (fits _ List.mem_cons_self) (same _ List.mem_cons_self field found)
      rw [← placed] at received
      rw [List.map_cons, List.foldlM_cons, received, joinItems, List.foldl_cons]
      refine inductionHypothesis rest restApart
        (fun item member => fitting item (List.mem_cons_of_mem _ member))
        (fun item member => fits item (List.mem_cons_of_mem _ member))
        fun later member other otherFound single => ?_
      have free := (headApart later member).symm.not_excludes otherFound found single
      rw [← same later (List.mem_cons_of_mem _ member) other otherFound single]
      rw [MessageType.excludes_comm] at free
      have differ : later.1 ≠ field.number := by
        intro equal
        rw [equal, found] at otherFound
        cases otherFound
        simp [MessageType.excludes] at free
      refine congrArg List.head? ?_
      rw [placed, values_place_of_ne message _ otherFound differ, free,
        if_neg Bool.false_ne_true]

/-- A message that is read into another one is merged into it. -/
theorem read_encode_onto (onto : ReadsOnto depth) (low : type.height ≤ depth)
    (shaped : Shaped depth (Inside depth) type first) {second written : Message}
    (secondShaped : Shaped depth (Inside depth) type second)
    (alike : second.Rearranged written) (fits : written.encode.length < Varint.range) :
    ((Record.split? depth written.encode).bind fun records =>
      records.foldlM (receiveRecord (readBelow depth) type) first) =
        some (first.merge type second) := by
  cases alike with
  | @intro items order written unknown arranged alike =>
    obtain ⟨itemFits, records, rfl, keeps, split⟩ := split?_encode secondShaped arranged alike fits
    have orderFitting : ∀ item ∈ order, type.Fits (Inside depth) item :=
      fun item member => secondShaped.fitting item (arranged.perm.mem_iff.2 member)
    have orderApart := (arranged.perm.pairwise_iff MessageType.Apart.symm).1 secondShaped.apart
    have filled := @foldlM_join depth type first first onto low shaped order written alike
      orderApart orderFitting itemFits fun _ _ _ _ _ => rfl
    have whole := @foldlM_kept (readBelow depth) type records keeps
      ((joinItems type first order).foldl (placeItem type) first)
    have joinedFitting : ∀ item ∈ joinItems type first items, type.Fits (Inside depth) item := by
      intro item member
      rw [joinItems_eq_map] at member
      obtain ⟨original, inItems, rfl⟩ := List.mem_map.1 member
      have inOrder := arranged.perm.mem_iff.1 inItems
      obtain ⟨other, otherMember, similar⟩ := alike.exists_written inOrder
      exact fits_join onto low shaped similar (orderFitting original inOrder)
        (itemFits _ otherMember)
    have merged := @Shaped.foldl_placeItem_eq_combine depth (Inside depth) type first
      ⟨joinItems type first items, (records.map Record.raw).flatten⟩ _ shaped
      (inOrder_joinItems secondShaped.ordered type first)
      (apart_joinItems secondShaped.apart first) joinedFitting (arranged.joinItems type first)
    rw [split, Option.bind_some, List.foldlM_append]
    exact Option.bind_eq_some_iff.2 ⟨_, filled, whole.trans (congrArg some merged)⟩

theorem readsOnto (depth : Nat) : ReadsOnto depth := by
  induction depth with
  | zero => exact fun low => by cases low
  | succ depth inductionHypothesis =>
    intro type first second written low firstWithin secondWithin alike fits
    show readInto? depth type first written.encode = _
    rw [readInto?_eq]
    exact read_encode_onto inductionHypothesis (Nat.le_of_lt_succ low) firstWithin secondWithin
      alike fits

/-! ### One message behind another -/

/-- Bytes that are read one behind the other are read as one. -/
theorem readInto?_append {middle last : Message} {front back : List UInt8}
    (frontRead : readInto? depth type message front = some middle)
    (backRead : readInto? depth type middle back = some last) :
    readInto? depth type message (front ++ back) = some last := by
  rw [readInto?_eq] at frontRead backRead ⊢
  obtain ⟨records, split, received⟩ := Option.bind_eq_some_iff.1 frontRead
  obtain ⟨later, laterSplit, laterReceived⟩ := Option.bind_eq_some_iff.1 backRead
  obtain ⟨rfl, rereads⟩ := Record.rereads_of_split? split
  obtain ⟨rfl, laterRereads⟩ := Record.rereads_of_split? laterSplit
  have both := @Record.split?_flatten depth (records ++ later) fun record member =>
    (List.mem_append.1 member).elim (rereads record) (laterRereads record)
  rw [List.map_append, List.flatten_append] at both
  rw [both, Option.bind_some, List.foldlM_append]
  exact Option.bind_eq_some_iff.2 ⟨middle, received, laterReceived⟩

/-- The bytes of two messages, in any order of their entries, are read as the two merged. The length
of a record is a number of 64 bits, and no byte sequence of a program is longer. -/
theorem decode?_append_encode {type : MessageType}
    {first second firstWritten secondWritten : Message}
    (firstObtained : Obtainable type first) (secondObtained : Obtainable type second)
    (firstAlike : first.Rearranged firstWritten) (secondAlike : second.Rearranged secondWritten)
    (firstFits : firstWritten.encode.length < Varint.range)
    (secondFits : secondWritten.encode.length < Varint.range) :
    decode? type (firstWritten.encode ++ secondWritten.encode) =
      some (first.merge type second) := by
  have low : type.height < deepest + 1 := Nat.lt_succ_of_le type.height_le_deepest
  have firstWithin := inside_of_obtainable firstObtained
  exact readInto?_append
    ((readsBack_readBelow (deepest + 1)).content firstWithin firstAlike firstFits)
    (readsOnto (deepest + 1) low firstWithin (inside_of_obtainable secondObtained) secondAlike
      secondFits)

/-- A request with a command whose arguments are told by a pointer. -/
def pointed : Message :=
  ⟨[(1, .int 7), (2, .message ⟨[(1, .int 5), (3, .int 9)], []⟩)], []⟩

/-- A request with a command of one argument, and a record of no field. -/
def argued : Message :=
  ⟨[(2, .message ⟨[(2, .message ⟨[(1, .bytes [0x61])], []⟩)], []⟩)], [0x48, 0x01]⟩

/-- Channels of one name under two keys. -/
def listened : Message :=
  ⟨[(1, .entry 0 ⟨[(1, .bytes [0x61])], []⟩), (1, .entry 7 ⟨[(1, .bytes [0x62])], []⟩)], []⟩

/-- Channels under another key, and none under the greater one. -/
def silenced : Message := ⟨[(1, .entry 3 ⟨[(1, .bytes [0x63])], []⟩), (1, .entry 7 empty)], []⟩

/-- The same channels, with the greater key first. -/
def silencedTurned : Message :=
  ⟨[(1, .entry 7 empty), (1, .entry 3 ⟨[(1, .bytes [0x63])], []⟩)], []⟩

theorem members_and_entries_merge :
    decode? .commandRequest (pointed.encode ++ argued.encode) =
      some ⟨[(1, .int 7), (2, .message ⟨[(1, .int 5),
        (2, .message ⟨[(1, .bytes [0x61])], []⟩)], []⟩)], [0x48, 0x01]⟩ ∧
    decode? .subscriptions (listened.encode ++ silencedTurned.encode) =
      some ⟨[(1, .entry 0 ⟨[(1, .bytes [0x61])], []⟩), (1, .entry 3 ⟨[(1, .bytes [0x63])], []⟩),
        (1, .entry 7 empty)], []⟩ := by
  have first : build .commandRequest [(.text "callback_idx", .int 7), (.text "single_command",
      .table [(.text "request_type", .int 5), (.text "args_vec_pointer", .int 9)])] =
      .ok pointed := rfl
  have second : decode? .commandRequest [0x12, 0x05, 0x12, 0x03, 0x0A, 0x01, 0x61, 0x48, 0x01] =
      some argued := by with_unfolding_all rfl
  have early : build .subscriptions [(.text "channels_or_patterns_by_type",
      .table [(.int 0, .table [(.text "channels_or_patterns", .list [.bytes [0x61]])]),
        (.int 7, .table [(.text "channels_or_patterns", .list [.bytes [0x62]])])])] =
      .ok listened := rfl
  have late : build .subscriptions [(.text "channels_or_patterns_by_type",
      .table [(.int 3, .table [(.text "channels_or_patterns", .list [.bytes [0x63]])]),
        (.int 7, .table [])])] = .ok silenced := rfl
  have turned : silenced.Rearranged silencedTurned :=
    .intro (@Arranged.swap _ [] [] _ _ .same rfl rfl) (.refl _)
  have entries : listened.merge .subscriptions silenced =
      ⟨[(1, .entry 0 ⟨[(1, .bytes [0x61])], []⟩), (1, .entry 3 ⟨[(1, .bytes [0x63])], []⟩),
        (1, .entry 7 empty)], []⟩ := by
    simp [merge, listened, silenced, joinItems, Value.join, combine, MessageType.fields,
      Field.combined, values, Value.replacedBy, Value.key]
  refine ⟨decode?_append_encode (obtainable_of_build rfl first) (obtainable_of_decode? second)
    (.refl _) (.refl _) (by decide +kernel) (by decide +kernel), ?_⟩
  rw [← entries]
  exact decode?_append_encode (obtainable_of_build rfl early) (obtainable_of_build rfl late)
    (.refl _) turned (by decide +kernel) (by decide +kernel)

end Message

end Bindery.Wire
