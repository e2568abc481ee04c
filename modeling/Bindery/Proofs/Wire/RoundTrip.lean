/-
This file proves that a message is read back from its bytes.

The bytes split into one record for each value, in the order in which they were written, and the
unknown records behind them. A message that has received the records of some of its values holds
exactly these, in their places: what comes next excludes none of them. So the message is put
together value by value, and at the end the unknown records are kept as they were. A value that is a
message is read back for the same reason one level further down.
-/

import Bindery.Proofs.Wire.Offered
import Bindery.Proofs.Wire.Received

namespace Bindery.Wire

/-! ### The records of a message -/

/-- What a value is as the contents of a record. -/
def Value.payload : Value → Payload
  | .int value => .varint (wordOf value)
  | .bool value => .varint (if value then 1 else 0)
  | .text value => .delimited (Text.bytesOf value)
  | .bytes value => .delimited value
  | .message content => .delimited content.encode
  | .entry key content => .delimited (numberRecord 1 key ++ bytesRecord 2 content.encode)

/-- The record that a value is written as. -/
def Value.record (value : Value) (number : Nat) : Record :=
  ⟨number, value.payload, value.encode number⟩

theorem length_le_bytesRecord (number : Nat) (bytes : List UInt8) :
    bytes.length ≤ (bytesRecord number bytes).length := by
  rw [bytesRecord, List.length_append]
  omega

/-- The record of a value is read back if its length has 64 bits. -/
theorem Value.rereads_record {number : Nat} {value : Value} (depth : Nat) (positive : 0 < number)
    (small : number < 0x20000000) (fits : (value.encode number).length < Varint.range) :
    (value.record number).Rereads depth := by
  cases value with
  | int value => exact rereads_numberRecord depth positive small (wordOf_lt value)
  | bool value =>
    refine rereads_numberRecord depth positive small ?_
    cases value <;> decide
  | text | bytes | message | entry =>
    exact rereads_bytesRecord depth positive small
      (Nat.lt_of_le_of_lt (length_le_bytesRecord number _) fits)

theorem encodeItems_eq_flatten (items : List (Nat × Value)) :
    encodeItems items =
      ((items.map fun item => item.2.record item.1).map Record.raw).flatten := by
  induction items with
  | nil => rfl
  | cons item items inductionHypothesis =>
    rw [encodeItems, inductionHypothesis]
    rfl

/-- The record of a value is no longer than the message. -/
theorem length_le_encodeItems {items : List (Nat × Value)} {item : Nat × Value}
    (member : item ∈ items) : (item.2.encode item.1).length ≤ (encodeItems items).length := by
  induction items with
  | nil => cases member
  | cons first items inductionHypothesis =>
    rw [encodeItems, List.length_append]
    rcases List.mem_cons.1 member with rfl | member
    · omega
    · have := inductionHypothesis member
      omega

namespace Message

/-! ### Receiving the record of a value -/

/-- A way to read messages that reads those which can stand in a field back from their bytes. In
an entry a key of zero may be written or left out. -/
structure ReadsBack (read : Reader) (inside : MessageType → Message → Prop) : Prop where
  content : ∀ {type message written}, inside type message → message.Rearranged written →
    written.encode.length < Varint.range → read type empty written.encode = some message
  zeroKey : ∀ bytes, read .subscriptionsEntry empty (numberRecord 1 0 ++ bytes) =
    read .subscriptionsEntry empty bytes

variable {read : Reader} {inside : MessageType → Message → Prop} {type : MessageType}
  {field : Field} {value : Value}

theorem encode_ofEntry {key : Nat} (content : Message) (small : key < 0x100000000) :
    (ofEntry key content).encode =
      (if key = 0 then [] else numberRecord 1 key) ++ bytesRecord 2 content.encode := by
  have word : wordOf key = key :=
    wordOf_natCast (Nat.lt_trans small (by decide))
  unfold ofEntry
  split <;> simp [Message.encode, encodeItems, Value.encode, word]

@[simp] theorem entryKey_ofEntry (key : Nat) (content : Message) :
    (ofEntry key content).entryKey = key := by
  cases key <;> rfl

@[simp] theorem entryContent_ofEntry (key : Nat) (content : Message) :
    (ofEntry key content).entryContent = content := by
  cases key <;> rfl

theorem Rearranged.ofEntry {content written : Message} (alike : content.Rearranged written)
    (key : Nat) : (Message.ofEntry key content).Rearranged (Message.ofEntry key written) := by
  unfold Message.ofEntry
  split
  · exact .intro .same (.cons (.message alike) .nil)
  · exact .intro .same (.cons (.same _) (.cons (.message alike) .nil))

theorem ReadsBack.entry (back : ReadsBack read inside) {key : Nat} {content written : Message}
    (small : key < 0x100000000) (within : inside .subscriptionsEntry (.ofEntry key content))
    (alike : content.Rearranged written)
    (fits : (numberRecord 1 key ++ bytesRecord 2 written.encode).length < Varint.range) :
    read .subscriptionsEntry empty (numberRecord 1 key ++ bytesRecord 2 written.encode) =
      some (.ofEntry key content) := by
  have bytes := encode_ofEntry written small
  by_cases zero : key = 0
  · subst zero
    rw [if_pos rfl, List.nil_append] at bytes
    rw [List.length_append] at fits
    rw [back.zeroKey, ← bytes]
    exact back.content within (alike.ofEntry 0) (by rw [bytes]; omega)
  · rw [if_neg zero] at bytes
    rw [← bytes] at fits ⊢
    exact back.content within (alike.ofEntry key) fits

theorem receiveRecord_message (back : ReadsBack read inside) {message content written : Message}
    (alike : content.Rearranged written) (found : type.field? field.number = some field)
    (takes : field.Takes inside (.message content))
    (fits : ((Value.message written).encode field.number).length < Varint.range)
    (unset : field.isMany = false → message.inner field.number = empty) :
    receiveRecord read type message ((Value.message written).record field.number) =
      some (message.place type field (.message content)) := by
  obtain ⟨unkeyed, inner, holds, within⟩ := takes
  have contentFits := Nat.lt_of_le_of_lt (length_le_bytesRecord field.number _) fits
  have contentRead := back.content within alike contentFits
  simp only [receiveRecord, Value.record, Value.payload, found, holds, receiveMessage]
  cases rule : field.rule with
  | repeated =>
    simp only [contentRead, Option.map_some, insert_eq_place type _ rule]
  | keyed => exact absurd rule unkeyed
  | plain | optional | oneof =>
    have single : field.isMany = false := by simp [Field.isMany, rule]
    simp only [unset single, contentRead, Option.map_some, assign_eq_place type _ single]

theorem receiveRecord_entry (back : ReadsBack read inside) {message content written : Message}
    {key : Nat} (alike : content.Rearranged written)
    (found : type.field? field.number = some field)
    (takes : field.Takes inside (.entry key content))
    (fits : ((Value.entry key written).encode field.number).length < Varint.range) :
    receiveRecord read type message ((Value.entry key written).record field.number) =
      some (message.place type field (.entry key content)) := by
  obtain ⟨keyed, small, inner, holds, within⟩ := takes
  have entries := MessageType.type_of_keyed (MessageType.mem_of_field? found) keyed
  rw [holds] at entries
  cases entries
  have entryFits := Nat.lt_of_le_of_lt (length_le_bytesRecord field.number _) fits
  have entryRead := back.entry small within alike entryFits
  simp only [receiveRecord, Value.record, Value.payload, found, holds, receiveMessage, keyed,
    entryRead, Option.map_some, entryKey_ofEntry, entryContent_ofEntry,
    store_eq_place type _ _ keyed]

/-- A message that receives the record of a value gives the value to its field. -/
theorem receiveRecord_record (back : ReadsBack read inside) {message : Message} {written : Value}
    (alike : value.Rearranged written) (found : type.field? field.number = some field)
    (takes : field.Takes inside value)
    (fits : (written.encode field.number).length < Varint.range)
    (unset : ∀ content, value = .message content → field.isMany = false →
      message.inner field.number = empty) :
    receiveRecord read type message (written.record field.number) =
      some (message.place type field value) := by
  have member := MessageType.mem_of_field? found
  cases value with
  | int value =>
    cases alike
    have holds : field.type.Holds (.int value) := takes
    rw [← receive_eq_place type _ (Field.unkeyed_of_holds member holds)]
    simp only [receiveRecord, Value.record, Value.payload, found, FieldType.ofWord?_wordOf holds]
  | bool value =>
    cases alike
    have holds : field.type.Holds (.bool value) := takes
    rw [← receive_eq_place type _ (Field.unkeyed_of_holds member holds)]
    simp only [receiveRecord, Value.record, Value.payload, found, FieldType.ofWord?_bool holds]
  | text value =>
    cases alike
    have holds : field.type.Holds (.text value) := takes
    rw [← receive_eq_place type _ (Field.unkeyed_of_holds member holds)]
    simp only [receiveRecord, Value.record, Value.payload, found,
      FieldType.eq_text_of_holds holds, Text.textOf_bytesOf]
  | bytes value =>
    cases alike
    have holds : field.type.Holds (.bytes value) := takes
    rw [← receive_eq_place type _ (Field.unkeyed_of_holds member holds)]
    simp only [receiveRecord, Value.record, Value.payload, found,
      FieldType.eq_bytes_of_holds holds]
  | message content =>
    obtain ⟨other, rfl, inner⟩ := alike.exists_message
    exact receiveRecord_message back inner found takes fits (unset content rfl)
  | entry key content =>
    obtain ⟨other, rfl, inner⟩ := alike.exists_entry
    exact receiveRecord_entry back inner found takes fits

/-! ### Receiving the records of a message -/

/-- Nothing is in a field that the values of a message leave free. -/
theorem inner_eq_empty {message : Message} (found : type.field? field.number = some field)
    (single : field.isMany = false)
    (spared : ∀ item ∈ message.items, field.spares type value item = true) :
    message.inner field.number = empty := by
  unfold inner
  split
  next content set =>
    have stays := spared _ (mem_items_of_value? set)
    have excluded : field.number ∈ type.rivals field :=
      (MessageType.mem_rivals found).2 (by simp [MessageType.excludes])
    rw [Field.spares_of_single type value single] at stays
    simp [excluded] at stays
  · rfl

/-- The values of a message arrive one after another. None of them excludes another, so each takes
its place among those that are there. -/
theorem foldlM_records (back : ReadsBack read inside) {items written : List (Nat × Value)}
    (alike : ItemsRearranged items written) {message : Message}
    (spared : ∀ other ∈ message.items, ∀ item ∈ items, type.Apart other item)
    (apart : items.Pairwise type.Apart)
    (fitting : ∀ item ∈ items, type.Fits inside item)
    (fits : ∀ item ∈ written, (item.2.encode item.1).length < Varint.range) :
    (written.map fun item => item.2.record item.1).foldlM (receiveRecord read type) message =
      some ⟨items.foldl insertItem message.items, message.unknown⟩ := by
  induction items generalizing written message with
  | nil =>
    cases alike
    obtain ⟨items, unknown⟩ := message
    rfl
  | cons item items inductionHypothesis =>
    obtain ⟨field, found, takes, admitted⟩ := fitting item List.mem_cons_self
    cases alike with
    | @cons number value other items others first rest =>
      cases MessageType.number_of_field? found
      have stays : ∀ other ∈ message.items, field.spares type value other = true :=
        fun other member => (spared other member _ List.mem_cons_self).1 field found
      have received : receiveRecord read type message (other.record field.number) =
          some ⟨insertItem message.items (field.number, value), message.unknown⟩ := by
        rw [receiveRecord_record back first found takes (fits _ List.mem_cons_self)
          fun _ _ single => inner_eq_empty found single stays, place_of_spared admitted stays]
      obtain ⟨headApart, apart⟩ := List.pairwise_cons.1 apart
      rw [List.map_cons, List.foldlM_cons, received]
      refine inductionHypothesis rest (fun other member item itemMember => ?_) apart
        (fun item member => fitting item (List.mem_cons_of_mem _ member))
        fun item member => fits item (List.mem_cons_of_mem _ member)
      rcases List.mem_cons.1 ((insertItem_perm _ _).mem_iff.1 member) with rfl | member
      · exact headApart item itemMember
      · exact spared other member item (List.mem_cons_of_mem _ itemMember)

/-- The unknown records are kept one behind another. -/
theorem foldlM_kept {records : List Record} (keeps : ∀ record ∈ records, type.Keeps record)
    (message : Message) :
    records.foldlM (receiveRecord read type) message =
      some (message.keep (records.map Record.raw).flatten) := by
  induction records generalizing message with
  | nil =>
    obtain ⟨items, unknown⟩ := message
    simp [keep]
  | cons record records inductionHypothesis =>
    have first := keeps record List.mem_cons_self read message
    have rest := inductionHypothesis
      (fun other member => keeps other (List.mem_cons_of_mem _ member)) (message.keep record.raw)
    rw [List.foldlM_cons, first]
    simpa [keep] using rest

/-- The bytes of a message split into the records of its values and those that are kept. -/
theorem split?_encode {depth : Nat} {items order written : List (Nat × Value)}
    {unknown : List UInt8} (shaped : Shaped depth inside type ⟨items, unknown⟩)
    (arranged : Arranged items order) (alike : ItemsRearranged order written)
    (fits : (Message.mk written unknown).encode.length < Varint.range) :
    (∀ item ∈ written, (item.2.encode item.1).length < Varint.range) ∧
    ∃ records : List Record, unknown = (records.map Record.raw).flatten ∧
      (∀ record ∈ records, type.Keeps record) ∧
      Record.split? depth (Message.mk written unknown).encode =
        some ((written.map fun item => item.2.record item.1) ++ records) := by
  obtain ⟨-, -, fitting, records, same, kept⟩ := shaped
  cases same
  rw [Message.encode, List.length_append] at fits
  have itemFits : ∀ item ∈ written, (item.2.encode item.1).length < Varint.range := by
    intro item member
    have := length_le_encodeItems member
    omega
  have rereads : ∀ record ∈ (written.map fun item => item.2.record item.1) ++ records,
      record.Rereads depth := by
    intro record member
    rcases List.mem_append.1 member with member | member
    · obtain ⟨item, itemMember, rfl⟩ := List.mem_map.1 member
      obtain ⟨value, orderMember⟩ := alike.exists_mem itemMember
      obtain ⟨field, found, _⟩ := fitting _ (arranged.perm.mem_iff.2 orderMember)
      have bounds := MessageType.number_bounds (MessageType.mem_of_field? found)
      rw [MessageType.number_of_field? found] at bounds
      exact Value.rereads_record depth bounds.1 bounds.2 (itemFits item itemMember)
    · exact (kept record member).1
  have split := Record.split?_flatten rereads
  rw [List.map_append, List.flatten_append, ← encodeItems_eq_flatten] at split
  exact ⟨itemFits, records, rfl, fun record member => (kept record member).2, split⟩

/-- A message of the right shape is put together again from its bytes. -/
theorem read_encode_of_shaped {depth : Nat} {message written : Message}
    (back : ReadsBack read inside) (shaped : Shaped depth inside type message)
    (alike : message.Rearranged written) (fits : written.encode.length < Varint.range) :
    ((Record.split? depth written.encode).bind fun records =>
      records.foldlM (receiveRecord read type) empty) = some message := by
  cases alike with
  | @intro items order written unknown arranged alike =>
    obtain ⟨itemFits, records, rfl, keeps, split⟩ := split?_encode shaped arranged alike fits
    have orderFitting : ∀ item ∈ order, type.Fits inside item :=
      fun item member => shaped.fitting item (arranged.perm.mem_iff.2 member)
    have ended : order.foldl insertItem [] = items :=
      (arranged.foldl_insertItem shaped.differentKeys).trans
        (foldl_insertItem_of_inOrder shaped.ordered)
    have filled : (written.map fun item => item.2.record item.1).foldlM
        (receiveRecord read type) empty = some ⟨order.foldl insertItem [], []⟩ :=
      foldlM_records back alike (fun _ member => by cases member)
        ((arranged.perm.pairwise_iff MessageType.Apart.symm).1 shaped.apart) orderFitting itemFits
    rw [ended] at filled
    have whole := @foldlM_kept read type records keeps ⟨items, []⟩
    rw [split, Option.bind_some, List.foldlM_append]
    refine Option.bind_eq_some_iff.2 ⟨_, filled, ?_⟩
    simpa [keep] using whole

/-! ### Messages inside messages -/

/-- A key of zero gives an entry nothing that it has not. -/
theorem readInto?_zeroKey (depth : Nat) (bytes : List UInt8) :
    readInto? depth .subscriptionsEntry empty (numberRecord 1 0 ++ bytes) =
      readInto? depth .subscriptionsEntry empty bytes := by
  have key : Record.Rereads depth ⟨1, .varint 0, numberRecord 1 0⟩ :=
    rereads_numberRecord depth (by decide) (by decide) (by decide)
  have split := Record.split?_of_read? (key bytes)
  simp only [readInto?_eq]
  rw [split]
  cases Record.split? depth bytes with
  | none => rfl
  | some records => rfl

theorem readsBack_readBelow (depth : Nat) : ReadsBack (readBelow depth) (Inside depth) := by
  induction depth with
  | zero => exact ⟨fun within => within.elim, fun bytes => rfl⟩
  | succ depth inductionHypothesis =>
    refine ⟨fun within alike fits => ?_, readInto?_zeroKey depth⟩
    show readInto? depth _ empty _ = _
    rw [readInto?_eq]
    exact read_encode_of_shaped inductionHypothesis within alike fits

/-! ### Messages of the program -/

/-- The messages that a program can get hold of and in which messages and groups are nested at most
`depth` deep: those that are read from bytes, and those that are built from values, among them
messages that it got hold of before. These may be put below all levels of the type. -/
inductive Obtained : (depth : Nat) → MessageType → Message → Prop where
  | built {type : MessageType} {room : Nat} {entries : List (Offer × Offer)} {message : Message}
    (before : ∀ each ∈ Offer.knownUnder entries, Obtained room each.1 each.2)
    (done : build type entries = .ok message) : Obtained (type.height + room) type message
  | parsed {type : MessageType} {depth : Nat} {bytes : List UInt8} {message : Message}
    (low : type.height ≤ depth) (done : readInto? depth type empty bytes = some message) :
    Obtained depth type message

/-- The messages of a type that a program can get hold of. What is nested deeper than messages are
read could be built, but no program could read it back. -/
def Obtainable (type : MessageType) (message : Message) : Prop :=
  ∃ depth ≤ deepest, Obtained depth type message

theorem inside_of_obtained {depth : Nat} {type : MessageType} {message : Message}
    (obtained : Obtained depth type message) : Inside (depth + 1) type message := by
  induction obtained with
  | built _ done inductionHypothesis =>
    exact Offer.inside_of_build (Nat.le_refl _) inductionHypothesis done
  | parsed low done =>
    have low := Nat.lt_succ_of_le low
    exact inside_of_readBelow low (inside_empty low) done

theorem inside_of_obtainable {message : Message} (obtained : Obtainable type message) :
    Inside (deepest + 1) type message := by
  obtain ⟨depth, low, obtained⟩ := obtained
  exact (inside_of_obtained obtained).mono (Nat.succ_le_succ low)

/-- A message that is built from values alone can be got hold of. -/
theorem obtainable_of_build {entries : List (Offer × Offer)} {message : Message}
    (plain : Offer.knownUnder entries = []) (done : build type entries = .ok message) :
    Obtainable type message :=
  ⟨type.height + 0, type.height_le_deepest, .built (by simp [plain]) done⟩

/-- A message that is read can be got hold of. -/
theorem obtainable_of_decode? {bytes : List UInt8} {message : Message}
    (done : decode? type bytes = some message) : Obtainable type message :=
  ⟨deepest, Nat.le_refl _, .parsed type.height_le_deepest done⟩

/-- Bytes written again after they were read. -/
def rewritten? (type : MessageType) (bytes : List UInt8) : Option (List UInt8) :=
  (decode? type bytes).map Message.encode

/-- What the bytes of a message are read as is the message itself, in whatever order the entries of
its maps were written, and reading bytes and writing them again changes nothing the second time. The
length of a record is a number of 64 bits, and no byte sequence of a program is longer. -/
theorem decode?_encode (type : MessageType) :
    (∀ message, Obtainable type message → message.encode.length < Varint.range →
      decode? type message.encode = some message) ∧
    (∀ message, Obtainable type message → ∀ written, message.Rearranged written →
      written.encode.length < Varint.range → decode? type written.encode = some message) ∧
    ∀ bytes again, rewritten? type bytes = some again → again.length < Varint.range →
      rewritten? type again = some again := by
  have anyOrder : ∀ message, Obtainable type message → ∀ written, message.Rearranged written →
      written.encode.length < Varint.range → decode? type written.encode = some message :=
    fun message obtained written alike fits =>
      (readsBack_readBelow (deepest + 1)).content (inside_of_obtainable obtained) alike fits
  have readBack : ∀ message, Obtainable type message → message.encode.length < Varint.range →
      decode? type message.encode = some message :=
    fun message obtained fits => anyOrder message obtained message (.refl message) fits
  refine ⟨readBack, anyOrder, fun bytes again written fits => ?_⟩
  obtain ⟨message, read, rfl⟩ := Option.map_eq_some_iff.1 written
  rw [rewritten?, readBack message (obtainable_of_decode? read) fits, Option.map_some]

/-- A member of a choice that holds its default, and a negative number. -/
def scanned : Message := ⟨[(3, .int (-1)), (4, .text "")], []⟩

/-- Empty subscriptions under two keys. -/
def subscribed : Message := ⟨[(1, .entry 0 empty), (1, .entry 7 empty)], []⟩

/-- The same subscriptions, with the greater key first. -/
def subscribedTurned : Message := ⟨[(1, .entry 7 empty), (1, .entry 0 empty)], []⟩

theorem members_and_entries_read_back :
    (build .clusterScan [(.text "count", .int (-1)), (.text "object_type", .text "")] =
        .ok scanned ∧ decode? .clusterScan scanned.encode = some scanned) ∧
    (build .subscriptions [(.text "channels_or_patterns_by_type",
        .table [(.int 7, .table []), (.int 0, .table [])])] = .ok subscribed ∧
      decode? .subscriptions subscribedTurned.encode = some subscribed) ∧
    rewritten? .subscriptions [0x0A, 0x00, 0x10, 0x05] =
        some [0x0A, 0x04, 0x08, 0x00, 0x12, 0x00, 0x10, 0x05] ∧
      rewritten? .subscriptions [0x0A, 0x04, 0x08, 0x00, 0x12, 0x00, 0x10, 0x05] =
        some [0x0A, 0x04, 0x08, 0x00, 0x12, 0x00, 0x10, 0x05] := by
  have scan : build .clusterScan [(.text "count", .int (-1)), (.text "object_type", .text "")] =
      .ok scanned := rfl
  have subscribe : build .subscriptions [(.text "channels_or_patterns_by_type",
      .table [(.int 7, .table []), (.int 0, .table [])])] = .ok subscribed := rfl
  have turned : subscribed.Rearranged subscribedTurned :=
    .intro (@Arranged.swap _ [] [] _ _ .same rfl rfl) (.refl _)
  have written : rewritten? .subscriptions [0x0A, 0x00, 0x10, 0x05] =
      some [0x0A, 0x04, 0x08, 0x00, 0x12, 0x00, 0x10, 0x05] := by decide +kernel
  exact ⟨⟨scan, (decode?_encode .clusterScan).1 _ (obtainable_of_build rfl scan)
      (by decide +kernel)⟩,
    ⟨subscribe, (decode?_encode .subscriptions).2.1 _ (obtainable_of_build rfl subscribe) _ turned
      (by decide +kernel)⟩,
    written, (decode?_encode .subscriptions).2.2 _ _ written (by decide)⟩

end Message

end Bindery.Wire
