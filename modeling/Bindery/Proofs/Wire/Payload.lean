/-
This file proves that the bytes which a message shows of a text or of a byte sequence are those that
were received for it last.

A record changes what a field shows in two ways only: it brings bytes for this field, or it has
the kind of contents that a field of the same choice takes, and then that field is the one which is
set. All other records leave the field as it was. So what is shown at the end is decided by the
last record of bytes for the field and by the records behind it. A text shows the bytes that it was
read from, because they are the only ones that are read as that text.
-/

import Bindery.Proofs.Text.Decoded
import Bindery.Proofs.Wire.Received
import Bindery.Proofs.Wire.Values
import Bindery.Wire.View

namespace Bindery.Wire

/-! ### What records say about a field -/

/-- Whether contents are of the kind that the values of a type travel in. -/
def FieldType.suits : FieldType → Payload → Bool
  | .text, .delimited _ | .bytes, .delimited _ | .message _, .delimited _ => true
  | .bool, .varint _ | .int32, .varint _ | .int64, .varint _ | .uint32, .varint _
  | .uint64, .varint _ | .enumeration _, .varint _ => true
  | _, _ => false

/-- The bytes that a record brings for a field. -/
def Record.bytesFor? (record : Record) (number : Nat) : Option (List UInt8) :=
  match record.payload with
  | .delimited bytes => if record.number = number then some bytes else none
  | _ => none

/-- The last bytes that records bring for a field, and the records behind them. -/
def lastBytes? (number : Nat) : List Record → Option (List UInt8 × List Record)
  | [] => none
  | record :: later =>
    match lastBytes? number later with
    | some last => some last
    | none => (record.bytesFor? number).map (·, later)

/-- Whether a record sets another field of the choice that a field belongs to. -/
def MessageType.displaces (type : MessageType) (field : Field) (record : Record) : Bool :=
  match type.field? record.number with
  | none => false
  | some other =>
    other.number ≠ field.number && excludes other field && other.type.suits record.payload

/-- The bytes that a field of one text or one byte sequence shows after records: the last ones for
it, but none of them if a record behind them set another field of its choice. -/
def MessageType.shownBytes (type : MessageType) (field : Field) (records : List Record) :
    List UInt8 :=
  match lastBytes? field.number records with
  | some (bytes, later) => if later.any (type.displaces field) then [] else bytes
  | none => []

/-- The bytes that are shown of a value. -/
def Value.shownBytes : Value → List UInt8
  | .text value => Text.bytesOf value
  | .bytes value => value
  | _ => []

namespace Message

variable {read : Reader} {type : MessageType} {field other : Field} {message after : Message}
  {record : Record}

/-! ### One record -/

/-- A record with contents of another kind than those of its field is kept. -/
theorem keep_of_not_suits (found : type.field? record.number = some field)
    (unfit : field.type.suits record.payload = false)
    (received : receiveRecord read type message record = some after) :
    after = message.keep record.raw := by
  unfold receiveRecord at received
  rw [found] at received
  dsimp only at received
  cases holds : field.type <;> cases contents : record.payload <;>
    simp_all [FieldType.suits, FieldType.ofWord?]

/-- A field of messages that receives one gets a value. -/
theorem place_of_receiveMessage {inner : MessageType} {bytes : List UInt8}
    (received : message.receiveMessage read type field inner bytes = some after) :
    ∃ value, after = message.place type field value := by
  unfold receiveMessage at received
  cases rule : field.rule with
  | repeated =>
    rw [rule] at received
    obtain ⟨content, -, rfl⟩ := Option.map_eq_some_iff.1 received
    exact ⟨_, insert_eq_place type _ rule⟩
  | keyed =>
    rw [rule] at received
    obtain ⟨entry, -, rfl⟩ := Option.map_eq_some_iff.1 received
    exact ⟨_, store_eq_place type _ _ rule⟩
  | plain | optional | oneof =>
    rw [rule] at received
    obtain ⟨content, -, rfl⟩ := Option.map_eq_some_iff.1 received
    exact ⟨_, assign_eq_place type _ (by simp [Field.isMany, rule])⟩

/-- A record with contents of the kind of its field gives the field a value. -/
theorem place_of_suits (found : type.field? record.number = some field)
    (fit : field.type.suits record.payload = true)
    (received : receiveRecord read type message record = some after) :
    ∃ value, after = message.place type field value := by
  have member := MessageType.mem_of_field? found
  have unkeyed : (∀ inner, field.type ≠ .message inner) → field.rule ≠ .keyed :=
    fun scalar keyed => scalar _ (MessageType.type_of_keyed member keyed)
  unfold receiveRecord at received
  rw [found] at received
  dsimp only at received
  split at received
  next => exact place_of_receiveMessage received
  next holds _ =>
    cases received
    exact ⟨_, receive_eq_place type _ (unkeyed fun inner => by rw [holds]; nofun)⟩
  next holds _ =>
    split at received <;> cases received
    exact ⟨_, receive_eq_place type _ (unkeyed fun inner => by rw [holds]; nofun)⟩
  next word contents =>
    split at received
    next value meant =>
      cases received
      refine ⟨_, receive_eq_place type _ (unkeyed fun inner holds => ?_)⟩
      rw [holds] at meant
      cases meant
    next meaningless =>
      rw [contents] at fit
      cases holds : field.type <;> simp_all [FieldType.suits, FieldType.ofWord?]
  next => cases holds : field.type <;> cases contents : record.payload <;>
      simp_all [FieldType.suits]

theorem payloadBytes_eq (message : Message) (number : Nat) :
    message.payloadBytes number = ((message.values number).head?.map Value.shownBytes).getD [] := by
  unfold payloadBytes value?
  cases (message.values number).head? with
  | none => rfl
  | some value => cases value <;> rfl

/-- What does not count as set has no bytes. -/
theorem shownBytes_of_not_shows {value : Value} (hidden : field.shows value = false) :
    value.shownBytes = [] := by
  have default : value.isDefault = true := by
    simp only [Field.shows, Bool.or_eq_false_iff, Bool.not_eq_false'] at hidden
    exact hidden.2
  cases value with
  | text text =>
    have empty : text = "" := by simpa [Value.isDefault] using default
    rw [empty]
    rfl
  | bytes bytes => simpa [Value.isDefault, Value.shownBytes] using default
  | _ => rfl

/-- What a field of one value shows of a value that it was given. -/
theorem payloadBytes_place_self (message : Message) (value : Value)
    (found : type.field? field.number = some field) (single : field.isMany = false) :
    (message.place type field value).payloadBytes field.number = value.shownBytes := by
  rw [payloadBytes_eq, values_place_self message value found single]
  cases set : field.shows value with
  | false => rw [shownBytes_of_not_shows set]; rfl
  | true => rfl

/-- What a field shows after another one was given a value. -/
theorem payloadBytes_place_of_ne (message : Message) (value : Value)
    (found : type.field? field.number = some field) (differ : other.number ≠ field.number) :
    (message.place type other value).payloadBytes field.number =
      if MessageType.excludes other field then [] else message.payloadBytes field.number := by
  rw [payloadBytes_eq, payloadBytes_eq, values_place_of_ne message value found (Ne.symm differ)]
  cases MessageType.excludes other field <;> rfl

/-- What a field shows after a record of its own. -/
theorem payloadBytes_receive_own (own : type.field? field.number = some field)
    (single : field.isMany = false) (holds : field.type = .text ∨ field.type = .bytes)
    (same : record.number = field.number)
    (received : receiveRecord read type message record = some after) :
    after.payloadBytes field.number =
      (record.bytesFor? field.number).getD (message.payloadBytes field.number) := by
  have unkeyed : field.rule ≠ .keyed := fun keyed => by simp [Field.isMany, keyed] at single
  have given : ∀ value, (message.receive type field value).payloadBytes field.number =
      value.shownBytes := fun value => by
    rw [receive_eq_place type value unkeyed, payloadBytes_place_self message value own single]
  have found : type.field? record.number = some field := same ▸ own
  unfold receiveRecord at received
  rw [found] at received
  dsimp only at received
  unfold Record.bytesFor?
  cases contents : record.payload with
  | delimited bytes =>
    rw [contents] at received
    rcases holds with holds | holds <;> rw [holds] at received <;> dsimp only at received
    · split at received <;> cases received
      next text read =>
        rw [given]
        simp [same, Value.shownBytes, Text.bytesOf_of_textOf read]
    · cases received
      rw [given]
      simp [same, Value.shownBytes]
  | varint | fixed64 | group | fixed32 =>
    rw [contents] at received
    rcases holds with holds | holds <;> rw [holds] at received <;> cases received <;> rfl

/-- What a field shows after any record. -/
theorem payloadBytes_receiveRecord (member : field ∈ type.fields)
    (payload : field.isPayload = true)
    (received : receiveRecord read type message record = some after) :
    after.payloadBytes field.number =
      match record.bytesFor? field.number with
      | some bytes => bytes
      | none => if type.displaces field record then [] else message.payloadBytes field.number := by
  have own := MessageType.field?_number member
  obtain ⟨single, holds⟩ : field.isMany = false ∧ (field.type = .text ∨ field.type = .bytes) := by
    simpa [Field.isPayload] using payload
  by_cases same : record.number = field.number
  · have stays : type.displaces field record = false := by
      simp [MessageType.displaces, same, own]
    rw [payloadBytes_receive_own own single holds same received, stays]
    cases record.bytesFor? field.number <;> rfl
  · have nothing : record.bytesFor? field.number = none := by
      unfold Record.bytesFor?
      split
      · exact if_neg same
      · rfl
    rw [nothing]
    unfold MessageType.displaces
    cases found : type.field? record.number with
    | none =>
      simp only [receiveRecord, found, Option.some.injEq] at received
      subst received
      rfl
    | some other =>
      have number := MessageType.number_of_field? found
      cases fit : other.type.suits record.payload with
      | false =>
        rw [keep_of_not_suits found fit received]
        simp [fit]
        rfl
      | true =>
        obtain ⟨value, rfl⟩ := place_of_suits found fit received
        rw [payloadBytes_place_of_ne message value own (number ▸ same)]
        simp [number, same, fit]

/-! ### All records -/

theorem payloadBytes_foldlM {records : List Record} (member : field ∈ type.fields)
    (payload : field.isPayload = true)
    (received : records.foldlM (receiveRecord read type) message = some after) :
    after.payloadBytes field.number =
      match lastBytes? field.number records with
      | some (bytes, later) => if later.any (type.displaces field) then [] else bytes
      | none =>
        if records.any (type.displaces field) then [] else message.payloadBytes field.number := by
  induction records generalizing message with
  | nil =>
    cases received
    rfl
  | cons record records inductionHypothesis =>
    rw [List.foldlM_cons] at received
    obtain ⟨middle, first, others⟩ := Option.bind_eq_some_iff.1 received
    rw [inductionHypothesis others, lastBytes?]
    cases last : lastBytes? field.number records with
    | some found => rfl
    | none =>
      dsimp only
      rw [payloadBytes_receiveRecord member payload first]
      cases record.bytesFor? field.number with
      | some bytes => rfl
      | none =>
        rw [List.any_cons]
        cases type.displaces field record <;> simp

/-! ### What is shown -/

/-- No two fields of a type have the same name. -/
theorem named?_name {type : MessageType} {field : Field} (member : field ∈ type.fields) :
    type.named? field.name = some field := by
  have all : ∀ field ∈ type.fields, type.named? field.name = some field := by
    cases type <;> decide
  exact all field member

/-- A field shows bytes exactly if it holds one text or one byte sequence, and these are the last
ones that were received for it. -/
theorem payload_eq_shownBytes {type : MessageType} {data : List UInt8} {message : Message}
    {field : Field} (read : decode? type data = some message) (member : field ∈ type.fields) :
    (message.payload type field.name = .error .noPayload ↔
      ¬(field.isMany = false ∧ (field.type = .text ∨ field.type = .bytes))) ∧
    ∃ records, Record.split? deepest data = some records ∧
      (field.isMany = false → field.type = .text ∨ field.type = .bytes →
        message.payload type field.name = .ok (type.shownBytes field records)) := by
  have shown : message.payload type field.name =
      if field.isPayload then .ok (message.payloadBytes field.number) else .error .noPayload := by
    rw [payload, named?_name member]
  have payload : field.isPayload = true ↔
      field.isMany = false ∧ (field.type = .text ∨ field.type = .bytes) := by
    simp [Field.isPayload]
  rw [shown, ← payload]
  refine ⟨by split <;> simp [*], ?_⟩
  rw [decode?, readInto?_eq] at read
  obtain ⟨records, split, received⟩ := Option.bind_eq_some_iff.1 read
  refine ⟨records, split, fun single holds => ?_⟩
  have isPayload := payload.2 ⟨single, holds⟩
  rw [if_pos isPayload, payloadBytes_foldlM member isPayload received, MessageType.shownBytes]
  cases lastBytes? field.number records with
  | some last => rfl
  | none =>
    dsimp only
    split <;> rfl

/-- The text of a response that closes the connection. -/
def closingError : Field := ⟨"closing_error", 5, .text, .oneof "value"⟩

/-- A text twice for the same field, a record of no field behind the first one, and one behind the
second that has the number of another field of the choice, but contents that it does not take. -/
def closedTwice : List UInt8 :=
  [0x2A, 0x02, 0x61, 0x62] ++ [0x48, 0x01] ++ [0x2A, 0x02, 0xC3, 0xA9] ++ [0x12, 0x00]

/-- The same records, and behind them a number for that other field. -/
def closedAndPointed : List UInt8 := closedTwice ++ [0x10, 0x05]

theorem last_text_shown :
    (∃ message, decode? .response closedTwice = some message ∧
      message.payload .response "closing_error" = .ok [0xC3, 0xA9] ∧
      message.payload .response "callback_idx" = .error .noPayload) ∧
    ∃ message, decode? .response closedAndPointed = some message ∧
      message.payload .response "closing_error" = .ok [] := by
  have closing : closingError ∈ MessageType.response.fields := by decide
  obtain ⟨closed, closedRead⟩ : ∃ message, decode? .response closedTwice = some message :=
    Option.isSome_iff_exists.1 (by decide +kernel)
  obtain ⟨pointed, pointedRead⟩ : ∃ message, decode? .response closedAndPointed = some message :=
    Option.isSome_iff_exists.1 (by decide +kernel)
  obtain ⟨-, records, split, shown⟩ := payload_eq_shownBytes closedRead closing
  obtain ⟨-, allRecords, allSplit, allShown⟩ := payload_eq_shownBytes pointedRead closing
  have last : (Record.split? deepest closedTwice).map
      (MessageType.response.shownBytes closingError) = some [0xC3, 0xA9] := by decide +kernel
  have none : (Record.split? deepest closedAndPointed).map
      (MessageType.response.shownBytes closingError) = some [] := by decide +kernel
  rw [split] at last
  rw [allSplit] at none
  refine ⟨⟨closed, closedRead, ?_, ?_⟩, pointed, pointedRead, ?_⟩
  · exact (shown rfl (.inl rfl)).trans (congrArg Except.ok (Option.some.inj last))
  · have counter : ⟨"callback_idx", 1, .uint32, .plain⟩ ∈ MessageType.response.fields := by decide
    exact (payload_eq_shownBytes closedRead counter).1.2 (by decide)
  · exact (allShown rfl (.inl rfl)).trans (congrArg Except.ok (Option.some.inj none))

end Message

end Bindery.Wire
