/-
This file proves that reading leads from messages of the right shape to messages of the right
shape.

A record is either kept, and then every message of the type would keep it, or its value is given
to a field. The value of a field of messages was itself read, one level further down. So the
shape is carried from the inside outwards, by induction on the depth.
-/

import Bindery.Proofs.Wire.Shape

namespace Bindery.Wire.Message

/-! ### Receiving one record -/

/-- What can come of a record: it is kept by every message, or it gives a field a scalar or a
message that is read from it. -/
theorem receiveRecord_cases {read : Reader} {type : MessageType} {message after : Message}
    {record : Record} (small : ∀ word, record.payload = .varint word → word < Varint.range)
    (received : receiveRecord read type message record = some after) :
    (type.Keeps record ∧ after = message.keep record.raw) ∨
      ∃ field, type.field? record.number = some field ∧
        ((∃ value, field.type.Holds value ∧ after = message.receive type field value) ∨
          ∃ inner bytes, field.type = .message inner ∧
            message.receiveMessage read type field inner bytes = some after) := by
  unfold receiveRecord at received
  split at received
  next absent =>
    cases received
    exact .inl ⟨fun read message => by simp only [receiveRecord, absent], rfl⟩
  next field found =>
    split at received
    next _ _ inner bytes holds _ =>
      exact .inr ⟨field, found, .inr ⟨inner, bytes, holds, received⟩⟩
    next _ _ bytes holds _ =>
      cases received
      exact .inr ⟨field, found, .inl ⟨.bytes bytes, by rw [holds]; trivial, rfl⟩⟩
    next _ _ bytes holds _ =>
      split at received
      next text _ =>
        cases received
        exact .inr ⟨field, found, .inl ⟨.text text, by rw [holds]; trivial, rfl⟩⟩
      next => cases received
    next _ _ word holds =>
      split at received
      next value meant =>
        cases received
        exact .inr ⟨field, found, .inl ⟨value,
          FieldType.holds_of_ofWord? (small word holds) meant, rfl⟩⟩
      next meaningless =>
        cases received
        exact .inl ⟨fun read message => by
          simp only [receiveRecord, found, holds, meaningless], rfl⟩
    next =>
      cases received
      exact .inl ⟨fun read message => by simp only [receiveRecord, found], rfl⟩

/-! ### Keeping the shape -/

theorem mem_items_of_value? {message : Message} {number : Nat} {value : Value}
    (found : message.value? number = some value) : (number, value) ∈ message.items := by
  have member := List.mem_of_head? found
  simp only [values, List.mem_map, List.mem_filter] at member
  obtain ⟨item, ⟨member, same⟩, rfl⟩ := member
  simpa [← of_decide_eq_true same] using member

variable {depth : Nat} {type : MessageType} {message : Message}

/-- The message that a field of messages holds can stand one level further down. -/
theorem Shaped.inside_inner (shaped : Shaped depth (Inside depth) type message) {field : Field}
    {inner : MessageType} (found : type.field? field.number = some field)
    (holds : field.type = .message inner) (low : inner.height < depth) :
    Inside depth inner (message.inner field.number) := by
  unfold Message.inner
  split
  next content set =>
    obtain ⟨other, otherFound, ⟨_, type, otherHolds, within⟩, _⟩ :=
      shaped.fitting _ (mem_items_of_value? set)
    rw [found] at otherFound
    cases otherFound
    rw [holds] at otherHolds
    cases otherHolds
    exact within
  · exact inside_empty low

/-- The key of an entry has 32 bits. -/
theorem entryKey_lt {entry : Message} (within : Inside depth .subscriptionsEntry entry) :
    entry.entryKey < 0x100000000 := by
  cases depth with
  | zero => exact within.elim
  | succ depth =>
    unfold entryKey
    split
    next key set =>
      obtain ⟨field, found, takes, _⟩ := within.fitting _ (mem_items_of_value? set)
      cases found
      obtain ⟨low, high⟩ := takes
      omega
    · decide

/-- What an entry holds can be written as an entry again, whether its key and its message were
there or not. -/
theorem inside_ofEntry_of_inside {entry : Message}
    (within : Inside depth .subscriptionsEntry entry)
    (low : MessageType.subscriptionsEntry.height < depth) :
    Inside depth .subscriptionsEntry (.ofEntry entry.entryKey entry.entryContent) := by
  cases depth with
  | zero => cases low
  | succ depth =>
    have channelsLow : MessageType.channels.height < depth := Nat.lt_of_succ_lt_succ low
    have content : Inside depth .channels (entry.inner 2) :=
      @Shaped.inside_inner depth .subscriptionsEntry entry within
        ⟨"value", 2, .message .channels, .plain⟩ .channels rfl rfl channelsLow
    exact inside_ofEntry (entryKey_lt within) content

/-- A message that receives a record keeps its shape, if the messages that are read for its fields
have theirs. -/
theorem Shaped.receiveRecord {read : Reader} {record : Record} {after : Message}
    (shaped : Shaped depth (Inside depth) type message) (low : type.height ≤ depth)
    (reads : ∀ inner start bytes content, inner.height < depth → Inside depth inner start →
      read inner start bytes = some content → Inside depth inner content)
    (rereads : record.Rereads depth)
    (received : receiveRecord read type message record = some after) :
    Shaped depth (Inside depth) type after := by
  rcases receiveRecord_cases (fun word holds => rereads.word_lt holds) received with
    ⟨keeps, rfl⟩ | ⟨field, found, ⟨value, holds, rfl⟩ | ⟨inner, bytes, holds, given⟩⟩
  · exact shaped.keep rereads keeps
  · have found := MessageType.number_of_field? found ▸ found
    have unkeyed := Field.unkeyed_of_holds (MessageType.mem_of_field? found) holds
    rw [receive_eq_place type value unkeyed]
    exact shaped.place found (Field.takes_of_holds holds)
  · have found := MessageType.number_of_field? found ▸ found
    have member := MessageType.mem_of_field? found
    have innerLow : inner.height < depth :=
      Nat.lt_of_lt_of_le (MessageType.height_lt member holds) low
    cases rule : field.rule with
    | repeated =>
      simp only [receiveMessage, rule] at given
      obtain ⟨content, read, rfl⟩ := Option.map_eq_some_iff.1 given
      have within := reads _ _ _ _ innerLow (inside_empty innerLow) read
      rw [insert_eq_place type _ rule]
      exact shaped.place found ⟨by simp [rule], inner, holds, within⟩
    | keyed =>
      simp only [receiveMessage, rule] at given
      obtain ⟨entry, read, rfl⟩ := Option.map_eq_some_iff.1 given
      have within := reads _ _ _ _ innerLow (inside_empty innerLow) read
      have entries := MessageType.type_of_keyed member rule
      rw [holds] at entries
      cases entries
      rw [store_eq_place type _ _ rule]
      exact shaped.place found
        ⟨rule, entryKey_lt within, _, holds, inside_ofEntry_of_inside within innerLow⟩
    | plain | optional | oneof =>
      simp only [receiveMessage, rule] at given
      obtain ⟨content, read, rfl⟩ := Option.map_eq_some_iff.1 given
      have start := shaped.inside_inner found holds innerLow
      have within := reads _ _ _ _ innerLow start read
      rw [assign_eq_place type _ (by simp [Field.isMany, rule])]
      exact shaped.place found ⟨by simp [rule], inner, holds, within⟩

/-! ### Whole messages -/

/-- How the messages of fields are read when at most `depth` messages are nested. -/
def readBelow : (depth : Nat) → Reader
  | 0 => fun _ _ _ => none
  | depth + 1 => readInto? depth

theorem readInto?_eq (depth : Nat) (type : MessageType) (message : Message) (bytes : List UInt8) :
    readInto? depth type message bytes =
      (Record.split? depth bytes).bind fun records =>
        records.foldlM (receiveRecord (readBelow depth) type) message := by
  cases depth <;> rfl

/-- Reading leads from a message that can stand somewhere to another such message. -/
theorem inside_of_readBelow {depth : Nat} {type : MessageType} {message after : Message}
    {bytes : List UInt8} (low : type.height < depth) (within : Inside depth type message)
    (read : readBelow depth type message bytes = some after) : Inside depth type after := by
  induction depth generalizing type message after bytes with
  | zero => cases low
  | succ depth inductionHypothesis =>
    change readInto? depth type message bytes = some after at read
    rw [readInto?_eq] at read
    obtain ⟨records, split, received⟩ := Option.bind_eq_some_iff.1 read
    have rereads := (Record.rereads_of_split? split).2
    clear split read
    induction records generalizing message with
    | nil =>
      cases received
      exact within
    | cons record records recordsHypothesis =>
      rw [List.foldlM_cons] at received
      obtain ⟨middle, first, others⟩ := Option.bind_eq_some_iff.1 received
      have step : Shaped depth (Inside depth) type middle :=
        Shaped.receiveRecord within (Nat.le_of_lt_succ low)
          (fun inner start bytes content innerLow startWithin inside =>
            inductionHypothesis innerLow startWithin inside)
          (rereads record List.mem_cons_self) first
      exact recordsHypothesis step others
        fun other member => rereads other (List.mem_cons_of_mem _ member)

end Bindery.Wire.Message
