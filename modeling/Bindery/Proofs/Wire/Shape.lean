/-
This file says which messages can come about, and proves that giving a value to a field and
keeping a record lead from such a message to another.

However a value comes in, by reading or by building, the same happens: the values that cannot
stand beside it are dropped, and it takes its place in the order unless it counts as not set.
What holds of all messages is then what one such step keeps: the order, that no two values
exclude each other, that every value fits its field, and that the records that belong to no field
would be kept again.
-/

import Bindery.Proofs.Wire.Fields
import Bindery.Proofs.Wire.Order
import Bindery.Proofs.Wire.Record

namespace Bindery.Wire

/-! ### Giving a value to a field -/

/-- Whether another value stays when a field receives this one. -/
def Field.spares (field : Field) (type : MessageType) (value : Value) (other : Nat × Value) :
    Bool :=
  match field.rule with
  | .repeated => true
  | .keyed => !(other.1 = field.number && other.2.key = value.key)
  | .plain | .optional | .oneof _ => !(type.rivals field).contains other.1

theorem Field.spares_of_repeated {field : Field} (type : MessageType) (value : Value)
    (repeated : field.rule = .repeated) : field.spares type value = fun _ => true := by
  funext other
  rw [spares, repeated]

theorem Field.spares_of_keyed {field : Field} (type : MessageType) (value : Value)
    (keyed : field.rule = .keyed) :
    field.spares type value =
      fun other => !(other.1 = field.number && other.2.key = value.key) := by
  funext other
  rw [spares, keyed]

theorem Field.spares_of_single {field : Field} (type : MessageType) (value : Value)
    (single : field.isMany = false) :
    field.spares type value = fun other => !(type.rivals field).contains other.1 := by
  funext other
  cases rule : field.rule with
  | repeated | keyed => simp [isMany, rule] at single
  | plain | optional | oneof => rw [spares, rule]

/-- Whether a value that a field receives is there afterwards. -/
def Field.admits (field : Field) (value : Value) : Bool := field.isMany || field.shows value

/-- The message after a field has received a value, whatever the rule of the field. -/
def Message.place (message : Message) (type : MessageType) (field : Field) (value : Value) :
    Message :=
  let spared : Message := { message with items := message.items.filter (field.spares type value) }
  if field.admits value then spared.insert field.number value else spared

namespace Message

theorem insert_eq_place {message : Message} {field : Field} (type : MessageType) (value : Value)
    (repeated : field.rule = .repeated) :
    message.insert field.number value = message.place type field value := by
  have many : field.admits value = true := by
    rw [Field.admits, Field.isMany, repeated, Bool.true_or]
  have all : message.items.filter (fun _ => true) = message.items :=
    List.filter_eq_self.2 fun _ _ => rfl
  obtain ⟨items, unknown⟩ := message
  rw [place, Field.spares_of_repeated type value repeated, all, if_pos many]

theorem store_eq_place {message : Message} {field : Field} (type : MessageType) (key : Nat)
    (content : Message) (keyed : field.rule = .keyed) :
    message.store field.number key content = message.place type field (.entry key content) := by
  have many : field.admits (.entry key content) = true := by
    rw [Field.admits, Field.isMany, keyed, Bool.true_or]
  rw [place, Field.spares_of_keyed type _ keyed, if_pos many]
  rfl

theorem assign_eq_place {message : Message} {field : Field} (type : MessageType) (value : Value)
    (single : field.isMany = false) :
    message.assign type field value = message.place type field value := by
  have alone : field.admits value = field.shows value := by
    rw [Field.admits, single, Bool.false_or]
  rw [place, Field.spares_of_single type value single, alone]
  rfl

/-- Fields of all rules receive in the same way, but for keyed ones, whose values have keys. -/
theorem receive_eq_place {message : Message} {field : Field} (type : MessageType) (value : Value)
    (unkeyed : field.rule ≠ .keyed) :
    message.receive type field value = message.place type field value := by
  unfold receive
  split
  next many =>
    rcases field.isMany_iff.1 many with repeated | keyed
    · exact insert_eq_place type value repeated
    · exact absurd keyed unkeyed
  next single => exact assign_eq_place type value (by simpa using single)

/-- A value that excludes none of the others is inserted among them. -/
theorem place_of_spared {message : Message} {type : MessageType} {field : Field} {value : Value}
    (admitted : field.admits value = true)
    (spared : ∀ item ∈ message.items, field.spares type value item = true) :
    message.place type field value =
      ⟨insertItem message.items (field.number, value), message.unknown⟩ := by
  rw [place, List.filter_eq_self.2 spared, if_pos admitted]
  rfl

end Message

/-! ### Values that stay beside each other -/

/-- If one value stays when another comes, the other would stay as well if the one came later. -/
theorem Field.spares_comm {type : MessageType} {one other : Field} {first second : Nat × Value}
    (oneFound : type.field? first.1 = some one) (otherFound : type.field? second.1 = some other)
    (spared : one.spares type first.2 second = true) :
    other.spares type second.2 first = true := by
  have oneNumber := MessageType.number_of_field? oneFound
  have otherNumber := MessageType.number_of_field? otherFound
  have same : one.number = other.number → one = other := by
    intro equal
    rw [← oneNumber, equal, otherNumber, otherFound] at oneFound
    exact (Option.some.inj oneFound).symm
  cases rule : other.isMany with
  | false =>
    rw [spares_of_single type _ rule]
    simp only [Bool.not_eq_true', List.contains_eq_mem, decide_eq_false_iff_not,
      MessageType.mem_rivals oneFound]
    intro excluded
    rw [MessageType.excludes_comm] at excluded
    cases many : one.isMany with
    | true =>
      rw [same (MessageType.same_number_of_excludes many excluded), rule] at many
      cases many
    | false =>
      rw [spares_of_single type _ many] at spared
      simp only [Bool.not_eq_true', List.contains_eq_mem, decide_eq_false_iff_not,
        MessageType.mem_rivals otherFound] at spared
      exact spared excluded
  | true =>
    rcases other.isMany_iff.1 rule with repeated | keyed
    · rw [spares_of_repeated type _ repeated]
    · rw [spares_of_keyed type _ keyed]
      -- Only a value of the same field can stand under the same key.
      by_cases equal : one.number = other.number
      · cases same equal
        rw [spares_of_keyed type _ keyed] at spared
        grind
      · simp [← oneNumber, equal]

/-- Whether two values can stand beside each other: each stays when the other comes. -/
def MessageType.Apart (type : MessageType) (first second : Nat × Value) : Prop :=
  (∀ field, type.field? second.1 = some field → field.spares type second.2 first = true) ∧
    ∀ field, type.field? first.1 = some field → field.spares type first.2 second = true

theorem MessageType.Apart.symm {type : MessageType} {first second : Nat × Value}
    (apart : type.Apart first second) : type.Apart second first := And.symm apart

theorem MessageType.apart_of_spares {type : MessageType} {field : Field} {value : Value}
    {item : Nat × Value} (found : type.field? field.number = some field)
    (spared : field.spares type value item = true) : type.Apart (field.number, value) item := by
  refine ⟨fun again same => ?_, fun again same => ?_⟩
  · exact @Field.spares_comm type field again (field.number, value) item found same spared
  · rw [found] at same
    cases same
    exact spared

/-! ### The shape of a message -/

/-- The message that an entry of a keyed field is written as. The key stands there unless it is
zero. -/
def Message.ofEntry (key : Nat) (content : Message) : Message :=
  ⟨(if key = 0 then [] else [(1, .int key)]) ++ [(2, .message content)], []⟩

/-- Whether a field can hold a value, where `inside` tells which messages can stand in it. A value
under a key stands in its entry. -/
def Field.Takes (inside : MessageType → Message → Prop) (field : Field) : Value → Prop
  | .message content =>
    field.rule ≠ .keyed ∧ ∃ type, field.type = .message type ∧ inside type content
  | .entry key content =>
    field.rule = .keyed ∧ key < 0x100000000 ∧
      ∃ type, field.type = .message type ∧ inside type (.ofEntry key content)
  | value => field.type.Holds value

theorem Field.takes_of_holds {inside : MessageType → Message → Prop} {field : Field} {value : Value}
    (holds : field.type.Holds value) : field.Takes inside value := by
  cases value with
  | int | bool | text | bytes => exact holds
  | message | entry =>
    -- These are no scalars.
    cases type : field.type <;> rw [type] at holds <;> exact holds.elim

theorem Field.Takes.mono {inside within : MessageType → Message → Prop} {field : Field}
    {value : Value} (takes : field.Takes inside value)
    (more : ∀ type content, inside type content → within type content) :
    field.Takes within value := by
  cases value with
  | int | bool | text | bytes => exact takes
  | message content =>
    obtain ⟨unkeyed, type, holds, content⟩ := takes
    exact ⟨unkeyed, type, holds, more _ _ content⟩
  | entry key content =>
    obtain ⟨keyed, small, type, holds, content⟩ := takes
    exact ⟨keyed, small, type, holds, more _ _ content⟩

/-- Whether a value stands under the number of a field that can hold it and shows it. -/
def MessageType.Fits (type : MessageType) (inside : MessageType → Message → Prop)
    (item : Nat × Value) : Prop :=
  ∃ field, type.field? item.1 = some field ∧ field.Takes inside item.2 ∧
    field.admits item.2 = true

/-- A field of values under keys holds no scalars. -/
theorem Field.unkeyed_of_holds {type : MessageType} {field : Field} {value : Value}
    (member : field ∈ type.fields) (holds : field.type.Holds value) : field.rule ≠ .keyed := by
  intro keyed
  rw [MessageType.type_of_keyed member keyed] at holds
  exact holds

/-- Whether every message of a type keeps a record as it is. -/
def MessageType.Keeps (type : MessageType) (record : Record) : Prop :=
  ∀ read message, Message.receiveRecord read type message record = some (message.keep record.raw)

namespace Message

/-- What holds of every message. At most `depth` groups are nested in its unknown records. -/
structure Shaped (depth : Nat) (inside : MessageType → Message → Prop) (type : MessageType)
    (message : Message) : Prop where
  ordered : InOrder message.items
  apart : message.items.Pairwise type.Apart
  fitting : ∀ item ∈ message.items, type.Fits inside item
  trailing : ∃ records : List Record, message.unknown = (records.map Record.raw).flatten ∧
    ∀ record ∈ records, record.Rereads depth ∧ type.Keeps record

variable {depth : Nat} {inside : MessageType → Message → Prop} {type : MessageType}
  {message : Message}

theorem Shaped.empty : Shaped depth inside type empty where
  ordered := List.Pairwise.nil
  apart := List.Pairwise.nil
  fitting := fun item member => by cases member
  trailing := ⟨[], rfl, fun record member => by cases member⟩

theorem Shaped.keep (shaped : Shaped depth inside type message) {record : Record}
    (rereads : record.Rereads depth) (keeps : type.Keeps record) :
    Shaped depth inside type (message.keep record.raw) where
  ordered := shaped.ordered
  apart := shaped.apart
  fitting := shaped.fitting
  trailing := by
    obtain ⟨records, same, all⟩ := shaped.trailing
    refine ⟨records ++ [record], ?_, fun other member => ?_⟩
    · simp [Message.keep, same]
    · rcases List.mem_append.1 member with member | member
      · exact all other member
      · rw [List.mem_singleton.1 member]
        exact ⟨rereads, keeps⟩

/-- A field does not hold two values under the same key. -/
theorem Shaped.differentKeys (shaped : Shaped depth inside type message) :
    message.items.Pairwise DifferentKeys := by
  refine shaped.apart.imp_of_mem fun {first second} member _ apart firstEntry _ same => ?_
  obtain ⟨field, found, takes, _⟩ := shaped.fitting first member
  have keyed : field.rule = .keyed := by
    cases value : first.2 with
    | entry key content =>
      rw [value] at takes
      exact takes.1
    | _ => simp [value, Value.isEntry] at firstEntry
  have spared := apart.2 field found
  rw [Field.spares_of_keyed type _ keyed, MessageType.number_of_field? found] at spared
  simp [same] at spared

/-- Fewer values are as good. -/
theorem Shaped.filter (shaped : Shaped depth inside type message) (stays : Nat × Value → Bool) :
    Shaped depth inside type { message with items := message.items.filter stays } where
  ordered := shaped.ordered.filter stays
  apart := shaped.apart.filter stays
  fitting := fun item member => shaped.fitting item (List.mem_filter.1 member).1
  trailing := shaped.trailing

theorem pairwise_middle {relation : Nat × Value → Nat × Value → Prop}
    {front back : List (Nat × Value)} {item : Nat × Value}
    (around : (front ++ back).Pairwise relation) (before : ∀ other ∈ front, relation other item)
    (after : ∀ other ∈ back, relation item other) :
    (front ++ item :: back).Pairwise relation := by
  rw [List.pairwise_append] at around ⊢
  obtain ⟨first, second, between⟩ := around
  refine ⟨first, List.pairwise_cons.2 ⟨after, second⟩, fun other member another behind => ?_⟩
  rcases List.mem_cons.1 behind with rfl | behind
  · exact before other member
  · exact between other member another behind

/-- A message keeps its shape when a value is inserted that none of its values excludes. -/
theorem Shaped.insert (shaped : Shaped depth inside type message) {field : Field} {value : Value}
    (found : type.field? field.number = some field) (takes : field.Takes inside value)
    (admitted : field.admits value = true)
    (spared : ∀ item ∈ message.items, field.spares type value item = true) :
    Shaped depth inside type (message.insert field.number value) := by
  obtain ⟨front, back, split, joined, before, after⟩ :=
    exists_insertItem (field.number, value) shaped.ordered
  have apart : ∀ item ∈ message.items, type.Apart (field.number, value) item :=
    fun item member => MessageType.apart_of_spares found (spared item member)
  have items : (message.insert field.number value).items =
      front ++ (field.number, value) :: back := joined
  refine ⟨?_, ?_, ?_, shaped.trailing⟩
  · rw [items]
    exact pairwise_middle (split ▸ shaped.ordered) before after
  · rw [items]
    exact pairwise_middle (split ▸ shaped.apart)
      (fun item member => (apart item (split ▸ List.mem_append_left back member)).symm)
      fun item member => apart item (split ▸ List.mem_append_right front member)
  · intro item member
    rw [items] at member
    rcases List.mem_append.1 member with member | member
    · exact shaped.fitting item (split ▸ List.mem_append_left back member)
    · rcases List.mem_cons.1 member with rfl | member
      · exact ⟨field, found, takes, admitted⟩
      · exact shaped.fitting item (split ▸ List.mem_append_right front member)

theorem Shaped.place (shaped : Shaped depth inside type message) {field : Field} {value : Value}
    (found : type.field? field.number = some field) (takes : field.Takes inside value) :
    Shaped depth inside type (message.place type field value) := by
  have spared := shaped.filter (field.spares type value)
  unfold Message.place
  split
  next admitted =>
    exact spared.insert found takes admitted fun item member => (List.mem_filter.1 member).2
  · exact spared

/-! ### Messages inside messages -/

/-- The messages that can stand where at most `depth` messages are nested, the message itself
among them. Groups count as messages. -/
def Inside : (depth : Nat) → MessageType → Message → Prop
  | 0 => fun _ _ => False
  | depth + 1 => Shaped depth (Inside depth)

theorem inside_empty (low : type.height < depth) : Inside depth type empty := by
  cases depth with
  | zero => cases low
  | succ depth => exact Shaped.empty

/-- A message that can stand at one depth can stand where more may be nested. -/
theorem Inside.mono {depth limit : Nat} {type : MessageType} {message : Message}
    (within : Inside depth type message) (higher : depth ≤ limit) :
    Inside limit type message := by
  induction depth generalizing limit type message with
  | zero => exact within.elim
  | succ depth inductionHypothesis =>
    obtain ⟨limit, rfl⟩ := Nat.exists_eq_add_of_le' (Nat.le_trans (Nat.le_add_left 1 depth) higher)
    have higher : depth ≤ limit := Nat.le_of_succ_le_succ higher
    refine ⟨within.ordered, within.apart, fun item member => ?_, ?_⟩
    · obtain ⟨field, found, takes, admitted⟩ := within.fitting item member
      exact ⟨field, found, takes.mono fun _ _ inner => inductionHypothesis inner higher, admitted⟩
    · obtain ⟨records, same, all⟩ := within.trailing
      exact ⟨records, same, fun record member =>
        ⟨(all record member).1.mono higher, (all record member).2⟩⟩

/-- An entry with a key of 32 bits is itself a message that can stand there. -/
theorem inside_ofEntry {key : Nat} {content : Message} (small : key < 0x100000000)
    (within : Inside depth .channels content) :
    Inside (depth + 1) .subscriptionsEntry (.ofEntry key content) := by
  have keyTakes : (⟨"key", 1, .uint32, .plain⟩ : Field).Takes (Inside depth) (.int key) :=
    show 0 ≤ (key : Int) ∧ (key : Int) < 0x100000000 by omega
  have contentTakes : (⟨"value", 2, .message .channels, .plain⟩ : Field).Takes (Inside depth)
      (.message content) := ⟨by decide, .channels, rfl, within⟩
  have placed : Shaped depth (Inside depth) .subscriptionsEntry _ :=
    (Shaped.empty.place rfl keyTakes).place rfl contentTakes
  refine (congrArg (Inside (depth + 1) .subscriptionsEntry) ?_).mp placed
  -- A key is set unless it is zero, and then it comes first.
  cases key <;> rfl

end Message

end Bindery.Wire
