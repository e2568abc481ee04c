/-
This file says what two messages of a type are together, and proves that giving a message the values
of another one, one after another, makes it that.

Field by field, the values of a repeated field come one after another, an entry takes the place of
one under the same key, and a field of one value keeps what it holds unless the second message sets
it or another field of its choice. A message in a field of one message is first merged into the one
that is there. What a field holds after one value decides what it holds after all of them, so the
proof is an induction for each of the three sorts of fields.
-/

import Bindery.Proofs.Wire.Values
import Mathlib.Data.List.Basic

namespace Bindery.Wire

/-! ### Field by field -/

/-- Whether a message sets one of some fields. -/
def Message.sets (message : Message) (numbers : List Nat) : Bool :=
  message.items.any fun item => numbers.contains item.1

/-- Whether one of some values stands under the key of another value. -/
def Value.replacedBy (value : Value) (others : List Value) : Bool :=
  others.any fun other => other.key = value.key

/-- What a field holds when the values of a second message come to those of a first one. -/
def Field.combined (field : Field) (type : MessageType) (first second : Message) : List Value :=
  let early := first.values field.number
  let late := second.values field.number
  match field.rule with
  | .repeated => early ++ late
  | .keyed =>
    (early.filter fun value => !value.replacedBy late).merge late
      fun one other => one.key ≤ other.key
  | .plain | .optional | .oneof _ => if second.sets (type.rivals field) then late else early

/-- Two messages field by field, and the unknown records of the second behind those of the first. -/
def Message.combine (type : MessageType) (first second : Message) : Message :=
  ⟨type.fields.flatMap fun field =>
      (field.combined type first second).map fun value => (field.number, value),
    first.unknown ++ second.unknown⟩

/-! ### Messages inside messages -/

/-- The message in a field of one message, with its type. -/
def Message.held? (message : Message) (type : MessageType) (number : Nat) :
    Option (MessageType × Message) :=
  match type.field? number with
  | none => none
  | some field =>
    if field.isMany then none
    else
      match field.type, message.value? number with
      | .message inside, some (.message content) => some (inside, content)
      | _, _ => none

mutual

/-- The first message with the second one merged into it. -/
def Message.merge (type : MessageType) (first : Message) : Message → Message
  | ⟨items, unknown⟩ => .combine type first ⟨joinItems type first items, unknown⟩

/-- The values that a message gets for those of another one. -/
def joinItems (type : MessageType) (first : Message) : List (Nat × Value) → List (Nat × Value)
  | [] => []
  | (number, value) :: items => (number, value.join type first number) :: joinItems type first items

/-- The value that a field gets for that of another message: the message in a field of one message
is merged into the one that is there. -/
def Value.join (type : MessageType) (first : Message) (number : Nat) : Value → Value
  | .message content =>
    match first.held? type number with
    | some (inside, held) => .message (.merge inside held content)
    | none => .message content
  | .int value => .int value
  | .bool value => .bool value
  | .text value => .text value
  | .bytes value => .bytes value
  | .entry key content => .entry key content

end

theorem joinItems_eq_map (type : MessageType) (first : Message) (items : List (Nat × Value)) :
    joinItems type first items =
      items.map fun item => (item.1, item.2.join type first item.1) := by
  induction items with
  | nil => rfl
  | cons item items inductionHypothesis =>
    rw [joinItems, inductionHypothesis, List.map_cons]

theorem Value.key_join (type : MessageType) (first : Message) (number : Nat) (value : Value) :
    (value.join type first number).key = value.key := by
  cases value with
  | message content =>
    rw [join]
    split <;> rfl
  | _ => rfl

theorem Value.isEntry_join (type : MessageType) (first : Message) (number : Nat) (value : Value) :
    (value.join type first number).isEntry = value.isEntry := by
  cases value with
  | message content =>
    rw [join]
    split <;> rfl
  | _ => rfl

/-! ### Values apart from each other -/

namespace MessageType

variable {type : MessageType} {first second : Nat × Value} {field other third : Field}

/-- A value of a field of one value is not beside a value that it excludes. -/
theorem Apart.not_excludes (apart : type.Apart first second)
    (firstFound : type.field? first.1 = some field)
    (secondFound : type.field? second.1 = some other) (single : field.isMany = false) :
    excludes field other = false := by
  have spared := apart.2 field firstFound
  rw [Field.spares_of_single type first.2 single] at spared
  simpa [mem_rivals secondFound] using spared

/-- Beside a value that excludes a field no other value does. -/
theorem Apart.spares_rival (apart : type.Apart first second)
    (firstFound : type.field? first.1 = some other)
    (secondFound : type.field? second.1 = some third)
    (found : type.field? field.number = some field) (single : field.isMany = false)
    (excluded : excludes other field = true) : excludes field third = false := by
  have member := mem_of_field? found
  have otherMember := mem_of_field? firstFound
  have otherSingle : other.isMany = false := by
    rw [Bool.eq_false_iff]
    intro many
    rw [eq_of_number otherMember member (same_number_of_excludes many excluded), single] at many
    cases many
  rw [Bool.eq_false_iff]
  intro both
  have transitive := excludes_trans otherMember member (mem_of_field? secondFound) excluded both
  rw [apart.not_excludes firstFound secondFound otherSingle] at transitive
  cases transitive

end MessageType

/-! ### Values that come to a message -/

namespace Message

/-- The message after the field of a value has received it. -/
def placeItem (type : MessageType) (message : Message) (item : Nat × Value) : Message :=
  match type.field? item.1 with
  | some field => message.place type field item.2
  | none => message

variable {depth : Nat} {inside : MessageType → Message → Prop} {type : MessageType}
  {field : Field} {message : Message}

theorem placeItem_of_field? {item : Nat × Value} (found : type.field? item.1 = some field) :
    message.placeItem type item = message.place type field item.2 := by
  rw [placeItem, found]

/-- The unknown records stay. -/
theorem unknown_foldl_placeItem (type : MessageType) (message : Message)
    (items : List (Nat × Value)) :
    (items.foldl (placeItem type) message).unknown = message.unknown := by
  induction items generalizing message with
  | nil => rfl
  | cons item items inductionHypothesis =>
    rw [List.foldl_cons, inductionHypothesis, placeItem]
    split
    · unfold place
      split <;> rfl
    · rfl

theorem Shaped.placeItem (shaped : Shaped depth inside type message) {item : Nat × Value}
    (fits : type.Fits inside item) : Shaped depth inside type (message.placeItem type item) := by
  obtain ⟨field, found, takes, _⟩ := fits
  rw [placeItem_of_field? found]
  exact shaped.place (MessageType.number_of_field? found ▸ found) takes

theorem Shaped.foldl_placeItem {items : List (Nat × Value)}
    (shaped : Shaped depth inside type message) (fitting : ∀ item ∈ items, type.Fits inside item) :
    Shaped depth inside type (items.foldl (Message.placeItem type) message) := by
  induction items generalizing message with
  | nil => exact shaped
  | cons item items inductionHypothesis =>
    exact inductionHypothesis (shaped.placeItem (fitting item List.mem_cons_self))
      fun other member => fitting other (List.mem_cons_of_mem _ member)

/-! ### What fields hold afterwards -/

theorem values_cons_self (item : Nat × Value) (items : List (Nat × Value)) (unknown : List UInt8) :
    (Message.mk (item :: items) unknown).values item.1 =
      item.2 :: (Message.mk items unknown).values item.1 := by
  simp [values]

theorem values_cons_of_ne {item : Nat × Value} {number : Nat} (differ : item.1 ≠ number)
    (items : List (Nat × Value)) (unknown : List UInt8) :
    (Message.mk (item :: items) unknown).values number =
      (Message.mk items unknown).values number := by
  simp [values, differ]

/-- A message that does not set the rivals of a field does not set the field. -/
theorem values_of_not_sets (found : type.field? field.number = some field)
    (unset : message.sets (type.rivals field) = false) : message.values field.number = [] := by
  have own : field.number ∈ type.rivals field :=
    (MessageType.mem_rivals found).2 (by simp [MessageType.excludes])
  unfold values
  rw [List.map_eq_nil_iff, List.filter_eq_nil_iff]
  intro item member same
  have loses := List.any_eq_false.1 unset item member
  rw [of_decide_eq_true same] at loses
  simp [own] at loses

/-- What a field holds after a value came for another one. -/
theorem values_placeItem_of_ne {item : Nat × Value} {other : Field}
    (otherFound : type.field? item.1 = some other)
    (found : type.field? field.number = some field) (differ : item.1 ≠ field.number) :
    (message.placeItem type item).values field.number =
      if MessageType.excludes other field then [] else message.values field.number := by
  have number := MessageType.number_of_field? otherFound
  rw [placeItem_of_field? otherFound, values_place_of_ne message item.2 found
    fun equal => differ (number.symm.trans equal.symm)]

theorem sets_cons {item : Nat × Value} {other : Field} (found : type.field? item.1 = some other)
    (items : List (Nat × Value)) (unknown : List UInt8) :
    (Message.mk (item :: items) unknown).sets (type.rivals field) =
      (MessageType.excludes other field ||
        (Message.mk items unknown).sets (type.rivals field)) := by
  rw [sets, List.any_cons, MessageType.excludes_comm, Bool.eq_iff_iff]
  simp [MessageType.mem_rivals found, sets]

/-- Behind a value that excludes a field no other value does. -/
theorem not_sets_of_rival {item : Nat × Value} {items : List (Nat × Value)} {other : Field}
    (apart : ∀ later ∈ items, type.Apart item later)
    (fitting : ∀ later ∈ items, type.Fits inside later)
    (otherFound : type.field? item.1 = some other)
    (found : type.field? field.number = some field) (single : field.isMany = false)
    (excluded : MessageType.excludes other field = true) (unknown : List UInt8) :
    (Message.mk items unknown).sets (type.rivals field) = false := by
  refine List.any_eq_false.2 fun later member => ?_
  obtain ⟨third, thirdFound, -⟩ := fitting later member
  have spared := (apart later member).spares_rival otherFound thirdFound found single excluded
  simp [MessageType.mem_rivals thirdFound, spared]

/-- What a field of one value holds after a value that excludes it: this value, if it is its own. -/
theorem values_placeItem_rival {item : Nat × Value} {other : Field}
    (otherFound : type.field? item.1 = some other) (admitted : other.admits item.2 = true)
    (found : type.field? field.number = some field) (single : field.isMany = false)
    (excluded : MessageType.excludes other field = true) :
    (message.placeItem type item).values field.number =
      if item.1 = field.number then [item.2] else [] := by
  split
  next same =>
    rw [placeItem_of_field? otherFound]
    rw [same, found] at otherFound
    cases otherFound
    have shows : field.shows item.2 = true := by
      rwa [Field.admits, single, Bool.false_or] at admitted
    rw [values_place_self message item.2 found single, if_pos shows]
  next differ => rw [values_placeItem_of_ne otherFound found differ, if_pos excluded]

/-- A field of one value holds what came for it, if a value came for it or for another field of its
choice. -/
theorem values_foldl_single {items : List (Nat × Value)} (apart : items.Pairwise type.Apart)
    (fitting : ∀ item ∈ items, type.Fits inside item)
    (found : type.field? field.number = some field) (single : field.isMany = false)
    (unknown : List UInt8) :
    (items.foldl (placeItem type) message).values field.number =
      if (Message.mk items unknown).sets (type.rivals field) then
        (Message.mk items unknown).values field.number
      else message.values field.number := by
  induction items generalizing message with
  | nil => rfl
  | cons item items inductionHypothesis =>
    obtain ⟨headApart, restApart⟩ := List.pairwise_cons.1 apart
    have restFitting := fun later member => fitting later (List.mem_cons_of_mem item member)
    obtain ⟨other, otherFound, -, admitted⟩ := fitting item List.mem_cons_self
    rw [List.foldl_cons, inductionHypothesis restApart restFitting, sets_cons otherFound]
    cases excluded : MessageType.excludes other field with
    | true =>
      have unset := not_sets_of_rival headApart restFitting otherFound found single excluded unknown
      rw [unset, if_neg Bool.false_ne_true, Bool.true_or, if_pos rfl,
        values_placeItem_rival otherFound admitted found single excluded]
      split
      next same =>
        rw [← same, values_cons_self, same, values_of_not_sets found unset]
      next differ => rw [values_cons_of_ne differ, values_of_not_sets found unset]
    | false =>
      have differ : item.1 ≠ field.number := by
        intro same
        rw [same, found] at otherFound
        cases otherFound
        simp [MessageType.excludes] at excluded
      rw [values_placeItem_of_ne otherFound found differ, excluded, Bool.false_or,
        values_cons_of_ne differ, if_neg Bool.false_ne_true]

/-- No value that comes for another field changes what a field of many values holds. -/
theorem values_placeItem_many {item : Nat × Value} (fits : type.Fits inside item)
    (found : type.field? field.number = some field) (many : field.isMany = true)
    (differ : item.1 ≠ field.number) :
    (message.placeItem type item).values field.number = message.values field.number := by
  obtain ⟨other, otherFound, -⟩ := fits
  have apart : MessageType.excludes other field = false := by
    rw [Bool.eq_false_iff, MessageType.excludes_comm]
    intro excluded
    have same := MessageType.same_number_of_excludes many excluded
    exact differ ((MessageType.number_of_field? otherFound).symm.trans same.symm)
  rw [values_placeItem_of_ne otherFound found differ, apart, if_neg Bool.false_ne_true]

/-- The values of a field that is not keyed have no keys. -/
theorem Shaped.key_eq_zero (shaped : Shaped depth inside type message)
    (found : type.field? field.number = some field) (unkeyed : field.rule ≠ .keyed) :
    ∀ value ∈ message.values field.number, value.key = 0 := by
  intro value member
  obtain ⟨item, inItems, rfl⟩ := List.mem_map.1 member
  obtain ⟨inItems, same⟩ := List.mem_filter.1 inItems
  obtain ⟨other, otherFound, takes, -⟩ := shaped.fitting item inItems
  rw [of_decide_eq_true same, found] at otherFound
  cases otherFound
  cases held : item.2 with
  | entry key content =>
    rw [held] at takes
    exact absurd takes.1 unkeyed
  | _ => rfl

/-- A repeated field holds what came for it behind what it held. -/
theorem Shaped.values_foldl_repeated {items : List (Nat × Value)}
    (shaped : Shaped depth inside type message) (fitting : ∀ item ∈ items, type.Fits inside item)
    (found : type.field? field.number = some field) (repeated : field.rule = .repeated)
    (unknown : List UInt8) :
    (items.foldl (Message.placeItem type) message).values field.number =
      message.values field.number ++ (Message.mk items unknown).values field.number := by
  induction items generalizing message with
  | nil => exact (List.append_nil _).symm
  | cons item items inductionHypothesis =>
    have fits := fitting item List.mem_cons_self
    rw [List.foldl_cons, inductionHypothesis (shaped.placeItem fits)
      fun other member => fitting other (List.mem_cons_of_mem item member)]
    by_cases same : item.1 = field.number
    · have unkeyed : ∀ other ∈ message.values field.number, other.key ≤ item.2.key :=
        fun other member => by
          rw [shaped.key_eq_zero found (by simp [repeated]) other member]
          exact Nat.zero_le _
      have cons := values_cons_self item items unknown
      rw [same] at cons
      rw [placeItem_of_field? (same ▸ found),
        values_place_repeated shaped.ordered repeated unkeyed, cons, List.append_assoc,
        List.singleton_append]
    · rw [values_placeItem_many fits found (field.isMany_iff.2 (.inl repeated)) same,
        values_cons_of_ne same]

/-- No value beside one in a keyed field stands under its key. -/
theorem not_replacedBy_of_apart {item : Nat × Value} {items : List (Nat × Value)}
    (apart : ∀ later ∈ items, type.Apart item later) (found : type.field? item.1 = some field)
    (keyed : field.rule = .keyed) (unknown : List UInt8) :
    item.2.replacedBy ((Message.mk items unknown).values field.number) = false := by
  refine List.any_eq_false.2 fun other member => ?_
  obtain ⟨later, inItems, rfl⟩ := List.mem_map.1 member
  obtain ⟨inItems, number⟩ := List.mem_filter.1 inItems
  have spared := (apart later inItems).2 field found
  rw [Field.spares_of_keyed type item.2 keyed] at spared
  simpa [of_decide_eq_true number] using spared

/-- A keyed field holds what came for it, and what it held under other keys. -/
theorem values_foldl_keyed {items : List (Nat × Value)} (apart : items.Pairwise type.Apart)
    (fitting : ∀ item ∈ items, type.Fits inside item)
    (found : type.field? field.number = some field) (keyed : field.rule = .keyed)
    (unknown : List UInt8) :
    ((items.foldl (Message.placeItem type) message).values field.number).Perm
      (((message.values field.number).filter fun value =>
          !value.replacedBy ((Message.mk items unknown).values field.number)) ++
        (Message.mk items unknown).values field.number) := by
  induction items generalizing message with
  | nil =>
    have all : (message.values field.number).filter (fun _ => true) = message.values field.number :=
      List.filter_eq_self.2 fun _ _ => rfl
    exact List.Perm.of_eq ((List.append_nil _).trans all).symm
  | cons item items inductionHypothesis =>
    obtain ⟨headApart, restApart⟩ := List.pairwise_cons.1 apart
    have fits := fitting item List.mem_cons_self
    rw [List.foldl_cons]
    refine (inductionHypothesis restApart
      fun other member => fitting other (List.mem_cons_of_mem item member)).trans ?_
    by_cases same : item.1 = field.number
    · have cons := values_cons_self item items unknown
      rw [same] at cons
      rw [placeItem_of_field? (same ▸ found), cons]
      refine (((values_place_keyed message type item.2 keyed).filter _).append_right _).trans ?_
      have alone := not_replacedBy_of_apart headApart (same ▸ found) keyed unknown
      rw [List.filter_cons_of_pos (by rw [alone]; rfl), List.filter_filter]
      refine List.perm_middle.symm.trans (List.Perm.of_eq (congrArg (· ++ _) ?_))
      refine List.filter_congr fun value _ => ?_
      by_cases equal : item.2.key = value.key
      · simp [Value.replacedBy, equal]
      · simp [Value.replacedBy, equal, Ne.symm equal]
    · rw [values_placeItem_many fits found (field.isMany_iff.2 (.inr keyed)) same,
        values_cons_of_ne same]

/-! ### Messages by their fields -/

/-- Values in order begin with those of the smallest number. -/
theorem eq_filter_append {number : Nat} {items : List (Nat × Value)}
    (least : ∀ item ∈ items, number ≤ item.1)
    (ordered : items.Pairwise fun one other => one.1 ≤ other.1) :
    items = (items.filter fun item => item.1 = number) ++
      items.filter fun item => item.1 ≠ number := by
  induction items with
  | nil => rfl
  | cons item items inductionHypothesis =>
    obtain ⟨headFirst, rest⟩ := List.pairwise_cons.1 ordered
    by_cases same : item.1 = number
    · rw [List.filter_cons_of_pos (by simp [same]), List.filter_cons_of_neg (by simp [same]),
        List.cons_append, ← inductionHypothesis
          (fun other member => least other (List.mem_cons_of_mem _ member)) rest]
    · have greater : ∀ other ∈ item :: items, other.1 ≠ number := by
        intro other member
        have bound := least item List.mem_cons_self
        rcases List.mem_cons.1 member with rfl | member
        · exact same
        · have := headFirst other member
          omega
      have none : (item :: items).filter (fun item => item.1 = number) = [] :=
        List.filter_eq_nil_iff.2 fun other member => by simpa using greater other member
      have all : (item :: items).filter (fun item => item.1 ≠ number) = item :: items :=
        List.filter_eq_self.2 fun other member => by simpa using greater other member
      rw [none, all, List.nil_append]

/-- Values in order are those of each number one after another. -/
theorem eq_flatMap_filter {numbers : List Nat} {items : List (Nat × Value)}
    (ascending : numbers.Pairwise (· < ·)) (known : ∀ item ∈ items, item.1 ∈ numbers)
    (ordered : items.Pairwise fun one other => one.1 ≤ other.1) :
    items = numbers.flatMap fun number => items.filter fun item => item.1 = number := by
  induction numbers generalizing items with
  | nil => exact List.eq_nil_iff_forall_not_mem.2 fun item member => by cases known item member
  | cons number numbers inductionHypothesis =>
    obtain ⟨headFirst, rest⟩ := List.pairwise_cons.1 ascending
    have least : ∀ item ∈ items, number ≤ item.1 := by
      intro item member
      rcases List.mem_cons.1 (known item member) with same | behind
      · exact Nat.le_of_eq same.symm
      · exact Nat.le_of_lt (headFirst _ behind)
    have others := @inductionHypothesis (items.filter fun item => item.1 ≠ number) rest
      (fun item member => by
        obtain ⟨member, differ⟩ := List.mem_filter.1 member
        exact (List.mem_cons.1 (known item member)).resolve_left (of_decide_eq_true differ))
      (ordered.filter _)
    have same : ∀ each ∈ numbers, ((items.filter fun item => item.1 ≠ number).filter
        fun item => item.1 = each) = items.filter fun item => item.1 = each := by
      intro each member
      have := headFirst each member
      rw [List.filter_filter]
      refine List.filter_congr fun item _ => ?_
      by_cases equal : item.1 = each
      · have differ : item.1 ≠ number := by omega
        simp [equal, equal ▸ differ]
      · simp [equal]
    rw [List.flatMap_cons, ← List.flatMap_congr same, ← others]
    exact eq_filter_append least ordered

/-- The values of a message are those of its fields one after another. -/
theorem Shaped.items_eq_flatMap (shaped : Shaped depth inside type message) :
    message.items = type.fields.flatMap fun field =>
      (message.values field.number).map fun value => (field.number, value) := by
  have known : ∀ item ∈ message.items, item.1 ∈ type.fields.map Field.number := by
    intro item member
    obtain ⟨field, found, -⟩ := shaped.fitting item member
    exact List.mem_map.2 ⟨field, MessageType.mem_of_field? found,
      MessageType.number_of_field? found⟩
  have ordered : message.items.Pairwise fun one other => one.1 ≤ other.1 :=
    shaped.ordered.imp fun {one other} before => by
      rw [precedes_iff] at before
      omega
  refine (eq_flatMap_filter type.numbers_ascending known ordered).trans ?_
  rw [List.flatMap_map]
  refine List.flatMap_congr fun field _ => ?_
  unfold values
  rw [List.map_map]
  refine (List.map_congr_left fun item member => ?_).trans (List.map_id _) |>.symm
  rw [← of_decide_eq_true (List.mem_filter.1 member).2]
  rfl

/-! ### A message with the values of another -/

/-- The values of a field stand in the order of their keys. -/
theorem pairwise_key_values (ordered : InOrder message.items) (number : Nat) :
    (message.values number).Pairwise fun one other => one.key ≤ other.key := by
  unfold values
  rw [List.pairwise_map]
  refine (ordered.filter _).imp_of_mem fun {one other} oneMember otherMember before => ?_
  have oneNumber := of_decide_eq_true (List.mem_filter.1 oneMember).2
  have otherNumber := of_decide_eq_true (List.mem_filter.1 otherMember).2
  rw [precedes_iff] at before
  omega

/-- A keyed field holds one value under each key. -/
theorem Shaped.eq_of_key (shaped : Shaped depth inside type message)
    (found : type.field? field.number = some field) (keyed : field.rule = .keyed)
    {one other : Value} (oneMember : one ∈ message.values field.number)
    (otherMember : other ∈ message.values field.number) (same : one.key = other.key) :
    one = other := by
  have apart : (message.values field.number).Pairwise fun one other =>
      one.key = other.key → one = other := by
    unfold values
    rw [List.pairwise_map]
    refine (shaped.apart.filter _).imp_of_mem fun {one other} oneMember otherMember apart same => ?_
    have oneNumber := of_decide_eq_true (List.mem_filter.1 oneMember).2
    have otherNumber := of_decide_eq_true (List.mem_filter.1 otherMember).2
    have spared := apart.2 field (oneNumber ▸ found)
    rw [Field.spares_of_keyed type one.2 keyed] at spared
    simp [otherNumber, same] at spared
  exact List.Pairwise.forall_of_forall_of_flip (fun _ _ _ => rfl) apart
    (apart.imp fun equal key => (equal key.symm).symm) oneMember otherMember same

/-- Values in the order of their keys, each under another one, are told by what they are. -/
theorem Shaped.eq_values_of_perm (shaped : Shaped depth inside type message)
    (found : type.field? field.number = some field) (keyed : field.rule = .keyed)
    {values : List Value} (ordered : values.Pairwise fun one other => one.key ≤ other.key)
    (same : (message.values field.number).Perm values) : message.values field.number = values :=
  List.Perm.eq_of_pairwise
    (fun _ _ oneMember otherMember low high => shaped.eq_of_key found keyed oneMember
      (same.mem_iff.2 otherMember) (Nat.le_antisymm low high))
    (pairwise_key_values shaped.ordered field.number) ordered same

/-- Values merged by their keys are in the order of the keys. -/
theorem pairwise_merge_key {early late : List Value}
    (earlyOrdered : early.Pairwise fun one other => one.key ≤ other.key)
    (lateOrdered : late.Pairwise fun one other => one.key ≤ other.key) :
    (early.merge late fun one other => one.key ≤ other.key).Pairwise
      fun one other => one.key ≤ other.key := by
  refine (List.pairwise_merge (fun _ _ _ => ?_) (fun _ _ => ?_) _ _
    (earlyOrdered.imp decide_eq_true) (lateOrdered.imp decide_eq_true)).imp of_decide_eq_true
  · simpa using Nat.le_trans
  · simpa using Nat.le_total _ _

variable {late : Message} {order : List (Nat × Value)}

theorem Shaped.values_foldl_placeItem (shaped : Shaped depth inside type message)
    (ordered : InOrder late.items) (apart : late.items.Pairwise type.Apart)
    (fitting : ∀ item ∈ late.items, type.Fits inside item) (arranged : Arranged late.items order)
    (found : type.field? field.number = some field) :
    (order.foldl (Message.placeItem type) message).values field.number =
      field.combined type message late := by
  have orderApart := (arranged.perm.pairwise_iff MessageType.Apart.symm).1 apart
  have orderFitting : ∀ item ∈ order, type.Fits inside item :=
    fun item member => fitting item (arranged.perm.mem_iff.2 member)
  have unkeyed : field.rule ≠ .keyed →
      (Message.mk order late.unknown).values field.number = late.values field.number := by
    intro notKeyed
    refine congrArg (List.map Prod.snd) (arranged.filter fun item member entry => ?_)
    refine decide_eq_false fun same => notKeyed ?_
    obtain ⟨other, otherFound, takes, -⟩ := fitting item member
    rw [same, found] at otherFound
    cases otherFound
    cases held : item.2 with
    | entry key content =>
      rw [held] at takes
      exact takes.1
    | _ => simp [held, Value.isEntry] at entry
  unfold Field.combined
  cases rule : field.rule with
  | repeated =>
    rw [shaped.values_foldl_repeated orderFitting found rule late.unknown, unkeyed (by simp [rule])]
  | keyed =>
    have lateValues : ((Message.mk order late.unknown).values field.number).Perm
        (late.values field.number) := (arranged.perm.symm.filter _).map Prod.snd
    have replaced : (fun value : Value =>
        !value.replacedBy ((Message.mk order late.unknown).values field.number)) =
          fun value => !value.replacedBy (late.values field.number) :=
      funext fun value => congrArg not lateValues.any_eq
    have together := @values_foldl_keyed inside type field message order orderApart orderFitting
      found rule late.unknown
    rw [replaced] at together
    refine (shaped.foldl_placeItem orderFitting).eq_values_of_perm found rule
      (pairwise_merge_key ((pairwise_key_values shaped.ordered field.number).filter _)
        (pairwise_key_values ordered field.number)) ?_
    exact (together.trans (lateValues.append_left _)).trans (List.merge_perm_append _).symm
  | plain | optional | oneof =>
    have sets : (Message.mk order late.unknown).sets (type.rivals field) =
        late.sets (type.rivals field) := arranged.perm.symm.any_eq
    rw [values_foldl_single orderApart orderFitting found (by simp [Field.isMany, rule])
      late.unknown, unkeyed (by simp [rule]), sets]

theorem Shaped.foldl_placeItem_eq_combine (shaped : Shaped depth inside type message)
    (ordered : InOrder late.items) (apart : late.items.Pairwise type.Apart)
    (fitting : ∀ item ∈ late.items, type.Fits inside item) (arranged : Arranged late.items order) :
    (order.foldl (Message.placeItem type) message).keep late.unknown =
      combine type message late := by
  have orderFitting : ∀ item ∈ order, type.Fits inside item :=
    fun item member => fitting item (arranged.perm.mem_iff.2 member)
  have items := (shaped.foldl_placeItem orderFitting).items_eq_flatMap
  have fields : (type.fields.flatMap fun field =>
      ((order.foldl (Message.placeItem type) message).values field.number).map
        fun value => (field.number, value)) = (combine type message late).items :=
    List.flatMap_congr fun field member => by
      rw [shaped.values_foldl_placeItem ordered apart fitting arranged
        (MessageType.field?_number member)]
  have unknown := unknown_foldl_placeItem type message order
  unfold Message.keep
  rw [items, fields, unknown]
  rfl

end Message

end Bindery.Wire
