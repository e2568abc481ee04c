/-
This file proves that a message which is built from offers has the right shape.

An offer becomes a value of the type of its field or is refused, and the value is given to the
field. What is offered for a field of messages is itself a message that is built, or one that was
there before. So the proof follows the offer. The depth says that the schemas do not nest too deep,
and leaves room for what is nested in the messages that were there before.
-/

import Bindery.Proofs.Wire.Shape
import Bindery.Wire.Construction

namespace Bindery.Wire.Offer

/-! ### Messages that were there before -/

mutual

/-- The messages in an offer that were there before, with their types. -/
def known : Offer → List (MessageType × Message)
  | .message type content => [(type, content)]
  | .list items => knownIn items
  | .table entries => knownUnder entries
  | _ => []

/-- The messages in offers that were there before. -/
def knownIn : List Offer → List (MessageType × Message)
  | [] => []
  | offer :: items => offer.known ++ knownIn items

/-- The messages in the values of entries that were there before. -/
def knownUnder : List (Offer × Offer) → List (MessageType × Message)
  | [] => []
  | (_, offer) :: entries => offer.known ++ knownUnder entries

end

/-! ### Single values -/

theorem asInt_bounds {low high : Int} {offer : Offer} {value : Value}
    (accepted : offer.asInt low high = .ok value) :
    ∃ number, value = .int number ∧ low ≤ number ∧ number ≤ high := by
  cases offer with
  | int number =>
    simp only [asInt] at accepted
    split at accepted
    next within =>
      cases accepted
      exact ⟨number, rfl, within⟩
    · cases accepted
  | _ => cases accepted

/-- The names of an enumeration stand for numbers of 32 bits. -/
theorem asEnumeration_bounds {enumeration : Enumeration} {offer : Offer} {value : Value}
    (accepted : offer.asEnumeration enumeration = .ok value) :
    ∃ number, value = .int number ∧ -0x80000000 ≤ number ∧ number ≤ 0x7FFFFFFF := by
  unfold asEnumeration at accepted
  split at accepted
  next name =>
    split at accepted
    next number named =>
      cases accepted
      have few : enumeration.values.length < 0x80000000 := by
        cases enumeration <;> decide
      have inside : number < enumeration.values.length :=
        (List.findIdx?_eq_some_iff_findIdx_eq.1 named).1
      exact ⟨number, rfl, by omega, by omega⟩
    · cases accepted
  · exact asInt_bounds accepted

/-- What a field of scalars accepts is a value of its type. -/
theorem holds_of_asWhole {type : FieldType} {offer : Offer} {value : Value}
    (scalar : ∀ inside, type ≠ .message inside) (accepted : offer.asWhole type = .ok value) :
    type.Holds value := by
  cases type with
  | bool =>
    change offer.asBool = .ok value at accepted
    unfold asBool at accepted
    split at accepted <;> cases accepted <;> trivial
  | text =>
    change offer.asText = .ok value at accepted
    unfold asText at accepted
    split at accepted
    · cases accepted
      trivial
    · split at accepted <;> cases accepted
      trivial
    · cases accepted
  | bytes =>
    change offer.asBytes = .ok value at accepted
    unfold asBytes at accepted
    split at accepted <;> cases accepted
    trivial
  | message inside => exact absurd rfl (scalar inside)
  | enumeration type =>
    obtain ⟨number, rfl, low, high⟩ := asEnumeration_bounds accepted
    exact ⟨low, by omega⟩
  | int32 | int64 | uint32 | uint64 =>
    obtain ⟨number, rfl, low, high⟩ := asInt_bounds accepted
    exact ⟨low, by omega⟩

/-- A message that a field accepts was there before and has the type of the field. -/
theorem mem_known_of_asMessage {inside : MessageType} {offer : Offer} {content : Message}
    (accepted : offer.asMessage inside = .ok content) : (inside, content) ∈ offer.known := by
  unfold asMessage at accepted
  split at accepted
  · split at accepted
    next same =>
      cases accepted
      simp [known, same]
    · cases accepted
  · cases accepted

theorem asKey_lt {offer : Offer} {key : Nat} (accepted : offer.asKey = .ok key) :
    key < 0x100000000 := by
  unfold asKey at accepted
  split at accepted
  next number bounded =>
    obtain ⟨_, same, low, high⟩ := asInt_bounds bounded
    cases same
    cases accepted
    omega
  all_goals cases accepted

/-! ### Messages -/

theorem mem_of_asField {type : MessageType} {offer : Offer} {field : Field}
    (accepted : asField type offer = .ok field) : field ∈ type.fields := by
  unfold asField at accepted
  split at accepted
  · split at accepted
    next named =>
      cases accepted
      exact List.mem_of_find?_eq_some named
    · cases accepted
  · cases accepted

/-- A step of building that succeeds, and what it goes on with. -/
theorem exists_of_bind_ok {First Last : Type} {step : Except Refusal First}
    {next : First → Except Refusal Last} {last : Last} (done : (step >>= next) = .ok last) :
    ∃ first, step = .ok first ∧ next first = .ok last := by
  cases step with
  | error => cases done
  | ok first => exact ⟨first, rfl, done⟩

open Message

variable {depth room : Nat} {type : MessageType} {field : Field} {message after : Message}

/-- The depth leaves the room that messages which were there before may take. -/
theorem room_lt (low : type.height + room ≤ depth) (member : field ∈ type.fields)
    {inner : MessageType} (holds : field.type = .message inner) :
    inner.height + room < depth := by
  have := MessageType.height_lt member holds
  omega

/-- What a field accepts as a whole can stand in it. -/
theorem takes_of_asWhole {offer : Offer} {value : Value} (low : type.height + room ≤ depth)
    (member : field ∈ type.fields) (unkeyed : field.rule ≠ .keyed)
    (within : ∀ each ∈ offer.known, Inside (room + 1) each.1 each.2)
    (accepted : offer.asWhole field.type = .ok value) : field.Takes (Inside depth) value := by
  by_cases holds : ∃ inner, field.type = .message inner
  · obtain ⟨inner, holds⟩ := holds
    rw [holds] at accepted
    change (offer.asMessage inner).map .message = .ok value at accepted
    cases taken : offer.asMessage inner with
    | error => rw [taken] at accepted; cases accepted
    | ok content =>
      rw [taken] at accepted
      cases accepted
      have before := within _ (mem_known_of_asMessage taken)
      have := room_lt low member holds
      exact ⟨unkeyed, inner, holds, before.mono (by omega)⟩
  · exact Field.takes_of_holds (holds_of_asWhole (not_exists.1 holds) accepted)

/-- What is offered as a whole for a field of one value is given to it. -/
theorem shaped_of_whole {offer : Offer} (low : type.height + room ≤ depth)
    (member : field ∈ type.fields)
    (within : ∀ each ∈ offer.known, Inside (room + 1) each.1 each.2)
    (shaped : Shaped depth (Inside depth) type message)
    (given : (if field.isMany then if offer.isHollow then .ok message else .error .wrongKind
      else do return message.assign type field (← offer.asWhole field.type)) =
        (.ok after : Except Refusal Message)) : Shaped depth (Inside depth) type after := by
  split at given
  · split at given <;> cases given
    exact shaped
  next single =>
    obtain ⟨value, accepted, given⟩ := exists_of_bind_ok given
    cases given
    have unkeyed : field.rule ≠ .keyed := fun keyed => single (field.isMany_iff.2 (.inr keyed))
    rw [assign_eq_place type value (by simpa using single)]
    exact shaped.place (MessageType.field?_number member)
      (takes_of_asWhole low member unkeyed within accepted)

/-- The messages that the only keyed field holds are channels. -/
theorem contentType?_eq (holds : field.type = .message .subscriptionsEntry) :
    contentType? field = some .channels := by
  rw [contentType?, holds]
  rfl

/-- A message that is built for a field can stand there. The depth goes down with the types. -/
theorem inside_of_shaped {content : Message} (low : type.height + room < depth)
    (filled : ∀ {depth}, type.height + room ≤ depth → Shaped depth (Inside depth) type .empty →
      Shaped depth (Inside depth) type content) : Inside depth type content := by
  cases depth with
  | zero => cases low
  | succ depth => exact filled (Nat.le_of_lt_succ low) Shaped.empty

mutual

theorem shaped_of_fill {depth : Nat} {type : MessageType} {message after : Message}
    (low : type.height + room ≤ depth) (shaped : Shaped depth (Inside depth) type message) :
    (entries : List (Offer × Offer)) →
      (∀ each ∈ knownUnder entries, Inside (room + 1) each.1 each.2) →
      fill type message entries = .ok after → Shaped depth (Inside depth) type after
  | [], _, filled => by
    cases filled
    exact shaped
  | (name, offer) :: entries, within, filled => by
    rw [fill] at filled
    rw [knownUnder, List.forall_mem_append] at within
    obtain ⟨field, named, filled⟩ := exists_of_bind_ok filled
    obtain ⟨middle, given, filled⟩ := exists_of_bind_ok filled
    have step := shaped_of_give low (mem_of_asField named) shaped offer within.1 given
    exact shaped_of_fill low step entries within.2 filled

theorem shaped_of_give {depth : Nat} {type : MessageType} {field : Field}
    {message after : Message} (low : type.height + room ≤ depth) (member : field ∈ type.fields)
    (shaped : Shaped depth (Inside depth) type message) :
    (offer : Offer) → (∀ each ∈ offer.known, Inside (room + 1) each.1 each.2) →
      give type field message offer = .ok after → Shaped depth (Inside depth) type after
  | .nothing, _, given => by
    cases given
    exact shaped
  | .table entries, within, given => by
    rw [known] at within
    rw [give] at given
    split at given
    next keyed => exact shaped_of_giveEntries low member keyed shaped entries within given
    next repeated =>
      split at given <;> cases given
      exact shaped
    next inner holds notKeyed notRepeated =>
      obtain ⟨content, filled, given⟩ := exists_of_bind_ok given
      cases given
      have inside : Inside depth inner content :=
        inside_of_shaped (room_lt low member holds)
          fun low shaped => shaped_of_fill low shaped entries within filled
      have single : field.isMany = false := by
        rw [Bool.eq_false_iff, Ne, field.isMany_iff]
        exact not_or.2 ⟨notRepeated, notKeyed⟩
      rw [assign_eq_place type _ single]
      exact shaped.place (MessageType.field?_number member) ⟨notKeyed, inner, holds, inside⟩
    · cases given
  | .list items, within, given => by
    rw [known] at within
    rw [give] at given
    split at given
    next repeated => exact shaped_of_giveItems low member repeated shaped items within given
    next keyed =>
      split at given <;> cases given
      exact shaped
    · cases given
  | .bool _, within, given | .int _, within, given | .float _, within, given
  | .text _, within, given | .bytes _, within, given | .message .., within, given =>
    shaped_of_whole low member within shaped (by simpa only [give] using given)

theorem shaped_of_giveItems {depth : Nat} {type : MessageType} {field : Field}
    {message after : Message} (low : type.height + room ≤ depth) (member : field ∈ type.fields)
    (repeated : field.rule = .repeated) (shaped : Shaped depth (Inside depth) type message) :
    (items : List Offer) → (∀ each ∈ knownIn items, Inside (room + 1) each.1 each.2) →
      giveItems field message items = .ok after → Shaped depth (Inside depth) type after
  | [], _, given => by
    cases given
    exact shaped
  | offer :: items, within, given => by
    rw [giveItems] at given
    rw [knownIn, List.forall_mem_append] at within
    obtain ⟨value, accepted, given⟩ := exists_of_bind_ok given
    have takes := takes_of_valueOf low member repeated offer within.1 accepted
    rw [insert_eq_place type value repeated] at given
    have step := shaped.place (MessageType.field?_number member) takes
    exact shaped_of_giveItems low member repeated step items within.2 given

theorem takes_of_valueOf {depth : Nat} {type : MessageType} {field : Field} {value : Value}
    (low : type.height + room ≤ depth) (member : field ∈ type.fields)
    (repeated : field.rule = .repeated) :
    (offer : Offer) → (∀ each ∈ offer.known, Inside (room + 1) each.1 each.2) →
      valueOf field offer = .ok value → field.Takes (Inside depth) value
  | .table entries, within, accepted => by
    rw [known] at within
    rw [valueOf] at accepted
    split at accepted
    next inner holds =>
      obtain ⟨content, filled, same⟩ := exists_of_bind_ok accepted
      cases same
      have inside : Inside depth inner content :=
        inside_of_shaped (room_lt low member holds)
          fun low shaped => shaped_of_fill low shaped entries within filled
      exact ⟨by simp [repeated], inner, holds, inside⟩
    · cases accepted
  | .nothing, within, accepted | .bool _, within, accepted | .int _, within, accepted
  | .float _, within, accepted | .text _, within, accepted | .bytes _, within, accepted
  | .list _, within, accepted | .message .., within, accepted =>
    takes_of_asWhole low member (by simp [repeated]) within
      (by simpa only [valueOf] using accepted)

theorem shaped_of_giveEntries {depth : Nat} {type : MessageType} {field : Field}
    {message after : Message} (low : type.height + room ≤ depth) (member : field ∈ type.fields)
    (keyed : field.rule = .keyed) (shaped : Shaped depth (Inside depth) type message) :
    (entries : List (Offer × Offer)) →
      (∀ each ∈ knownUnder entries, Inside (room + 1) each.1 each.2) →
      giveEntries field message entries = .ok after → Shaped depth (Inside depth) type after
  | [], _, given => by
    cases given
    exact shaped
  | (key, offer) :: entries, within, given => by
    rw [giveEntries] at given
    rw [knownUnder, List.forall_mem_append] at within
    obtain ⟨number, accepted, given⟩ := exists_of_bind_ok given
    obtain ⟨content, contained, given⟩ := exists_of_bind_ok given
    have holds := MessageType.type_of_keyed member keyed
    have entryLow : MessageType.channels.height + room + 1 < depth := by
      have := room_lt low member holds
      simpa [MessageType.height, Nat.add_comm, Nat.add_left_comm] using this
    cases depth with
    | zero => cases entryLow
    | succ depth =>
      have inside :=
        inside_of_contentOf (Nat.lt_of_succ_lt_succ entryLow) holds offer within.1 contained
      rw [store_eq_place type _ _ keyed] at given
      have takes : field.Takes (Inside (depth + 1)) (.entry number content) :=
        ⟨keyed, asKey_lt accepted, _, holds, inside_ofEntry (asKey_lt accepted) inside⟩
      have step := shaped.place (MessageType.field?_number member) takes
      exact shaped_of_giveEntries low member keyed step entries within.2 given

theorem inside_of_contentOf {depth : Nat} {field : Field} {content : Message}
    (low : MessageType.channels.height + room < depth)
    (holds : field.type = .message .subscriptionsEntry) :
    (offer : Offer) → (∀ each ∈ offer.known, Inside (room + 1) each.1 each.2) →
      contentOf field offer = .ok content → Inside depth .channels content
  | .table entries, within, contained => by
    rw [known] at within
    rw [contentOf, contentType?_eq holds] at contained
    exact inside_of_shaped low fun low shaped => shaped_of_fill low shaped entries within contained
  | .nothing, within, contained | .bool _, within, contained | .int _, within, contained
  | .float _, within, contained | .text _, within, contained | .bytes _, within, contained
  | .list _, within, contained | .message .., within, contained => by
    simp only [contentOf, contentType?_eq holds] at contained
    exact (within _ (mem_known_of_asMessage contained)).mono (by omega)

end

/-- A message that is built can stand where there is room for the levels of its type and for the
messages in it that were there before. -/
theorem inside_of_build {entries : List (Offer × Offer)} (low : type.height + room ≤ depth)
    (within : ∀ each ∈ knownUnder entries, Inside (room + 1) each.1 each.2)
    (built : Message.build type entries = .ok message) : Inside (depth + 1) type message := by
  unfold Message.build at built
  split at built
  · exact shaped_of_fill low Shaped.empty entries within built
  · cases built

end Bindery.Wire.Offer
