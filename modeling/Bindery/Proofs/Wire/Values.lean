/-
This file tells what the fields of a message hold after one of them was given a value.

A field of one value then holds this value, or none if it does not count as set. The other fields
hold what they held before, except for those that the field excludes: they hold nothing.
-/

import Bindery.Proofs.Wire.Shape

namespace Bindery.Wire.Message

variable {type : MessageType} {field other : Field} {value : Value} {number : Nat}

/-! ### One more value -/

/-- Only the field of a value gets it. -/
theorem values_insert_of_ne (message : Message) (differ : number ≠ field.number) :
    (message.insert field.number value).values number = message.values number := by
  have others := List.takeWhile_append_dropWhile
    (p := fun item : Nat × Value => precedes item (field.number, value)) (l := message.items)
  have passed : decide (field.number = number) = false := decide_eq_false (Ne.symm differ)
  unfold values insert
  rw [List.filter_append, List.filter_cons_of_neg (by simp [passed]), ← List.filter_append, others]

/-- A field that holds nothing gets the value alone. -/
theorem values_insert_of_nil {message : Message} (free : message.values field.number = []) :
    (message.insert field.number value).values field.number = [value] := by
  have others := List.takeWhile_append_dropWhile
    (p := fun item : Nat × Value => precedes item (field.number, value)) (l := message.items)
  unfold values at free ⊢
  rw [← others, List.filter_append, List.map_append, List.append_eq_nil_iff] at free
  unfold insert
  rw [List.filter_append, List.filter_cons_of_pos (by simp), List.map_append, List.map_cons,
    free.1, free.2, List.nil_append]

/-! ### The values that stay -/

/-- Where all values of a field stay, it holds what it held. -/
theorem values_filter_of_spared {message : Message} {stays : Nat × Value → Bool}
    (spared : ∀ item, item.1 = number → stays item = true) :
    ({ message with items := message.items.filter stays } : Message).values number =
      message.values number := by
  unfold values
  rw [List.filter_filter]
  refine congrArg (List.map Prod.snd) (List.filter_congr fun item _ => ?_)
  by_cases same : item.1 = number
  · simp [same, spared item same]
  · simp [same]

/-- Where no value of a field stays, it holds nothing. -/
theorem values_filter_of_lost {message : Message} {stays : Nat × Value → Bool}
    (lost : ∀ item, item.1 = number → stays item = false) :
    ({ message with items := message.items.filter stays } : Message).values number = [] := by
  unfold values
  rw [List.filter_filter, List.map_eq_nil_iff, List.filter_eq_nil_iff]
  intro item _
  by_cases same : item.1 = number
  · simp [lost item same]
  · simp [same]

/-- A value is spared by another field unless the two exclude each other. -/
theorem spares_of_ne {item : Nat × Value} (found : type.field? item.1 = some other)
    (differ : item.1 ≠ field.number) :
    field.spares type value item = !MessageType.excludes field other := by
  cases many : field.isMany with
  | false =>
    rw [Field.spares_of_single type value many, Bool.eq_iff_iff]
    simp [MessageType.mem_rivals found]
  | true =>
    have apart : MessageType.excludes field other = false := by
      rw [Bool.eq_false_iff]
      intro excluded
      have same := MessageType.same_number_of_excludes many excluded
      exact differ (MessageType.number_of_field? found ▸ same.symm)
    rcases field.isMany_iff.1 many with repeated | keyed
    · rw [Field.spares_of_repeated type value repeated, apart]
      rfl
    · rw [Field.spares_of_keyed type value keyed, apart]
      simp [differ]

/-! ### A field and the others -/

/-- What another field holds after a field was given a value. -/
theorem values_place_of_ne (message : Message) (value : Value)
    (found : type.field? number = some other) (differ : number ≠ field.number) :
    (message.place type field value).values number =
      if MessageType.excludes field other then [] else message.values number := by
  have left : ({ message with
      items := message.items.filter (field.spares type value) } : Message).values number =
        if MessageType.excludes field other then [] else message.values number := by
    split
    next excluded =>
      refine values_filter_of_lost fun item same => ?_
      rw [spares_of_ne (same ▸ found) (same ▸ differ), excluded]
      rfl
    next apart =>
      refine values_filter_of_spared fun item same => ?_
      rw [spares_of_ne (same ▸ found) (same ▸ differ), Bool.eq_false_iff.2 apart]
      rfl
  unfold place
  split
  · rw [values_insert_of_ne _ differ, left]
  · exact left

/-- What a field of one value holds after it was given a value. -/
theorem values_place_self (message : Message) (value : Value)
    (found : type.field? field.number = some field) (single : field.isMany = false) :
    (message.place type field value).values field.number =
      if field.shows value then [value] else [] := by
  have own : MessageType.excludes field field = true := by simp [MessageType.excludes]
  have cleared : ({ message with
      items := message.items.filter (field.spares type value) } : Message).values field.number =
        [] := by
    refine values_filter_of_lost fun item same => ?_
    rw [Field.spares_of_single type value single]
    simp [same, MessageType.mem_rivals found, own]
  unfold place
  rw [Field.admits, single, Bool.false_or]
  split
  · exact values_insert_of_nil cleared
  · exact cleared

/-! ### Fields of many values -/

/-- What a repeated field holds after it was given a value: this one behind the others. -/
theorem values_place_repeated {message : Message} (ordered : InOrder message.items)
    (repeated : field.rule = .repeated)
    (unkeyed : ∀ other ∈ message.values field.number, other.key ≤ value.key) :
    (message.place type field value).values field.number =
      message.values field.number ++ [value] := by
  have before : ∀ item ∈ message.items.filter (fun item => item.1 = field.number),
      precedes item (field.number, value) = true := by
    intro item member
    have same : item.1 = field.number := of_decide_eq_true (List.mem_filter.1 member).2
    exact (precedes_iff _ _).2 (.inr ⟨same, unkeyed _ (List.mem_map_of_mem member)⟩)
  rw [← insert_eq_place type value repeated]
  show ((insertItem message.items (field.number, value)).filter
    (fun item => item.1 = field.number)).map Prod.snd = _
  rw [filter_insertItem ordered (by simp), insertItem_of_all_precede before, List.map_append]
  rfl

/-- What a keyed field holds after it was given a value: this one, and those under other keys. -/
theorem values_place_keyed (message : Message) (type : MessageType) (value : Value)
    (keyed : field.rule = .keyed) :
    ((message.place type field value).values field.number).Perm
      (value :: (message.values field.number).filter fun other => other.key ≠ value.key) := by
  have admitted : field.admits value = true := by
    rw [Field.admits, Field.isMany, keyed, Bool.true_or]
  have others : (message.items.filter (field.spares type value)).filter
      (fun item => item.1 = field.number) =
        (message.items.filter fun item => item.1 = field.number).filter
          ((fun other => other.key ≠ value.key) ∘ Prod.snd) := by
    rw [List.filter_filter, List.filter_filter, Field.spares_of_keyed type value keyed]
    refine List.filter_congr fun item _ => ?_
    by_cases same : item.1 = field.number <;> simp [same]
  unfold place
  rw [if_pos admitted]
  show (((insertItem (message.items.filter (field.spares type value))
    (field.number, value)).filter (fun item => item.1 = field.number)).map Prod.snd).Perm _
  refine (((insertItem_perm _ _).filter _).map Prod.snd).trans ?_
  rw [List.filter_cons_of_pos (by simp), others, List.map_cons]
  unfold values
  rw [List.filter_map]

end Bindery.Wire.Message
