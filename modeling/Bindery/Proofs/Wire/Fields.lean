/-
This file holds what the fields of the schemas have in common, and the values that a field of each
type can hold.

A number travels as a word of 64 bits whatever its field is, so what a field of fewer bits or of
signed numbers gets back from the word is its own number only within its range. The facts about
the schemas are read off their tables.
-/

import Bindery.Wire.Decoding

namespace Bindery.Wire

/-! ### Scalars -/

/-- Whether a field of a type can hold a scalar value. A text or a byte sequence may be any; a
number has to lie within the bits of the type. -/
def FieldType.Holds : FieldType → Value → Prop
  | .bool, .bool _ => True
  | .int32, .int value | .enumeration _, .int value => -0x80000000 ≤ value ∧ value < 0x80000000
  | .int64, .int value => -0x8000000000000000 ≤ value ∧ value < 0x8000000000000000
  | .uint32, .int value => 0 ≤ value ∧ value < 0x100000000
  | .uint64, .int value => 0 ≤ value ∧ value < 0x10000000000000000
  | .text, .text _ => True
  | .bytes, .bytes _ => True
  | _, _ => False

theorem wordOf_lt (value : Int) : wordOf value < Varint.range := by
  unfold wordOf Varint.range
  omega

theorem wordOf_natCast {number : Nat} (small : number < Varint.range) :
    wordOf number = number := by
  unfold wordOf
  unfold Varint.range at *
  omega

/-- A number comes back from its word. -/
theorem FieldType.ofWord?_wordOf {type : FieldType} {value : Int}
    (holds : type.Holds (.int value)) :
    type.ofWord? (wordOf value) = some (.int value) := by
  cases type <;> simp only [FieldType.Holds] at holds <;>
    simp only [FieldType.ofWord?, wordOf, Int.bmod_def, Varint.range, Varint.shortRange,
      Option.some.injEq, Value.int.injEq] <;>
    omega

theorem FieldType.ofWord?_bool {type : FieldType} {value : Bool}
    (holds : type.Holds (.bool value)) :
    type.ofWord? (if value then 1 else 0) = some (.bool value) := by
  cases type <;> simp only [FieldType.Holds] at holds
  cases value <;> rfl

theorem FieldType.eq_text_of_holds {type : FieldType} {value : String}
    (holds : type.Holds (.text value)) : type = .text := by
  cases type with
  | text => rfl
  | _ => exact holds.elim

theorem FieldType.eq_bytes_of_holds {type : FieldType} {value : List UInt8}
    (holds : type.Holds (.bytes value)) : type = .bytes := by
  cases type with
  | bytes => rfl
  | _ => exact holds.elim

/-- What a word stands for is a value of the type. -/
theorem FieldType.holds_of_ofWord? {type : FieldType} {word : Nat} {value : Value}
    (small : word < Varint.range) (found : type.ofWord? word = some value) : type.Holds value := by
  unfold Varint.range at small
  cases type <;> simp only [FieldType.ofWord?, Option.some.injEq, reduceCtorEq] at found <;>
    subst found <;>
    simp only [FieldType.Holds, Int.bmod_def, Varint.range, Varint.shortRange] <;>
    omega

/-! ### Fields of many values -/

theorem Field.isMany_iff (field : Field) :
    field.isMany = true ↔ field.rule = .repeated ∨ field.rule = .keyed := by
  unfold isMany
  cases field.rule <;> simp

/-! ### Fields by number -/

namespace MessageType

/-- The number of every field fits into a tag. -/
theorem number_bounds {type : MessageType} {field : Field} (member : field ∈ type.fields) :
    0 < field.number ∧ field.number < 0x20000000 := by
  have all : ∀ field ∈ type.fields, 0 < field.number ∧ field.number < 0x20000000 := by
    cases type <;> decide
  exact all field member

theorem mem_of_field? {type : MessageType} {number : Nat} {field : Field}
    (found : type.field? number = some field) : field ∈ type.fields :=
  List.mem_of_find?_eq_some found

theorem number_of_field? {type : MessageType} {number : Nat} {field : Field}
    (found : type.field? number = some field) : field.number = number := by
  simpa using List.find?_some found

/-- No two fields of a type have the same number. -/
theorem field?_number {type : MessageType} {field : Field} (member : field ∈ type.fields) :
    type.field? field.number = some field := by
  have all : ∀ field ∈ type.fields, type.field? field.number = some field := by
    cases type <;> decide
  exact all field member

/-- A field of values under keys holds the entries of subscriptions. -/
theorem type_of_keyed {type : MessageType} {field : Field} (member : field ∈ type.fields)
    (keyed : field.rule = .keyed) : field.type = .message .subscriptionsEntry := by
  have all : ∀ field ∈ type.fields, field.rule = .keyed →
      field.type = .message .subscriptionsEntry := by
    cases type <;> decide
  exact all field member keyed

/-! ### Messages inside messages -/

/-- How deep messages are nested inside a message of a type. -/
def height : MessageType → Nat
  | .slotIdRoute | .slotKeyRoute | .byAddressRoute | .argsArray | .scriptInvocationPointers
  | .scriptInvocation | .clusterScan | .updateConnectionPassword | .nodeAddress
  | .authenticationInfo | .manualInterval | .checksDisabled | .channels | .retryStrategy
  | .requestError => 0
  | .routes | .command | .subscriptionsEntry | .response => 1
  | .transaction | .subscriptions => 2
  | .commandRequest | .connectionRequest => 3

theorem height_lt {type inside : MessageType} {field : Field} (member : field ∈ type.fields)
    (holds : field.type = .message inside) : inside.height < type.height := by
  have lower : ∀ field ∈ type.fields, ∀ inside ∈ all, field.type = .message inside →
      inside.height < type.height := by
    cases type <;> decide
  have listed : inside ∈ all := by
    cases inside <;> decide
  exact lower field member inside listed holds

/-- No message of the schemas reaches the depth at which reading gives up. -/
theorem height_le_deepest (type : MessageType) : type.height ≤ Message.deepest := by
  cases type <;> decide

/-! ### Fields that exclude one another -/

theorem excludes_comm (first second : Field) : excludes first second = excludes second first := by
  rw [Bool.eq_iff_iff]
  unfold excludes
  cases first.choice? <;> cases second.choice? <;> grind

/-- The fields of a type are listed by their numbers. -/
theorem numbers_ascending (type : MessageType) :
    (type.fields.map Field.number).Pairwise (· < ·) := by
  cases type <;> decide

theorem eq_of_number {type : MessageType} {first second : Field} (one : first ∈ type.fields)
    (other : second ∈ type.fields) (same : first.number = second.number) : first = second := by
  have found := field?_number one
  rw [same, field?_number other] at found
  exact (Option.some.inj found).symm

/-- Two fields that exclude the same one exclude each other. -/
theorem excludes_trans {type : MessageType} {first second third : Field}
    (one : first ∈ type.fields) (middle : second ∈ type.fields) (other : third ∈ type.fields)
    (firstSecond : excludes first second = true) (secondThird : excludes second third = true) :
    excludes first third = true := by
  by_cases same : first.number = second.number
  · rwa [eq_of_number one middle same]
  by_cases equal : second.number = third.number
  · rwa [← eq_of_number middle other equal]
  · unfold excludes at firstSecond secondThird ⊢
    cases firstChoice : first.choice? <;> cases secondChoice : second.choice? <;> simp_all

/-- A field of many values belongs to no choice. -/
theorem same_number_of_excludes {field other : Field} (many : field.isMany = true)
    (excluded : excludes field other = true) : field.number = other.number := by
  have alone : field.choice? = none := by
    rcases field.isMany_iff.1 many with rule | rule <;> rw [Field.choice?, rule]
  simpa [excludes, alone] using excluded

/-- A field loses its value to those that exclude it. -/
theorem mem_rivals {type : MessageType} {field other : Field} {number : Nat}
    (found : type.field? number = some other) :
    number ∈ type.rivals field ↔ excludes field other = true := by
  unfold rivals
  simp only [List.mem_map, List.mem_filter]
  constructor
  · rintro ⟨candidate, ⟨member, excluded⟩, rfl⟩
    rw [field?_number member] at found
    cases found
    exact excluded
  · intro excluded
    exact ⟨other, ⟨mem_of_field? found, excluded⟩, number_of_field? found⟩

end MessageType

end Bindery.Wire
