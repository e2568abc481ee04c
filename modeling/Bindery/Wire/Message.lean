/-
This file holds messages as values. A message is the list of the values that are set in it, each
under the number of its field, and the bytes of the records that belong to no field. The values
are kept in the order in which they travel: by field, those of a repeated field in sequence, those
of a keyed field by key. So two messages are equal exactly when they are the same list.
-/

import Bindery.Wire.Schema

namespace Bindery.Wire

mutual

/-- One value of a field. -/
inductive Value where
  /-- A number, also that of an enumeration. -/
  | int (value : Int)
  | bool (value : Bool)
  | text (value : String)
  | bytes (value : List UInt8)
  | message (content : Message)
  /-- A message under a key. -/
  | entry (key : Nat) (content : Message)

/-- A message. -/
structure Message where
  /-- The values that are set, under the numbers of their fields. -/
  items : List (Nat × Value)
  /-- The records that belong to no field, as they were received. -/
  unknown : List UInt8

end

deriving instance Repr for Value, Message

namespace Value

/-- Whether a scalar value is the one that its field has when nothing is set. -/
def isDefault : Value → Bool
  | .int value => value = 0
  | .bool value => !value
  | .text value => value.isEmpty
  | .bytes value => value.isEmpty
  | .message _ | .entry _ _ => false

/-- Whether a value stands under a key. -/
def isEntry : Value → Bool
  | .entry _ _ => true
  | _ => false

/-- The key that a value stands under. -/
def key : Value → Nat
  | .entry key _ => key
  | _ => 0

end Value

/-- Whether a value in its field may travel before another: its field has a smaller number, or
it is the same field and the key is no greater. -/
def precedes (first second : Nat × Value) : Bool :=
  first.1 < second.1 || (first.1 = second.1 && first.2.key ≤ second.2.key)

/-- Whether a value that is given to the field counts as set. -/
def Field.shows (field : Field) (value : Value) : Bool :=
  field.tracksPresence || !value.isDefault

namespace Message

/-- The message in which nothing is set. -/
def empty : Message := ⟨[], []⟩

instance : Inhabited Message := ⟨empty⟩

/-! ### Looking at a message -/

/-- The values of a field. -/
def values (message : Message) (number : Nat) : List Value :=
  (message.items.filter fun item => item.1 = number).map Prod.snd

/-- The first value of a field, which is the only one unless the field holds many. -/
def value? (message : Message) (number : Nat) : Option Value := (message.values number).head?

/-- The message that a field holds; the empty one if it holds none. -/
def inner (message : Message) (number : Nat) : Message :=
  match message.value? number with
  | some (.message content) => content
  | _ => empty

/-- The field of a choice that is set. -/
def chosen? (message : Message) (type : MessageType) (choice : String) : Option Field :=
  type.fields.find? fun field =>
    field.choice? = some choice && (message.value? field.number).isSome

/-! ### Changing a message -/

/-- The message with one more value, behind all that may travel before it. -/
def insert (message : Message) (number : Nat) (value : Value) : Message :=
  let before := fun item : Nat × Value => precedes item (number, value)
  { message with
    items := message.items.takeWhile before ++ (number, value) :: message.items.dropWhile before }

/-- The message in which some fields are not set. -/
def without (message : Message) (numbers : List Nat) : Message :=
  { message with items := message.items.filter fun item => !numbers.contains item.1 }

/-- The message in which a field holds one value, or none if the value does not count. The
other fields of its choice lose theirs. -/
def assign (message : Message) (type : MessageType) (field : Field) (value : Value) : Message :=
  let cleared := message.without (type.rivals field)
  if field.shows value then cleared.insert field.number value else cleared

/-- The message in which a field has received a value: one more if it holds many, else this one
alone. -/
def receive (message : Message) (type : MessageType) (field : Field) (value : Value) : Message :=
  if field.isMany then message.insert field.number value else message.assign type field value

/-- The message in which a keyed field holds a message under a key, in the place of one that it
may have held there. -/
def store (message : Message) (number key : Nat) (content : Message) : Message :=
  let others := message.items.filter fun item => !(item.1 = number && item.2.key = key)
  ({ message with items := others } : Message).insert number (.entry key content)

/-- The message with one more record that belongs to no field. -/
def keep (message : Message) (raw : List UInt8) : Message :=
  { message with unknown := message.unknown ++ raw }

/-- The key and the message of an entry. An entry without them stands for the key zero and the
empty message. -/
def entryKey (entry : Message) : Nat :=
  match entry.value? 1 with
  | some (.int key) => key.toNat
  | _ => 0

/-- The message that an entry holds. -/
def entryContent (entry : Message) : Message := entry.inner 2

end Message

/-! ### The order of keys -/

/-- The numbers of the fields that the values under keys belong to, one for each value. -/
def keyedNumbers (items : List (Nat × Value)) : List Nat :=
  (items.filter fun item => item.2.isEntry).map Prod.fst

mutual

/-- Whether a field of the message, or of a message inside it, holds values under several keys.
The order of such values is not told by the message, and so neither are its bytes. -/
def Message.hasManyKeys : Message → Bool
  | ⟨items, _⟩ => !decide (keyedNumbers items).Nodup || anyManyKeys items

/-- Whether one of the values holds a message with values under several keys. -/
def anyManyKeys : List (Nat × Value) → Bool
  | [] => false
  | (_, value) :: items => value.hasManyKeys || anyManyKeys items

/-- Whether a value holds a message with values under several keys. -/
def Value.hasManyKeys : Value → Bool
  | .message content | .entry _ content => content.hasManyKeys
  | .int _ | .bool _ | .text _ | .bytes _ => false

end

end Bindery.Wire
