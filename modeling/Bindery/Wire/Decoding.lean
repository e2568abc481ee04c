/-
This file reads messages from bytes. The bytes are split into records, and the message receives
one record after another: a value that its field can hold, or else, if the number or the kind
of the record fits no field, the record as it is. A later value takes the place of an earlier
one, except that a message merges into the message that is there, and that fields which hold
many values collect them.
-/

import Bindery.Wire.Encoding

namespace Bindery.Wire

/-- The value of a field whose record holds a number. Numbers of 32 bits drop the other bits. -/
def FieldType.ofWord? (type : FieldType) (word : Nat) : Option Value :=
  match type with
  | .bool => some (.bool (word ≠ 0))
  | .int32 | .enumeration _ => some (.int (Int.bmod word Varint.shortRange))
  | .int64 => some (.int (Int.bmod word Varint.range))
  | .uint32 => some (.int (word % Varint.shortRange : Nat))
  | .uint64 => some (.int word)
  | .text | .bytes | .message _ => none

namespace Message

/-- How a message of a type goes on when bytes are read into it. -/
abbrev Reader := MessageType → Message → List UInt8 → Option Message

/-- A message that receives the bytes of a message for one of its fields. -/
def receiveMessage (read : Reader) (message : Message) (type : MessageType) (field : Field)
    (inside : MessageType) (bytes : List UInt8) : Option Message :=
  match field.rule with
  | .repeated =>
    (read inside empty bytes).map fun content => message.insert field.number (.message content)
  | .keyed =>
    (read inside empty bytes).map fun entry =>
      message.store field.number entry.entryKey entry.entryContent
  | .plain | .optional | .oneof _ =>
    (read inside (message.inner field.number) bytes).map fun content =>
      message.assign type field (.message content)

/-- A message that receives a record. -/
def receiveRecord (read : Reader) (type : MessageType) (message : Message) (record : Record) :
    Option Message :=
  match type.field? record.number with
  | none => some (message.keep record.raw)
  | some field =>
    match field.type, record.payload with
    | .message inside, .delimited bytes => message.receiveMessage read type field inside bytes
    | .bytes, .delimited bytes => some (message.receive type field (.bytes bytes))
    | .text, .delimited bytes =>
      match Text.textOf bytes with
      | .ok text => some (message.receive type field (.text text))
      | .error _ => none
    | fieldType, .varint word =>
      match fieldType.ofWord? word with
      | some value => some (message.receive type field value)
      | none => some (message.keep record.raw)
    | _, _ => some (message.keep record.raw)

/-- Bytes read into a message. At most `depth` messages and groups may be nested inside it. -/
def readInto? : (depth : Nat) → Reader
  | 0, type, message, bytes => do
    let records ← Record.split? 0 bytes
    records.foldlM (receiveRecord (fun _ _ _ => none) type) message
  | depth + 1, type, message, bytes => do
    let records ← Record.split? (depth + 1) bytes
    records.foldlM (receiveRecord (readInto? depth) type) message

/-- How deep messages and groups may be nested. -/
def deepest : Nat := 100

/-- The message that bytes stand for; none if they are not made of records, hold a text that is
no text, or are nested too deeply. -/
def decode? (type : MessageType) (bytes : List UInt8) : Option Message :=
  readInto? deepest type empty bytes

end Message

end Bindery.Wire
