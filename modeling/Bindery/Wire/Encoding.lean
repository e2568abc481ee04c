/-
This file writes messages as bytes: the values that are set, in the order of the message, each
as a record of its own, and behind them the records that belong to no field. The kind of a
value decides the kind of its record, so no message type is needed.
-/

import Bindery.Wire.Message
import Bindery.Wire.Record

namespace Bindery.Wire

/-- A number as 64 bits; a negative one as its complement. -/
def wordOf (value : Int) : Nat := (value % (Varint.range : Int)).toNat

/-- A record that holds a number. -/
def numberRecord (number word : Nat) : List UInt8 :=
  Tag.write ⟨number, .varint⟩ ++ Varint.write word

/-- A record that holds bytes. -/
def bytesRecord (number : Nat) (bytes : List UInt8) : List UInt8 :=
  Tag.write ⟨number, .delimited⟩ ++ Varint.write bytes.length ++ bytes

mutual

/-- The bytes of a message. -/
def Message.encode : Message → List UInt8
  | ⟨items, unknown⟩ => encodeItems items ++ unknown

/-- The records of values under their numbers. -/
def encodeItems : List (Nat × Value) → List UInt8
  | [] => []
  | (number, value) :: items => value.encode number ++ encodeItems items

/-- The record of a value. That of an entry holds both its key and its message, whatever they
are. -/
def Value.encode (number : Nat) : Value → List UInt8
  | .int value => numberRecord number (wordOf value)
  | .bool value => numberRecord number (if value then 1 else 0)
  | .text value => bytesRecord number (Text.bytesOf value)
  | .bytes value => bytesRecord number value
  | .message content => bytesRecord number content.encode
  | .entry key content =>
    bytesRecord number (numberRecord 1 key ++ bytesRecord 2 content.encode)

end

end Bindery.Wire
