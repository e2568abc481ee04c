/-
This file shows the bytes of a text or of a byte sequence inside a message. Any other field is
refused by name, and so is a name that the message knows for another purpose; a name that it
does not know at all is refused without words. One name belongs to no field and is a text all
the same: that of the module which holds the type.
-/

import Bindery.Package.ModuleName
import Bindery.Wire.Decoding

namespace Bindery.Wire

/-- Why there are no bytes to show. -/
inductive ViewFault where
  /-- The name is not one of the message's. -/
  | unknownName
  /-- The name is known, but stands for no text and no byte sequence. -/
  | noPayload
deriving DecidableEq, Repr

namespace MessageType

/-- The words for a name that stands for no text and no byte sequence. -/
def noPayloadMessage (type : MessageType) (name : String) : String :=
  type.name ++ "." ++ name ++ " is not a bytes or string field"

/-- The name under which a message type publishes the number of a field. -/
def numberName (field : Field) : String :=
  String.ofList (field.name.toList.map Char.toUpper) ++ "_FIELD_NUMBER"

/-- The operations that every message answers to. -/
def operations : List String :=
  ["ByteSize", "Clear", "ClearExtension", "ClearField", "CopyFrom", "DESCRIPTOR",
    "DiscardUnknownFields", "FindInitializationErrors", "FromString", "HasExtension", "HasField",
    "IsInitialized", "ListFields", "MergeFrom", "MergeFromString", "ParseFromString",
    "SerializePartialToString", "SerializeToString", "SetInParent", "UnknownFields", "WhichOneof"]

/-- The names that every value answers to, whatever it is, and a message for its own purposes. -/
def commonNames : List String :=
  ["_SetListener", "__class__", "__contains__", "__deepcopy__", "__delattr__", "__dir__", "__doc__",
    "__eq__", "__format__", "__ge__", "__getattribute__", "__getstate__", "__gt__", "__hash__",
    "__init__", "__init_subclass__", "__le__", "__lt__", "__ne__", "__new__", "__reduce__",
    "__reduce_ex__", "__repr__", "__setattr__", "__setstate__", "__sizeof__", "__slots__",
    "__str__", "__subclasshook__", "__unicode__"]

/-- The name that stands for the module of a type. -/
def moduleField : String := "__module__"

/-- Whether a name that is no field's is known to the messages of a type: an operation, a name
that all values know, the number of a field, or a type that is nested in it. -/
def knows (type : MessageType) (name : String) : Bool :=
  operations.contains name || commonNames.contains name ||
    (type.fields.map numberName).contains name ||
    all.any fun other => other.outer? = some type && other.name = name

end MessageType

namespace Message

/-- The bytes of a field that holds a text or a byte sequence; none of them if it is not set. -/
def payloadBytes (message : Message) (number : Nat) : List UInt8 :=
  match message.value? number with
  | some (.text text) => Text.bytesOf text
  | some (.bytes bytes) => bytes
  | _ => []

/-- The bytes that a name stands for in a message. -/
def payload (message : Message) (type : MessageType) (name : String) :
    Except ViewFault (List UInt8) :=
  match type.named? name with
  | some field =>
    if field.isPayload then .ok (message.payloadBytes field.number)
    else .error .noPayload
  | none =>
    if name = MessageType.moduleField then
      .ok (Text.bytesOf (Package.moduleName type.schema.file))
    else if type.knows name then .error .noPayload
    else .error .unknownName

end Message

end Bindery.Wire
