/-
This file describes the schemas and the bindings that are made for them: the numbers of the
field types, the top-level declarations of a schema, and the names that the package of the
bindings exports.
-/

import Bindery.Package.Init
import Bindery.Wire.Schema

namespace Bindery.Wire

/-- The number of a field type in descriptions of schemas. -/
def FieldType.descriptionNumber : FieldType → Nat
  | .int64 => 3
  | .uint64 => 4
  | .int32 => 5
  | .bool => 8
  | .text => 9
  | .message _ => 11
  | .bytes => 12
  | .uint32 => 13
  | .enumeration _ => 14

/-- The full name of the message type or enumeration that a field type refers to. -/
def FieldType.reference? : FieldType → Option String
  | .message type => some type.fullName
  | .enumeration declared => some declared.fullName
  | _ => none

namespace Schema

/-- The message types at the top of a schema in the order of their names. -/
def messages (schema : Schema) : List String :=
  Package.nameSet ((MessageType.all.filter fun type =>
    type.schema = schema && type.outer?.isNone).map MessageType.name)

/-- The enumerations of a schema in the order of their names. -/
def enumerations (schema : Schema) : List Enumeration :=
  Enumeration.all.filter fun enumeration => enumeration.schema = schema

/-- The module of the bindings for a schema. -/
def module (schema : Schema) : String := Package.moduleName schema.file

/-- The names that the package of the bindings exports. -/
def exported : List String := Package.exportedNames (all.map module) .standard

end Schema

end Bindery.Wire
