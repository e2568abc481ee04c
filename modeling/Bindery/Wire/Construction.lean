/-
This file builds messages from named values. The values are offered one after another. Each is
checked against the type of its field; what it cannot be turned into is refused as being of the
wrong kind, and what is of the right kind but out of range, or a name that does not exist, is
refused as such. A later value of a choice takes the place of an earlier one.
-/

import Bindery.Decimal.Binary
import Bindery.Text.Utf8
import Bindery.Wire.Message

namespace Bindery.Wire

/-- A value that is offered for a field. -/
inductive Offer where
  /-- No value; the field is left as it is. -/
  | nothing
  | bool (value : Bool)
  | int (value : Int)
  /-- A number of the kind that may have a fraction, which no field takes. -/
  | float (value : Float)
  | text (value : String)
  | bytes (value : List UInt8)
  | list (items : List Offer)
  /-- Values under keys: the fields of a message by name, or those of a keyed field. -/
  | table (entries : List (Offer × Offer))
  /-- A message that was there before. -/
  | message (type : MessageType) (content : Message)
deriving Repr, Inhabited

/-- Why an offer is refused. -/
inductive Refusal where
  /-- The field takes no values of this kind. -/
  | wrongKind
  /-- The field takes values of this kind, but not this one; or there is no such field. -/
  | wrongValue
deriving DecidableEq, Repr

namespace Offer

/-! ### Single values -/

/-- A number between two bounds. The truth values are no numbers. -/
def asInt (low high : Int) : Offer → Except Refusal Value
  | .int value =>
    if low ≤ value ∧ value ≤ high then .ok (.int value) else .error .wrongValue
  | _ => .error .wrongKind

/-- A truth value. A number is true unless it is zero. -/
def asBool : Offer → Except Refusal Value
  | .bool value => .ok (.bool value)
  | .int value => .ok (.bool (value ≠ 0))
  | _ => .error .wrongKind

/-- A text, given as it is or by its bytes. -/
def asText : Offer → Except Refusal Value
  | .text value => .ok (.text value)
  | .bytes encoded =>
    match Text.textOf encoded with
    | .ok value => .ok (.text value)
    | .error _ => .error .wrongValue
  | _ => .error .wrongKind

/-- A byte sequence; a text is none. -/
def asBytes : Offer → Except Refusal Value
  | .bytes value => .ok (.bytes value)
  | _ => .error .wrongKind

/-- A value of an enumeration, given by its name or its number. The number needs no name. -/
def asEnumeration (enumeration : Enumeration) : Offer → Except Refusal Value
  | .text name =>
    match enumeration.number? name with
    | some number => .ok (.int number)
    | none => .error .wrongValue
  | offer => offer.asInt (-0x80000000) 0x7FFFFFFF

/-- A message of the type that a field holds; one of another type is of the wrong kind. -/
def asMessage (inside : MessageType) : Offer → Except Refusal Message
  | .message type content => if type = inside then .ok content else .error .wrongKind
  | _ => .error .wrongKind

/-- A value that is offered as a whole. -/
def asWhole (offer : Offer) : FieldType → Except Refusal Value
  | .bool => offer.asBool
  | .int32 => offer.asInt (-0x80000000) 0x7FFFFFFF
  | .int64 => offer.asInt (-0x8000000000000000) 0x7FFFFFFFFFFFFFFF
  | .uint32 => offer.asInt 0 0xFFFFFFFF
  | .uint64 => offer.asInt 0 0xFFFFFFFFFFFFFFFF
  | .text => offer.asText
  | .bytes => offer.asBytes
  | .enumeration enumeration => offer.asEnumeration enumeration
  | .message inside => (offer.asMessage inside).map .message

/-- A key, which is a number of 32 bits without sign. -/
def asKey (offer : Offer) : Except Refusal Nat :=
  match offer.asInt 0 0xFFFFFFFF with
  | .ok (.int key) => .ok key.toNat
  | .ok _ => .error .wrongKind
  | .error refusal => .error refusal

/-! ### Tables -/

/-- The number that an offer is equal to, as a key. -/
def number? : Offer → Option Decimal.Binary
  | .bool value => some ⟨false, if value then 1 else 0, 0⟩
  | .int value => some ⟨value < 0, value.natAbs, 0⟩
  | .float value => if value.isFinite then some (.ofFloat value) else none
  | _ => none

/-- Whether two offers are the same key. Numbers of all kinds are compared by value. -/
def sameKey : Offer → Offer → Bool
  | .nothing, .nothing => true
  | .text a, .text b => a = b
  | .bytes a, .bytes b => a = b
  | a, b =>
    match a.number?, b.number? with
    | some first, some second => first.isEqual second
    | _, _ => false

/-- The entries of a table with one more. A key that is there already keeps its place and gets
the new value. -/
def insertEntry (key value : Offer) : List (Offer × Offer) → List (Offer × Offer)
  | [] => [(key, value)]
  | (known, old) :: entries =>
    if known.sameKey key then (known, value) :: entries
    else (known, old) :: insertEntry key value entries

/-- A table of pairs that come one after the other. -/
def ofPairs (pairs : List (Offer × Offer)) : Offer :=
  .table (pairs.foldl (fun entries (key, value) => insertEntry key value entries) [])

/-- Whether an offer may be a key: lists, tables and messages may not. -/
def isKey : Offer → Bool
  | .list _ | .table _ | .message .. => false
  | _ => true

mutual

/-- Whether all keys in an offer may be keys. -/
def isSound : Offer → Bool
  | .list items => areSound items
  | .table entries => haveKeys entries
  | _ => true

/-- Whether all keys in offers may be keys. -/
def areSound : List Offer → Bool
  | [] => true
  | offer :: items => offer.isSound && areSound items

/-- Whether all keys of entries and in their values may be keys. -/
def haveKeys : List (Offer × Offer) → Bool
  | [] => true
  | (key, value) :: entries => key.isKey && value.isSound && haveKeys entries

end

/-! ### Messages -/

/-- The type of the messages that a keyed field holds under its keys. -/
def contentType? (field : Field) : Option MessageType :=
  match field.type with
  | .message entry =>
    match entry.field? 2 with
    | some ⟨_, _, .message inside, _⟩ => some inside
    | _ => none
  | _ => none

/-- The field that an offer names. -/
def asField (type : MessageType) : Offer → Except Refusal Field
  | .text name =>
    match type.named? name with
    | some field => .ok field
    | none => .error .wrongValue
  | _ => .error .wrongValue

/-- Whether an offer that is no list holds nothing that a field of many values could take. -/
def isHollow : Offer → Bool
  | .text value => value.isEmpty
  | .bytes value => value.isEmpty
  | _ => false

mutual

/-- A message that receives named values. -/
def fill (type : MessageType) (message : Message) :
    List (Offer × Offer) → Except Refusal Message
  | [] => .ok message
  | (name, offer) :: entries => do
    let field ← asField type name
    fill type (← give type field message offer) entries

/-- A message that receives the value of one field. -/
def give (type : MessageType) (field : Field) (message : Message) :
    Offer → Except Refusal Message
  | .nothing => .ok message
  | .table entries =>
    match field.rule, field.type with
    | .keyed, _ => giveEntries field message entries
    | .repeated, _ => if entries.isEmpty then .ok message else .error .wrongKind
    | _, .message inside => do
      return message.assign type field (.message (← fill inside .empty entries))
    | _, _ => .error .wrongKind
  | .list items =>
    match field.rule with
    | .repeated => giveItems field message items
    | .keyed => if items.isEmpty then .ok message else .error .wrongKind
    | _ => .error .wrongKind
  | offer =>
    if field.isMany then if offer.isHollow then .ok message else .error .wrongKind
    else do return message.assign type field (← offer.asWhole field.type)

/-- A message that receives the values of a repeated field. -/
def giveItems (field : Field) (message : Message) : List Offer → Except Refusal Message
  | [] => .ok message
  | offer :: items => do
    let value ← valueOf field offer
    giveItems field (message.insert field.number value) items

/-- One value of a field. -/
def valueOf (field : Field) : Offer → Except Refusal Value
  | .table entries =>
    match field.type with
    | .message inside => do return .message (← fill inside .empty entries)
    | _ => .error .wrongKind
  | offer => offer.asWhole field.type

/-- A message that receives the values of a keyed field. -/
def giveEntries (field : Field) (message : Message) :
    List (Offer × Offer) → Except Refusal Message
  | [] => .ok message
  | (key, offer) :: entries => do
    let key ← key.asKey
    let content ← contentOf field offer
    giveEntries field (message.store field.number key content) entries

/-- The message that a keyed field holds under one key. -/
def contentOf (field : Field) : Offer → Except Refusal Message
  | .table entries =>
    match contentType? field with
    | some inside => fill inside .empty entries
    | none => .error .wrongKind
  | offer =>
    match contentType? field with
    | some inside => offer.asMessage inside
    | none => .error .wrongKind

end

end Offer

/-- The message of a type with the given values. An offer with a key that is none is of the wrong
kind wherever it stands. -/
def Message.build (type : MessageType) (entries : List (Offer × Offer)) :
    Except Refusal Message :=
  if Offer.haveKeys entries then Offer.fill type .empty entries else .error .wrongKind

example : Message.build .response [(.text "request_error", .message .requestError .empty)] =
    .ok ⟨[(4, .message .empty)], []⟩ := rfl

example : Message.build .response [(.text "request_error", .message .channels .empty)] =
    .error .wrongKind := rfl

end Bindery.Wire
