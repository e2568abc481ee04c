/-
This file writes loosely typed values as text, in the form that they are read from. Quotes,
backslashes and control characters inside texts are written as escapes.
-/

import Bindery.Datum

namespace Bindery.Datum

/-- One character between double quotes. -/
def quotedChar (c : Char) : List Char :=
  if c = '"' ∨ c = '\\' then ['\\', c]
  else if c.toNat < 0x20 ∨ c.toNat = 0x7F then '\\' :: 'u' :: Text.hexDigits 4 c.toNat
  else [c]

/-- A text between double quotes. -/
def quotedText (text : String) : String :=
  String.ofList ('"' :: text.toList.flatMap quotedChar ++ ['"'])

/-- A floating-point number. -/
def floatText (value : Float) : String :=
  if value.isNaN then "NaN"
  else if value.isInf then (if value < 0 then "-Infinity" else "Infinity")
  else Decimal.shortest value

mutual

/-- A value as text. -/
def render : Datum → String
  | .null => "null"
  | .bool true => "true"
  | .bool false => "false"
  | .int value => toString value
  | .float value => floatText value
  | .text value => quotedText value
  | .list items => "[" ++ Text.join ", " (renderItems items) ++ "]"
  | .record fields => "\x7b" ++ Text.join ", " (renderFields fields) ++ "\x7d"

/-- The items of a list as texts. -/
def renderItems : List Datum → List String
  | [] => []
  | item :: items => render item :: renderItems items

/-- The fields of a record as texts. -/
def renderFields : List (String × Datum) → List String
  | [] => []
  | (name, value) :: fields => (quotedText name ++ ": " ++ render value) :: renderFields fields

end

/-! ### Changing texts -/

mutual

/-- A value with every text in it changed, names of fields included. -/
def mapTexts (change : String → String) : Datum → Datum
  | .text value => .text (change value)
  | .list items => .list (mapItems change items)
  | .record fields => .record (mapFields change fields)
  | other => other

/-- Items with every text in them changed. -/
def mapItems (change : String → String) : List Datum → List Datum
  | [] => []
  | item :: items => mapTexts change item :: mapItems change items

/-- Fields with every text in them changed. -/
def mapFields (change : String → String) : List (String × Datum) → List (String × Datum)
  | [] => []
  | (name, value) :: fields => (change name, mapTexts change value) :: mapFields change fields

end

end Bindery.Datum
