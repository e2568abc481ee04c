/-
This file holds loosely typed values, the form in which settings reach the library before they
are checked: numbers, texts, lists and records as they are written in a data file.
-/

import Bindery.Decimal.Significant
import Bindery.Text.Quoted
import Bindery.Text.Fields

namespace Bindery

/-- A value before it is checked. -/
inductive Datum where
  | null
  | bool (value : Bool)
  | int (value : Int)
  | float (value : Float)
  | text (value : String)
  | list (items : List Datum)
  | record (fields : List (String × Datum))
deriving Repr, Inhabited

/-- Named values. -/
abbrev Arguments := List (String × Datum)

namespace Datum

mutual

/-- The written form of a value. -/
def literal : Datum → String
  | .null => "None"
  | .bool true => "True"
  | .bool false => "False"
  | .int value => toString value
  | .float value => Decimal.shortest value
  | .text value => Text.quoted value
  | .list items => "[" ++ Text.join ", " (literals items) ++ "]"
  | .record fields => "\x7b" ++ Text.join ", " (fieldLiterals fields) ++ "\x7d"

/-- The written forms of several values. -/
def literals : List Datum → List String
  | [] => []
  | item :: items => literal item :: literals items

/-- The written forms of named values. -/
def fieldLiterals : List (String × Datum) → List String
  | [] => []
  | (name, value) :: fields => (Text.quoted name ++ ": " ++ literal value) :: fieldLiterals fields

end

/-- A value as plain text; a text stands for itself. -/
def plain : Datum → String
  | .text value => value
  | other => other.literal

/-- The word for the kind of a value. -/
def kind : Datum → String
  | .null => "NoneType"
  | .bool _ => "bool"
  | .int _ => "int"
  | .float _ => "float"
  | .text _ => "str"
  | .list _ => "list"
  | .record _ => "dict"

end Datum

end Bindery
