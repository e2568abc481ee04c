/-
This file checks loosely typed values: it says what may be wrong with a value, where in the
arguments it was found, and how values of each kind are read. All findings on the arguments of
one record are listed together, in the order of its fields.
-/

import Bindery.Datum
import Bindery.Path

namespace Bindery

/-- What is wrong with a value. -/
inductive Issue where
  | missing
  | notBool
  | unreadableBool
  | notPath
  | notList
  | notTuple
  | notText
  /-- The value has the right kind but a rule refuses it. -/
  | refused (reason : String)
deriving DecidableEq, Repr

namespace Issue

/-- The short name of an issue. -/
def tag : Issue → String
  | .missing => "missing"
  | .notBool => "bool_type"
  | .unreadableBool => "bool_parsing"
  | .notPath => "path_type"
  | .notList => "list_type"
  | .notTuple => "tuple_type"
  | .notText => "string_type"
  | .refused _ => "value_error"

/-- The words for an issue. -/
def message : Issue → String
  | .missing => "Field required"
  | .notBool => "Input should be a valid boolean"
  | .unreadableBool => "Input should be a valid boolean, unable to interpret input"
  | .notPath => "Input is not a valid path for <class 'pathlib.Path'>"
  | .notList => "Input should be a valid list"
  | .notTuple => "Input should be a valid tuple"
  | .notText => "Input should be a valid string"
  | .refused reason => "Value error, " ++ reason

end Issue

/-- A step from a record to a value inside it. -/
inductive Step where
  | field (name : String)
  | item (index : Nat)
deriving DecidableEq, Repr

/-- An issue and where it was found. -/
structure Finding where
  location : List Step
  issue : Issue
deriving DecidableEq, Repr

/-- The findings on the arguments of one kind of record. -/
structure Invalid where
  subject : String
  findings : List Finding
deriving DecidableEq, Repr

/-- A value that was checked, or what was found. -/
abbrev Checked (α : Type) := Except (List Finding) α

namespace Checked

/-- The findings; none for a value. -/
def findings {α : Type} : Checked α → List Finding
  | .ok _ => []
  | .error list => list

/-- Two values, or the findings on both. -/
def both {α β : Type} (first : Checked α) (second : Checked β) : Checked (α × β) :=
  match first, second with
  | .ok a, .ok b => .ok (a, b)
  | first, second => .error (first.findings ++ second.findings)

/-- Findings seen from one step further out. -/
def under {α : Type} (step : Step) (value : Except (List Finding) α) : Checked α :=
  value.mapError (List.map fun finding => { finding with location := step :: finding.location })

/-- The value of a required field. -/
def required {α : Type} (arguments : Arguments) (name : String)
    (read : Datum → Checked α) : Checked α :=
  under (.field name) <|
    match arguments.lookup name with
    | some value => read value
    | none => .error [⟨[], .missing⟩]

/-- The value of a field that may be left out. -/
def optional {α : Type} (arguments : Arguments) (name : String) (default : α)
    (read : Datum → Checked α) : Checked α :=
  match arguments.lookup name with
  | some value => under (.field name) (read value)
  | none => .ok default

/-- The items of a list, each read by its own, from the index `index` on. -/
def items {α : Type} (read : Datum → Checked α) : (index : Nat) → List Datum → Checked (List α)
  | _, [] => .ok []
  | index, item :: rest =>
    (both (under (.item index) (read item)) (items read (index + 1) rest)).map
      fun (value, values) => value :: values

end Checked

namespace Datum

/-- A value without anything inside it that could be wrong. -/
def refuse {α : Type} (issue : Issue) : Checked α := .error [⟨[], issue⟩]

/-- The words for a truth value, in small letters. -/
def boolWord? (word : String) : Option Bool :=
  if ["0", "off", "f", "false", "n", "no"].contains word then some false
  else if ["1", "on", "t", "true", "y", "yes"].contains word then some true
  else none

/-- Zero and one as truth values. -/
def boolNumber? (value : Int) : Option Bool :=
  if value = 0 then some false else if value = 1 then some true else none

/-- A number that a signed word of 64 bits can hold. -/
def fitsWord (value : Int) : Bool := -0x8000000000000000 ≤ value && value < 0x8000000000000000

/-- A truth value: zero and one, and a few words in letters of either case, stand for one too.
Numbers with a fraction and those beyond 64 bits are of the wrong kind altogether. -/
def readBool : Datum → Checked Bool
  | .bool value => .ok value
  | .int value =>
    if fitsWord value then
      match boolNumber? value with
      | some answer => .ok answer
      | none => refuse .unreadableBool
    else refuse .notBool
  | .float value =>
    let exact := Decimal.Binary.ofFloat value
    if value.isFinite ∧ exact.isWhole ∧ exact.whole.natAbs < Decimal.twoTo 63 then
      match boolNumber? exact.whole with
      | some answer => .ok answer
      | none => refuse .unreadableBool
    else refuse .notBool
  | .text word =>
    match boolWord? (String.ofList (word.toList.map Char.toLower)) with
    | some answer => .ok answer
    | none => refuse .unreadableBool
  | _ => refuse .notBool

/-- A path is given as a text. -/
def readPath : Datum → Checked Path
  | .text value => .ok (Path.parse value)
  | _ => refuse .notPath

/-- A path or nothing. -/
def readPath? : Datum → Checked (Option Path)
  | .null => .ok none
  | value => (readPath value).map some

/-- A text. -/
def readText : Datum → Checked String
  | .text value => .ok value
  | _ => refuse .notText

/-- A list of paths. -/
def readPaths : Datum → Checked (List Path)
  | .list values => Checked.items readPath 0 values
  | _ => refuse .notList

/-- A fixed list of texts. -/
def readTexts : Datum → Checked (List String)
  | .list values => Checked.items readText 0 values
  | _ => refuse .notTuple

end Datum

end Bindery
