/-
This file fills message templates. Values come one after the other from a list that must be used
up, or by their names; a width or a precision may be such a value as well.
-/

import Bindery.Datum
import Bindery.Template.Basic
import Bindery.Template.Number

namespace Bindery.Template

/-- The values that are left to fill in. Where values have names, a directive without one gets
the record itself or, after a value was named, that value once. -/
structure Supply where
  names : Option (List (String × Datum))
  values : List Datum
deriving Inhabited

/-- Values in a list. -/
def Supply.ofList (values : List Datum) : Supply := ⟨none, values⟩

/-- Values by their names. -/
def Supply.ofRecord (fields : List (String × Datum)) : Supply := ⟨some fields, [.record fields]⟩

/-- The next value. -/
def Supply.next (supply : Supply) : Except Fault (Datum × Supply) :=
  match supply.values with
  | [] => .error .notEnough
  | value :: rest => .ok (value, { supply with values := rest })

/-- The values after the name of a directive was read. -/
def Supply.choose (supply : Supply) (key : Key) : Except Fault Supply :=
  match key, supply.names with
  | .absent, _ => .ok supply
  | _, none => .error .needsMapping
  | .unclosed, _ => .error .unclosedKey
  | .named name, some fields =>
    match fields.lookup name with
    | some value => .ok { supply with values := [value] }
    | none => .error (.unknownKey name)

/-- The whole number that a value is. -/
def count? : Datum → Option Int
  | .bool value => some (if value then 1 else 0)
  | .int value => some value
  | _ => none

/-! ### Width and precision -/

/-- How the text of one value is placed. -/
structure Form where
  flags : List Char
  width : Nat
  precision : Option Nat
deriving Repr

/-- The width of a directive, its flags and the values that are left. A negative width asks for
blanks behind the value; the most negative one has no counterpart and asks for nothing. -/
def widthOf (directive : Directive) (supply : Supply) :
    Except Fault (Nat × List Char × Supply) :=
  match directive.width with
  | .absent => .ok (0, directive.flags, supply)
  | .exactly width => .ok (width, directive.flags, supply)
  | .excessive => .error .widthTooBig
  | .argument => do
    let (value, supply) ← supply.next
    match count? value with
    | none => .error .measureNotWhole
    | some width =>
      if 0 ≤ width then
        if width ≤ mostWidth then .ok (width.toNat, directive.flags, supply)
        else .error .widthUncountable
      else
        if -mostWidth ≤ width then .ok (width.natAbs, '-' :: directive.flags, supply)
        else if width = -mostWidth - 1 then .ok (0, '-' :: directive.flags, supply)
        else .error .widthUncountable

/-- The precision of a directive and the values that are left. A negative one counts as zero. -/
def precisionOf (directive : Directive) (supply : Supply) :
    Except Fault (Option Nat × Supply) :=
  match directive.precision with
  | .absent => .ok (none, supply)
  | .exactly count => .ok (some count, supply)
  | .excessive => .error .precisionTooBig
  | .argument => do
    let (value, supply) ← supply.next
    match count? value with
    | none => .error .measureNotWhole
    | some count =>
      if -mostPrecision - 1 ≤ count ∧ count ≤ mostPrecision then .ok (some count.toNat, supply)
      else .error .precisionUncountable

/-! ### One value -/

/-- The least width that no memory has room for. -/
def hugeWidth : Nat := 0x1000000000

/-- The sign of a number and the text after it; flags ask for a sign where there is none. -/
def Form.signed (form : Form) (body : List Char) : List Char × List Char :=
  match body with
  | '-' :: rest => (['-'], rest)
  | rest =>
    (if form.flags.contains '+' then ['+'] else if form.flags.contains ' ' then [' '] else [],
      rest)

/-- Text brought to the width: blanks at the end or the front, or zeros after what stands in
front of the digits. -/
def Form.pad (form : Form) (zeros : Bool) (front body : List Char) : Except Fault (List Char) :=
  if hugeWidth ≤ form.width then .error .outOfMemory
  else
    let missing := form.width - (front.length + body.length)
    .ok (if form.flags.contains '-' then front ++ body ++ List.replicate missing ' '
      else if zeros then front ++ List.replicate missing '0' ++ body
      else List.replicate missing ' ' ++ front ++ body)

/-- A number brought to the width. The mark of its base takes `mark` characters. -/
def Form.padNumber (form : Form) (mark : Nat) (body : List Char) : Except Fault (List Char) :=
  let (sign, rest) := form.signed body
  form.pad (form.flags.contains '0') (sign ++ rest.take mark) (rest.drop mark)

/-- A text cut to the precision and brought to the width. -/
def Form.padText (form : Form) (text : String) : Except Fault (List Char) :=
  let shown := match form.precision with
    | some count => text.toList.take count
    | none => text.toList
  form.pad false [] shown

/-- Letters in capitals. -/
def inCapitals (text : List Char) : List Char := text.map Char.toUpper

/-- The whole number that a value stands for to the base of ten. -/
def wholeOf (letter : Char) : Datum → Except Fault Int
  | .float value =>
    if value.isNaN then .error .undefinedWhole
    else if value.isInf then .error .infiniteWhole
    else .ok (Decimal.Binary.ofFloat value).whole
  | value =>
    match count? value with
    | some number => .ok number
    | none => .error (.notNumber letter value.kind)

/-- A whole number in the form of a letter. -/
def Form.fillWhole (form : Form) (letter : Char) (base : Nat) (value : Int) :
    Except Fault (List Char) :=
  if mostPrecision - 3 < form.precision.getD 0 then .error .precisionTooLarge
  else
    let mark : List Char :=
      if base ≠ 10 ∧ form.flags.contains '#' then ['0', if base = 8 then 'o' else 'x'] else []
    let shown := wholeText base mark (form.precision.getD 0) value
    form.padNumber mark.length (if letter = 'X' then inCapitals shown else shown)

/-- The number that a value stands for. -/
def realOf : Datum → Except Fault Float
  | .float value => .ok value
  | value =>
    match count? value with
    | none => .error (.notReal value.kind)
    | some number =>
      match Decimal.nearestWhole? number with
      | some value => .ok value
      | none => .error .beyondFloats

/-- A number in the form of a letter. -/
def Form.fillReal (form : Form) (letter : Char) (value : Float) : Except Fault (List Char) :=
  let shown :=
    match Decimal.unbounded? value with
    | some text => text.toList
    | none =>
      let exact := Decimal.Binary.ofFloat value
      (if exact.negative then ['-'] else []) ++
        realText letter.toLower (form.flags.contains '#') (form.precision.getD 6) exact
  form.padNumber 0 (if letter.isUpper then inCapitals shown else shown)

/-- The character that a value stands for. -/
def charOf : Datum → Except Fault Char
  | .text value =>
    match value.toList with
    | [c] => .ok c
    | _ => .error .notChar
  | value =>
    match count? value with
    | none => .error .notChar
    | some code =>
      if 0 ≤ code ∧ code < 0x110000 then .ok (Char.ofNat code.toNat) else .error .noSuchChar

/-- One value in the form of a letter. -/
def Form.fill (form : Form) (letter : Char) (position : Nat) (value : Datum) :
    Except Fault (List Char) :=
  if letter = 's' then form.padText value.plain
  else if letter = 'r' then form.padText value.literal
  else if letter = 'a' then form.padText (Text.narrowed value.literal)
  else if letter = 'd' || letter = 'i' || letter = 'u' then do
    form.fillWhole letter 10 (← wholeOf letter value)
  else if letter = 'o' || letter = 'x' || letter = 'X' then
    match count? value with
    | some number => form.fillWhole letter (if letter = 'o' then 8 else 16) number
    | none => .error (.notWhole letter value.kind)
  else if ['e', 'E', 'f', 'F', 'g', 'G'].contains letter then do
    form.fillReal letter (← realOf value)
  else if letter = 'c' then do
    form.pad false [] [← charOf value]
  else .error (.unsupported letter position)

/-! ### The whole template -/

/-- One directive filled in, and the values that are left. -/
def Directive.fill (directive : Directive) (supply : Supply) :
    Except Fault (List Char × Supply) := do
  let supply ← supply.choose directive.key
  let (width, flags, supply) ← widthOf directive supply
  let (precision, supply) ← precisionOf directive supply
  match directive.letter with
  | none => .error .incomplete
  | some letter =>
    let (value, supply) ← supply.next
    let shown ← Form.fill ⟨flags, width, precision⟩ letter directive.position value
    return (shown, supply)

/-- The pieces with their values filled in. Values in a list must all be used. -/
def fillPieces : List Piece → Supply → Except Fault (List Char)
  | [], supply => if supply.names.isNone && !supply.values.isEmpty then .error .notAll else .ok []
  | .char c :: rest, supply => (fillPieces rest supply).map (c :: ·)
  | .directive directive :: rest, supply => do
    let (shown, supply) ← directive.fill supply
    return shown ++ (← fillPieces rest supply)

/-- A template with its values. -/
def fill (template : String) (supply : Supply) : Except Fault String :=
  (fillPieces (pieces template.toList.length template.toList) supply).map String.ofList

end Bindery.Template
