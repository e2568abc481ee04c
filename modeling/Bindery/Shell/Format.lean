/-
This file fills formats with arguments. A directive takes the next argument as text, as a whole
number, or as a number with a fraction; a format is filled again and again as long as arguments
are left. What cannot be read as a number is complained about, and the filling goes on.
-/

import Bindery.Errno
import Bindery.Shell.Arithmetic
import Bindery.Shell.Escape
import Bindery.Template.Number

namespace Bindery.Shell

/-- What stands in a directive before its letter. -/
structure Layout where
  flags : List Char
  width : Nat
  /-- How many digits or characters; none are counted without it. -/
  precision : Option Nat

/-- Whether a flag is set. -/
def Layout.has (layout : Layout) (flag : Char) : Bool := layout.flags.contains flag

/-- A body behind its sign, at the side of the field that the flags say. Zeros go between the
sign and the body. -/
def Layout.pad (layout : Layout) (zeros : Bool) (sign body : List Char) : List Char :=
  let missing := layout.width - (sign.length + body.length)
  if layout.has '-' then sign ++ body ++ List.replicate missing ' '
  else if zeros && layout.has '0' then sign ++ List.replicate missing '0' ++ body
  else List.replicate missing ' ' ++ sign ++ body

/-- The sign of a number. -/
def Layout.sign (layout : Layout) (isNegative : Bool) : List Char :=
  if isNegative then ['-']
  else if layout.has '+' then ['+']
  else if layout.has ' ' then [' ']
  else []

/-- A text as a field, cut to the precision. -/
def Layout.text (layout : Layout) (text : List Char) : List Char :=
  let shown :=
    match layout.precision with
    | some count => text.take count
    | none => text
  layout.pad false [] shown

/-- The digits of a number, at least as many as the precision says; zero needs none. -/
def Layout.digits (layout : Layout) (base value : Nat) : List Char :=
  let least := layout.precision.getD 1
  if value = 0 && least = 0 then []
  else
    let digits := Nat.toDigits base value
    List.replicate (least - digits.length) '0' ++ digits

/-- A number with a sign as a field. -/
def Layout.signed (layout : Layout) (value : Int) : List Char :=
  layout.pad layout.precision.isNone (layout.sign (value < 0)) (layout.digits 10 value.natAbs)

/-- A number without a sign as a field, to the base that a letter stands for. -/
def Layout.unsigned (layout : Layout) (letter : Char) (value : Nat) : List Char :=
  let zeros := layout.precision.isNone
  if letter = 'u' then layout.pad zeros [] (layout.digits 10 value)
  else if letter = 'o' then
    let digits := layout.digits 8 value
    let marked :=
      if layout.has '#' && digits.head? ≠ some '0' then '0' :: digits else digits
    layout.pad zeros [] marked
  else
    let mark := if layout.has '#' && value ≠ 0 then "0x".toList else []
    let digits := layout.digits 16 value
    if letter = 'X' then
      layout.pad zeros (mark.map Char.toUpper) (digits.map Char.toUpper)
    else layout.pad zeros mark digits

/-- A number with a fraction as a field, in the form of a letter. -/
def Layout.real (layout : Layout) (letter : Char) (value : Float) : List Char :=
  let isNegative := (Decimal.Binary.ofFloat value).negative
  let body :=
    if value.isNaN then "nan".toList
    else if value.isInf then "inf".toList
    else
      Template.realText letter.toLower (layout.has '#') (layout.precision.getD 6)
        (Decimal.Binary.ofFloat value)
  let shown := if letter.isUpper then body.map Char.toUpper else body
  layout.pad (!value.isNaN && !value.isInf) (layout.sign isNegative) shown

/-- How many digits to the base sixteen a significand has behind its first bit. -/
def sixteenthPlaces : Nat := 13

/-- The magnitude of a number to the base sixteen with a power of two: `precision` digits stand
behind the point, or as many as it takes. -/
def Layout.sixteenths (layout : Layout) (value : Decimal.Binary) : List Char :=
  let places := min (layout.precision.getD sixteenthPlaces) sixteenthPlaces
  let unit := Decimal.twoTo (4 * (sixteenthPlaces - places))
  let rounded := Decimal.roundDiv value.significand unit
  let scale := Decimal.twoTo (4 * places)
  let digits := Nat.toDigits 16 (rounded % scale)
  let fraction := (List.replicate (places - digits.length) '0' ++ digits).take places
  let shown :=
    match layout.precision with
    | none => (fraction.reverse.dropWhile (· = '0')).reverse
    | some precision => fraction ++ List.replicate (precision - places) '0'
  let point := if shown.isEmpty && !layout.has '#' then [] else ['.']
  let power : Int := if value.significand = 0 then 0 else value.exponent + 52
  Nat.toDigits 16 (rounded / scale) ++ point ++ shown ++
    ['p', if power < 0 then '-' else '+'] ++ (toString power.natAbs).toList

/-- A number with a fraction as a field to the base sixteen. -/
def Layout.sixteenthReal (layout : Layout) (letter : Char) (value : Float) : List Char :=
  let exact := Decimal.Binary.ofFloat value
  if value.isNaN || value.isInf then layout.real (if letter = 'A' then 'F' else 'f') value
  else
    let inCase (text : List Char) : List Char :=
      if letter = 'A' then text.map Char.toUpper else text
    layout.pad true (layout.sign exact.negative ++ inCase ['0', 'x'])
      (inCase (layout.sixteenths exact))

/-! ### Arguments -/

/-- The state of filling a format: the arguments left, what was written, and the complaints,
both latest first. -/
structure Filling where
  arguments : List (List Char)
  written : List (List Char) := []
  complaints : List (List Char) := []

namespace Filling

/-- The filling with text written. -/
def write (filling : Filling) (text : List Char) : Filling :=
  { filling with written := text :: filling.written }

/-- The filling with a complaint. -/
def complain (filling : Filling) (text : List Char) : Filling :=
  { filling with complaints := text :: filling.complaints }

/-- Takes an argument, if one is left. -/
def next (filling : Filling) : Option (List Char) × Filling :=
  (filling.arguments.head?, { filling with arguments := filling.arguments.drop 1 })

/-- The filling with a complaint about an argument of which something is left after the number
or that holds too great a number. -/
def check (filling : Filling) (argument : List Char) (isNumber : Bool) (rest : List Char)
    (isBeyond : Bool) : Filling :=
  if rest ≠ [] then
    filling.complain
      (argument ++ (if isNumber then ": not completely converted" else
        ": expected numeric value").toList)
  else if isBeyond then
    filling.complain (argument ++ ": ".toList ++ (Errno.reason 34).toList)
  else filling

/-- The code of the character after a quote that an argument begins with. -/
def quotedCode? (argument : List Char) : Option Nat :=
  match argument with
  | c :: rest => if c = '"' || c = '\'' then some ((rest.head?.map Char.toNat).getD 0) else none
  | [] => none

/-- Takes an argument as a number with a sign. -/
def nextSigned (filling : Filling) : Int × Filling :=
  match filling.next with
  | (none, filling) => (0, filling)
  | (some argument, filling) =>
    match quotedCode? argument with
    | some code => (code, filling)
    | none =>
      let numeral := readNumeral true argument
      (numeral.value, filling.check argument numeral.isNumber numeral.rest numeral.isBeyond)

/-- Takes an argument as a number without a sign; a negative one counts from the top. -/
def nextUnsigned (filling : Filling) : Nat × Filling :=
  match filling.next with
  | (none, filling) => (0, filling)
  | (some argument, filling) =>
    match quotedCode? argument with
    | some code => (code, filling)
    | none =>
      let (isNegative, digits) :=
        match argument.dropWhile isSpace with
        | '-' :: rest => (true, rest)
        | '+' :: rest => (false, rest)
        | rest => (false, rest)
      match readMagnitude? true digits with
      | none => (0, filling.check argument false argument false)
      | some (magnitude, rest) =>
        let isBeyond := 0xFFFFFFFFFFFFFFFF < magnitude
        let value :=
          if isBeyond then 0xFFFFFFFFFFFFFFFF
          else if isNegative then bits64 (-(magnitude : Int))
          else magnitude
        (value, filling.check argument true rest isBeyond)

/-- The power of ten behind a letter, with what follows it. -/
def readPower (text : List Char) : Int × List Char :=
  match text with
  | letter :: rest =>
    if letter = 'e' || letter = 'E' then
      let (isNegative, digits) :=
        match rest with
        | '-' :: rest => (true, rest)
        | '+' :: rest => (false, rest)
        | _ => (false, rest)
      match readMagnitude? false digits with
      | none => (0, text)
      | some (power, left) => (if isNegative then -(power : Int) else power, left)
    else (0, text)
  | [] => (0, [])

/-- The power of two behind a letter, with what follows it. -/
def readTwoPower (text : List Char) : Int × List Char :=
  match text with
  | letter :: rest =>
    let (power, left) := readPower ('e' :: rest)
    if (letter = 'p' || letter = 'P') && left.length < rest.length + 1 then (power, left)
    else (0, text)
  | [] => (0, [])

/-- Digits of a kind with a point among them: those before and behind it, with what follows;
`none` if there is no digit. -/
def readPointed? (kind : Char → Bool) (text : List Char) :
    Option (List Char × List Char × List Char) :=
  let whole := text.takeWhile kind
  let after := text.dropWhile kind
  let (fraction, left) :=
    match after with
    | '.' :: rest => (rest.takeWhile kind, rest.dropWhile kind)
    | _ => ([], after)
  if whole = [] && fraction = [] then none else some (whole, fraction, left)

/-- Digits times a power of two. Far from all numbers the power need not be worked out. -/
def timesTwoPower (isNegative : Bool) (digits : Nat) (power : Int) : Float :=
  let size : Int := digits.log2
  if digits = 0 || size + power < -1200 then Decimal.nearest isNegative 0 1
  else if 1200 < size + power then Decimal.nearest isNegative (Decimal.twoTo 1024) 1
  else if 0 ≤ power then Decimal.nearest isNegative (digits * Decimal.twoTo power.toNat) 1
  else Decimal.nearest isNegative digits (Decimal.twoTo power.natAbs)

/-- A number as it was read from a text: its nearest value, whether it lies beyond all values or
is too small to be one, and what follows it. -/
structure RealRead where
  value : Float
  isBeyond : Bool
  rest : List Char

/-- Whether digits with a power of a base, of which `value` is the nearest value, are too small to
be a value. -/
def isTooSmall (value : Float) (digits : Nat) (base : Nat) (power : Int) : Bool :=
  let exact := Decimal.Binary.ofFloat value
  if digits = 0 || Decimal.twoTo 52 ≤ exact.significand then false
  else if exact.significand = 0 then true
  else
    let (numerator, denominator) := exact.fraction
    let above := if 0 ≤ power then Nat.pow base power.toNat else 1
    let below := if 0 ≤ power then 1 else Nat.pow base power.natAbs
    digits * above * denominator ≠ numerator * below

/-- Names of values that are no numbers. -/
def namedReals : List (String × Float) :=
  [("infinity", 1.0 / 0.0), ("inf", 1.0 / 0.0), ("nan", 0.0 / 0.0)]

/-- The number with a fraction at the front of a text. -/
def readReal? (text : List Char) : Option RealRead :=
  let (isNegative, body) :=
    match text.dropWhile isSpace with
    | '-' :: rest => (true, rest)
    | '+' :: rest => (false, rest)
    | rest => (false, rest)
  let isHex (c : Char) : Bool := ((digitValue? c).map fun digit => decide (digit < 16)).getD false
  let inHex? :=
    match body with
    | '0' :: x :: rest => if x = 'x' || x = 'X' then readPointed? isHex rest else none
    | _ => none
  match inHex? with
  | some (whole, fraction, left) =>
    let (power, rest) := readTwoPower left
    let digits := (readDigits 16 0 (whole ++ fraction)).1
    let scale := power - 4 * fraction.length
    let value := timesTwoPower isNegative digits scale
    some ⟨value, value.isInf || isTooSmall value digits 2 scale, rest⟩
  | none =>
    match readPointed? Char.isDigit body with
    | some (whole, fraction, left) =>
      let (power, rest) := readPower left
      let digits := (readDigits 10 0 (whole ++ fraction)).1
      let scale := power - fraction.length
      let value := Decimal.nearestDecimal isNegative digits scale
      some ⟨value, value.isInf || isTooSmall value digits 10 scale, rest⟩
    | none =>
      namedReals.findSome? fun (name, value) =>
        if (body.take name.length).map Char.toLower = name.toList then
          some ⟨if isNegative then -value else value, false, body.drop name.length⟩
        else none

/-- Takes an argument as a number with a fraction. -/
def nextReal (filling : Filling) : Float × Filling :=
  match filling.next with
  | (none, filling) => (0.0, filling)
  | (some argument, filling) =>
    match quotedCode? argument with
    | some code => (Float.ofNat code, filling)
    | none =>
      match readReal? argument with
      | none => (0.0, filling.check argument false argument false)
      | some read => (read.value, filling.check argument true read.rest read.isBeyond)

end Filling

/-! ### Formats -/

/-- The digits at the front of a text as a number, with what follows them. -/
def readCount (text : List Char) : Nat × List Char := readDigits 10 0 text

/-- How many values the words have that hold measures. -/
def measureRange : Nat := 4294967296

/-- Reads a width or a precision: digits, or a star that takes it from an argument, of which the
low half counts. -/
def readMeasure (filling : Filling) (text : List Char) : Int × Filling × List Char :=
  match text with
  | '*' :: rest =>
    let (value, filling) := filling.nextSigned
    (value.bmod measureRange, filling, rest)
  | _ =>
    let (value, rest) := readCount text
    (value, filling, rest)

/-- Reads what stands in a directive before its letter. A negative width puts the text to the
left. -/
def readLayout (filling : Filling) (text : List Char) : Layout × Filling × List Char :=
  let flags := text.takeWhile fun c => ['#', '-', '+', ' ', '0'].contains c
  let (width, filling, rest) := readMeasure filling (text.drop flags.length)
  let flags := if width < 0 then '-' :: flags else flags
  match rest with
  | '.' :: rest =>
    let (precision, filling, rest) := readMeasure filling rest
    let kept := if precision < 0 then none else some precision.toNat
    (⟨flags, width.natAbs, kept⟩, filling, rest)
  | _ => (⟨flags, width.natAbs, none⟩, filling, rest)

/-- What comes of one pass over a format. -/
inductive Pass where
  | done (filling : Filling)
  /-- An argument asks for nothing to follow. -/
  | stopped (filling : Filling)
  /-- The format cannot be filled. -/
  | refused (filling : Filling) (words : List Char)

/-- Fills a directive, whose text stands behind a percent sign, and gives what follows it. -/
def fillDirective (filling : Filling) (text : List Char) : Pass × List Char :=
  let (layout, filling, rest) := readLayout filling text
  match rest with
  | [] => (.refused filling "missing format character".toList, [])
  | letter :: rest =>
    if letter = 'b' then
      let (argument, filling) := filling.next
      let (shown, stops) := unescape (argument.getD [])
      let filling := filling.write (layout.text shown)
      (if stops then .stopped filling else .done filling, rest)
    else if letter = 'c' then
      let (argument, filling) := filling.next
      let c := ((argument.getD []).head?).getD '\x00'
      (.done (filling.write (layout.pad false [] [c])), rest)
    else if letter = 's' then
      let (argument, filling) := filling.next
      (.done (filling.write (layout.text (argument.getD []))), rest)
    else if letter = 'd' || letter = 'i' then
      let (value, filling) := filling.nextSigned
      (.done (filling.write (layout.signed value)), rest)
    else if ['o', 'u', 'x', 'X'].contains letter then
      let (value, filling) := filling.nextUnsigned
      (.done (filling.write (layout.unsigned letter value)), rest)
    else if ['e', 'E', 'f', 'F', 'g', 'G'].contains letter then
      let (value, filling) := filling.nextReal
      (.done (filling.write (layout.real letter value)), rest)
    else if letter = 'a' || letter = 'A' then
      let (value, filling) := filling.nextReal
      (.done (filling.write (layout.sixteenthReal letter value)), rest)
    else
      let shown := text.take (text.length - rest.length)
      (.refused filling ('%' :: shown ++ ": invalid directive".toList), rest)

/-- Fills a format once. -/
def fillOnce : (fuel : Nat) → Filling → List Char → Pass
  | 0, filling, _ => .done filling
  | _ + 1, filling, [] => .done filling
  | fuel + 1, filling, '\\' :: rest =>
    let (c, left) := readEscaped rest
    fillOnce fuel (filling.write [c]) left
  | fuel + 1, filling, '%' :: '%' :: rest => fillOnce fuel (filling.write ['%']) rest
  | fuel + 1, filling, '%' :: rest =>
    match fillDirective filling rest with
    | (.done filling, left) => fillOnce fuel filling left
    | (pass, _) => pass
  | fuel + 1, filling, c :: rest => fillOnce fuel (filling.write [c]) rest

/-- Fills a format as often as it takes arguments and some are left. -/
def fillAll (format : List Char) (count : Nat) : (fuel : Nat) → Filling → Pass
  | 0, filling => .done filling
  | fuel + 1, filling =>
    match fillOnce (format.length + 1) filling format with
    | .done filled =>
      if filled.arguments = [] || filled.arguments.length = count then .done filled
      else fillAll format count fuel filled
    | pass => pass

/-- What a format comes to: the text, the complaints, and the words of a refusal. -/
structure Filled where
  text : List Char
  complaints : List (List Char)
  refusal : Option (List Char)

/-- A format filled with arguments. -/
def fillFormat (format : List Char) (arguments : List (List Char)) : Filled :=
  let pass := fillAll format arguments.length (arguments.length + 1) { arguments := arguments }
  let (filling, refusal) :=
    match pass with
    | .done filling | .stopped filling => (filling, none)
    | .refused filling words => (filling, some words)
  ⟨filling.written.reverse.flatten, filling.complaints.reverse, refusal⟩

end Bindery.Shell
