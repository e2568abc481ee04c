/-
This file reads loosely typed values from text: `null`, truth values, numbers, texts between
double quotes, lists between brackets and records between braces. A number with a point or an
exponent is a floating-point number, and so are `NaN`, `Infinity` and `-Infinity`; any other
number is whole. Fields of a record keep their order; a name that comes again keeps its place
and gets the later value.
-/

import Bindery.Datum

namespace Bindery.Datum

/-- The text without blanks in front. -/
def skipBlanks (text : List Char) : List Char :=
  text.dropWhile fun c => c = ' ' || c = '\n' || c = '\r' || c = '\t'

/-! ### Texts -/

/-- The value of a digit to the base of sixteen. -/
def hexDigit? (c : Char) : Option Nat :=
  if c.isDigit then some (c.toNat - 0x30)
  else if 'a' ≤ c ∧ c ≤ 'f' then some (c.toNat - 0x57)
  else if 'A' ≤ c ∧ c ≤ 'F' then some (c.toNat - 0x37)
  else none

/-- The number that four digits to the base of sixteen stand for. -/
def unit? (a b c d : Char) : Option Nat := do
  return (((← hexDigit? a) * 16 + (← hexDigit? b)) * 16 + (← hexDigit? c)) * 16 + (← hexDigit? d)

/-- The character of a letter behind a backslash. -/
def escape? : Char → Option Char
  | '"' => some '"'
  | '\\' => some '\\'
  | '/' => some '/'
  | 'b' => some '\x08'
  | 'f' => some '\x0c'
  | 'n' => some '\n'
  | 'r' => some '\r'
  | 't' => some '\t'
  | _ => none

/-- The character of two units of sixteen bits that stand for one, if they do. -/
def pair? (high low : Nat) : Option Char :=
  if 0xD800 ≤ high ∧ high < 0xDC00 ∧ 0xDC00 ≤ low ∧ low < 0xE000 then
    some (Char.ofNat (0x10000 + (high - 0xD800) * 0x400 + (low - 0xDC00)))
  else none

/-- The rest of a text up to its quote, with what was read so far reversed. -/
def readQuoted (front : List Char) : List Char → Option (String × List Char)
  | [] => none
  | '"' :: rest => some (String.ofList front.reverse, rest)
  | '\\' :: 'u' :: a :: b :: c :: d :: '\\' :: 'u' :: e :: f :: g :: h :: rest => do
    let high ← unit? a b c d
    match (unit? e f g h).bind (pair? high) with
    | some c => readQuoted (c :: front) rest
    | none => readQuoted (Char.ofNat high :: front) ('\\' :: 'u' :: e :: f :: g :: h :: rest)
  | '\\' :: 'u' :: a :: b :: c :: d :: rest => do
    readQuoted (Char.ofNat (← unit? a b c d) :: front) rest
  | '\\' :: c :: rest => do readQuoted ((← escape? c) :: front) rest
  | c :: rest => readQuoted (c :: front) rest
termination_by source => source.length

/-! ### Numbers -/

/-- Whether a character may belong to a number. -/
def isNumberChar (c : Char) : Bool := c.isDigit || ['-', '+', '.', 'e', 'E'].contains c

/-- The number that digits stand for. -/
def digitsValue (digits : List Char) : Nat :=
  digits.foldl (fun value c => value * 10 + (c.toNat - 0x30)) 0

/-- The whole number that a sign and digits stand for. -/
def wholeValue : List Char → Int
  | '-' :: digits => -(digitsValue digits : Int)
  | '+' :: digits => digitsValue digits
  | digits => digitsValue digits

/-- The number of a token. -/
def ofToken (token : List Char) : Datum :=
  if token.any fun c => c = '.' || c = 'e' || c = 'E' then
    let negative := token.head? = some '-'
    let body := if negative then token.drop 1 else token
    let mantissa := body.takeWhile fun c => c ≠ 'e' ∧ c ≠ 'E'
    let fraction := (mantissa.dropWhile (· ≠ '.')).drop 1
    let power := wholeValue ((body.dropWhile fun c => c ≠ 'e' ∧ c ≠ 'E').drop 1)
    .float (Decimal.nearestDecimal negative (digitsValue (mantissa.filter Char.isDigit))
      (power - fraction.length))
  else .int (wholeValue token)

/-- Infinity. -/
def infinity : Float := Decimal.nearest false (Decimal.twoTo 1024) 1

/-- The values that are written as words. -/
def words : List (String × Datum) := [
  ("null", .null), ("true", .bool true), ("false", .bool false),
  ("NaN", .float (infinity - infinity)), ("Infinity", .float infinity),
  ("-Infinity", .float (-infinity))]

/-- The value of the word at the front of a text. -/
def readWord (text : List Char) : Option (Datum × List Char) :=
  words.findSome? fun (word, value) => (Text.afterFront? word.toList text).map (value, ·)

/-! ### Values -/

/-- Fields with one more. -/
def insertField (name : String) (value : Datum) : List (String × Datum) → List (String × Datum)
  | [] => [(name, value)]
  | (known, old) :: fields =>
    if known = name then (name, value) :: fields
    else (known, old) :: insertField name value fields

mutual

/-- The value at the front of a text. -/
def readValue : (fuel : Nat) → List Char → Option (Datum × List Char)
  | 0, _ => none
  | fuel + 1, source =>
    match skipBlanks source with
    | '"' :: rest => (readQuoted [] rest).map fun (value, left) => (.text value, left)
    | '[' :: rest =>
      match skipBlanks rest with
      | ']' :: left => some (.list [], left)
      | left => (readItems fuel left).map fun (items, left) => (.list items, left)
    | '\x7b' :: rest =>
      match skipBlanks rest with
      | '\x7d' :: left => some (.record [], left)
      | left => (readFields fuel [] left).map fun (fields, left) => (.record fields, left)
    | rest =>
      match readWord rest with
      | some found => some found
      | none =>
        let token := rest.takeWhile isNumberChar
        if token.any Char.isDigit then some (ofToken token, rest.dropWhile isNumberChar) else none

/-- The items of a list, up to its bracket. -/
def readItems : (fuel : Nat) → List Char → Option (List Datum × List Char)
  | 0, _ => none
  | fuel + 1, source => do
    let (item, left) ← readValue fuel source
    match skipBlanks left with
    | ',' :: rest =>
      let (items, left) ← readItems fuel rest
      return (item :: items, left)
    | ']' :: rest => return ([item], rest)
    | _ => none

/-- The fields of a record, up to its brace, behind those that were read. -/
def readFields : (fuel : Nat) → (front : List (String × Datum)) → List Char →
    Option (List (String × Datum) × List Char)
  | 0, _, _ => none
  | fuel + 1, front, source =>
    match skipBlanks source with
    | '"' :: afterQuote => do
      let (name, afterName) ← readQuoted [] afterQuote
      match skipBlanks afterName with
      | ':' :: afterColon =>
        let (value, left) ← readValue fuel afterColon
        let fields := insertField name value front
        match skipBlanks left with
        | ',' :: rest => readFields fuel fields rest
        | '\x7d' :: rest => return (fields, rest)
        | _ => none
      | _ => none
    | _ => none

end

/-- The value that a text stands for. -/
def read? (source : String) : Option Datum := do
  let (value, left) ← readValue (source.length + 1) source.toList
  if skipBlanks left = [] then some value else none

end Bindery.Datum
