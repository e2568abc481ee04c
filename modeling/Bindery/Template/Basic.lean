/-
This file reads message templates. A directive begins with a percent sign and ends with a letter
that says how its value is written; between them stand the name of the value, flags, a least
width and a precision. A percent sign right behind the first one stands for itself.
-/

import Bindery.Text.Quoted

namespace Bindery.Template

/-- A width or a precision: none, a number, the next argument, or a number beyond what can be
counted. -/
inductive Measure where
  | absent
  | exactly (count : Nat)
  | argument
  | excessive
deriving DecidableEq, Repr

/-- The name in front of a directive. The parenthesis may never be closed. -/
inductive Key where
  | absent
  | named (name : String)
  | unclosed
deriving DecidableEq, Repr

/-- How one value is to be written. The letter is missing if the template ends before it;
`position` counts the characters in front of it. -/
structure Directive where
  key : Key
  flags : List Char
  width : Measure
  precision : Measure
  letter : Option Char
  position : Nat
deriving DecidableEq, Repr

/-- A piece of a template. -/
inductive Piece where
  | char (c : Char)
  | directive (directive : Directive)
deriving DecidableEq, Repr

/-- What is wrong with a template or its arguments. -/
inductive Fault where
  | needsMapping
  | unclosedKey
  | unknownKey (name : String)
  | measureNotWhole
  | widthUncountable
  | precisionUncountable
  | widthTooBig
  | precisionTooBig
  | precisionTooLarge
  | incomplete
  | unsupported (letter : Char) (position : Nat)
  | notEnough
  | notAll
  | notNumber (letter : Char) (kind : String)
  | notWhole (letter : Char) (kind : String)
  | notReal (kind : String)
  | notChar
  | noSuchChar
  | infiniteWhole
  | undefinedWhole
  | beyondFloats
  | outOfMemory
deriving DecidableEq, Repr

/-- The words for a fault. -/
def Fault.message : Fault → String
  | .needsMapping => "format requires a mapping"
  | .unclosedKey => "incomplete format key"
  | .unknownKey name => Text.quoted name
  | .measureNotWhole => "* wants int"
  | .widthUncountable => "Python int too large to convert to C ssize_t"
  | .precisionUncountable => "Python int too large to convert to C int"
  | .widthTooBig => "width too big"
  | .precisionTooBig => "precision too big"
  | .precisionTooLarge => "precision too large"
  | .incomplete => "incomplete format"
  | .unsupported letter position =>
    let shown := if 31 ≤ letter.toNat ∧ letter.toNat ≤ 126 then letter else '?'
    "unsupported format character '" ++ String.singleton shown ++ "' (0x" ++
      String.ofList (Nat.toDigits 16 letter.toNat) ++ ") at index " ++ toString position
  | .notEnough => "not enough arguments for format string"
  | .notAll => "not all arguments converted during string formatting"
  | .notNumber letter kind =>
    "%" ++ String.singleton letter ++ " format: a real number is required, not " ++ kind
  | .notWhole letter kind =>
    "%" ++ String.singleton letter ++ " format: an integer is required, not " ++ kind
  | .notReal kind => "must be real number, not " ++ kind
  | .notChar => "%c requires int or char"
  | .noSuchChar => "%c arg not in range(0x110000)"
  | .infiniteWhole => "cannot convert float infinity to integer"
  | .undefinedWhole => "cannot convert float NaN to integer"
  | .beyondFloats => "int too large to convert to float"
  | .outOfMemory => ""

/-! ### Reading a directive -/

/-- The name up to the parenthesis that closes it, with the text after that. Parentheses inside
a name come in pairs; `depth` of them are open. -/
def readKey (depth : Nat) (name : List Char) : List Char → Key × List Char
  | [] => (.unclosed, [])
  | ')' :: rest =>
    match depth with
    | 0 => (.named (String.ofList name.reverse), rest)
    | depth + 1 => readKey depth (')' :: name) rest
  | '(' :: rest => readKey (depth + 1) ('(' :: name) rest
  | c :: rest => readKey depth (c :: name) rest

/-- The name at the front of a directive, with the text after it. -/
def readName : List Char → Key × List Char
  | '(' :: rest => readKey 0 [] rest
  | rest => (.absent, rest)

/-- Whether a character is a flag of a directive. -/
def isFlag (c : Char) : Bool := ['-', '+', ' ', '#', '0'].contains c

/-- The number that digits at the front of a text stand for, with the text after them. -/
def leadingNumber (text : List Char) : Nat × List Char :=
  let digits := text.takeWhile Char.isDigit
  (digits.foldl (fun value c => value * 10 + (c.toNat - 0x30)) 0, text.dropWhile Char.isDigit)

/-- A star or a number up to `most` at the front of a text, with the text after it. -/
def readMeasure (most : Nat) (text : List Char) : Measure × List Char :=
  match text with
  | [] => (.absent, [])
  | c :: rest =>
    if c = '*' then (.argument, rest)
    else if c.isDigit then
      let (count, left) := leadingNumber (c :: rest)
      (if count ≤ most then .exactly count else .excessive, left)
    else (.absent, c :: rest)

/-- The precision behind a point, with the text after it. A point alone means none at all. -/
def readPrecision (most : Nat) : List Char → Measure × List Char
  | '.' :: rest =>
    match readMeasure most rest with
    | (.absent, left) => (.exactly 0, left)
    | found => found
  | rest => (.absent, rest)

/-- The text behind a letter for the size of a number, which has no meaning of its own. -/
def dropSize : List Char → List Char
  | c :: rest => if ['h', 'l', 'L'].contains c then rest else c :: rest
  | [] => []

/-- The greatest width and precision that can be counted. -/
def mostWidth : Nat := 0x7fffffffffffffff
def mostPrecision : Nat := 0x7fffffff

/-- The directive after a percent sign, with what is left of the template. Positions are
counted in a template of `total` characters. -/
def readDirective (total : Nat) (text : List Char) : Directive × List Char :=
  let (key, afterKey) := readName text
  let flags := afterKey.takeWhile isFlag
  let (width, afterWidth) := readMeasure mostWidth (afterKey.dropWhile isFlag)
  let (precision, afterPrecision) := readPrecision mostPrecision afterWidth
  match dropSize afterPrecision with
  | [] => (⟨key, flags, width, precision, none, total⟩, [])
  | letter :: rest =>
    (⟨key, flags, width, precision, some letter, total - rest.length - 1⟩, rest)

/-! ### No reader lengthens the text -/

theorem length_readKey_le (text : List Char) (depth : Nat) (name : List Char) :
    (readKey depth name text).2.length ≤ text.length := by
  induction text generalizing depth name with
  | nil => simp [readKey]
  | cons c rest inductionHypothesis =>
    unfold readKey
    split
    next => simp
    next same =>
      obtain ⟨_, rfl⟩ := List.cons.inj same
      split
      next => simp
      next depth =>
        exact Nat.le_succ_of_le (inductionHypothesis depth (')' :: name))
    next same =>
      obtain ⟨_, rfl⟩ := List.cons.inj same
      exact Nat.le_succ_of_le (inductionHypothesis (depth + 1) ('(' :: name))
    next same =>
      obtain ⟨rfl, rfl⟩ := List.cons.inj same
      exact Nat.le_succ_of_le (inductionHypothesis depth (c :: name))

theorem length_readName_le (text : List Char) : (readName text).2.length ≤ text.length := by
  unfold readName
  split
  next rest => exact Nat.le_succ_of_le (length_readKey_le rest 0 [])
  next => exact Nat.le_refl _

theorem length_dropWhile_le (p : Char → Bool) (text : List Char) :
    (text.dropWhile p).length ≤ text.length :=
  (List.dropWhile_sublist (l := text) p).length_le

theorem length_readMeasure_le (most : Nat) (text : List Char) :
    (readMeasure most text).2.length ≤ text.length := by
  unfold readMeasure
  split
  next => exact Nat.le_refl _
  next c rest =>
    split
    next => simp
    next =>
      split
      next => exact length_dropWhile_le Char.isDigit (c :: rest)
      next => exact Nat.le_refl _

theorem length_readPrecision_le (most : Nat) (text : List Char) :
    (readPrecision most text).2.length ≤ text.length := by
  unfold readPrecision
  split
  next rest =>
    have shorter := length_readMeasure_le most rest
    split
    next left same => rw [same] at shorter; exact Nat.le_succ_of_le shorter
    next => exact Nat.le_succ_of_le shorter
  next => exact Nat.le_refl _

theorem length_dropSize_le (text : List Char) : (dropSize text).length ≤ text.length := by
  unfold dropSize
  split
  next =>
    split
    next => simp
    next => exact Nat.le_refl _
  next => exact Nat.le_refl _

/-- A directive leaves no more than it was given. -/
theorem length_readDirective_le (total : Nat) (text : List Char) :
    (readDirective total text).2.length ≤ text.length := by
  have key := length_readName_le text
  have flags := length_dropWhile_le isFlag (readName text).2
  have width := length_readMeasure_le mostWidth ((readName text).2.dropWhile isFlag)
  have precision := length_readPrecision_le mostPrecision
    (readMeasure mostWidth ((readName text).2.dropWhile isFlag)).2
  have size := length_dropSize_le (readPrecision mostPrecision
    (readMeasure mostWidth ((readName text).2.dropWhile isFlag)).2).2
  simp only [readDirective]
  split
  next => simp
  next letter rest shape =>
    rw [shape, List.length_cons] at size
    dsimp only
    omega

/-- The pieces of a template. -/
def pieces (total : Nat) : List Char → List Piece
  | [] => []
  | '%' :: '%' :: rest => .char '%' :: pieces total rest
  | '%' :: rest =>
    .directive (readDirective total rest).1 :: pieces total (readDirective total rest).2
  | c :: rest => .char c :: pieces total rest
termination_by text => text.length
decreasing_by
  · simp only [List.length_cons]; omega
  · have bound := length_readDirective_le total rest
    simp only [List.length_cons]
    omega
  · simp

end Bindery.Template
