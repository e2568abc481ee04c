/-
This file carries out the escapes in texts that a script writes: a backslash with a letter or
with digits in base eight stands for one byte.
-/

import Bindery.Shell.Syntax

namespace Bindery.Shell

/-- The value of a digit in base eight. -/
def octal? (c : Char) : Option Nat :=
  if '0' ≤ c ∧ c ≤ '7' then some (c.toNat - 0x30) else none

/-- The byte that up to `count` digits in base eight stand for, with what follows them. -/
def readOctal : (count value : Nat) → List Char → Char × List Char
  | 0, value, rest => (Char.ofNat (value % 0x100), rest)
  | _ + 1, value, [] => (Char.ofNat (value % 0x100), [])
  | count + 1, value, c :: rest =>
    match octal? c with
    | some digit => readOctal count (value * 8 + digit) rest
    | none => (Char.ofNat (value % 0x100), c :: rest)

theorem length_readOctal_le (count value : Nat) (text : List Char) :
    (readOctal count value text).2.length ≤ text.length := by
  induction count generalizing value text with
  | zero => simp [readOctal]
  | succ count inductionHypothesis =>
    cases text with
    | nil => simp [readOctal]
    | cons c rest =>
      cases digit : octal? c with
      | none => simp [readOctal, digit]
      | some next =>
        have bound := inductionHypothesis (value * 8 + next) rest
        simp only [readOctal, digit, List.length_cons]
        omega

/-- The characters that a letter after a backslash stands for. -/
def escapeLetter? (c : Char) : Option Char :=
  [('a', '\x07'), ('b', '\x08'), ('e', '\x1b'), ('f', '\x0c'), ('n', '\n'), ('r', '\r'),
    ('t', '\t'), ('v', '\x0b'), ('\\', '\\')].lookup c

/-- The byte that the text after a backslash stands for, with what follows. A backslash that
escapes nothing stands for itself. -/
def readEscaped (text : List Char) : Char × List Char :=
  match text with
  | [] => ('\\', [])
  | c :: rest =>
    match escapeLetter? c with
    | some letter => (letter, rest)
    | none => if (octal? c).isSome then readOctal 3 0 text else ('\\', text)

theorem length_readEscaped_le (text : List Char) :
    (readEscaped text).2.length ≤ text.length := by
  unfold readEscaped
  split
  · simp
  next c rest =>
    split
    · simp
    · split
      · exact length_readOctal_le 3 0 (c :: rest)
      · exact Nat.le_refl _

/-- The text after a backslash without a zero that stands in front of digits in base eight. -/
def dropZero (text : List Char) : List Char :=
  match text with
  | '0' :: d :: rest => if (octal? d).isSome then d :: rest else text
  | _ => text

theorem length_dropZero_le (text : List Char) : (dropZero text).length ≤ text.length := by
  unfold dropZero
  split
  · split <;> simp
  · exact Nat.le_refl _

/-- A text with its escapes carried out, and whether it asks for nothing to follow. -/
def unescape : List Char → List Char × Bool
  | [] => ([], false)
  | '\\' :: 'c' :: _ => ([], true)
  | '\\' :: rest =>
    let (text, stops) := unescape (readEscaped (dropZero rest)).2
    ((readEscaped (dropZero rest)).1 :: text, stops)
  | c :: rest =>
    let (text, stops) := unescape rest
    (c :: text, stops)
termination_by text => text.length
decreasing_by
  · have bound := length_readEscaped_le (dropZero rest)
    have shorter := length_dropZero_le rest
    simp only [List.length_cons]
    omega
  · simp

/-- Texts with their escapes carried out and blanks between them, and whether one of them asks
for nothing to follow. -/
def unescapeAll : List (List Char) → List Char × Bool
  | [] => ([], false)
  | [text] => unescape text
  | text :: next :: rest =>
    let (first, stops) := unescape text
    if stops then (first, true)
    else
      let (others, stops) := unescapeAll (next :: rest)
      (first ++ ' ' :: others, stops)

/-- The text of arguments with blanks between them and a line end after them, unless the first
argument or an escape takes it away. -/
def echoText (arguments : List (List Char)) : List Char :=
  let isQuiet := arguments.head? = some ['-', 'n']
  let (text, stops) := unescapeAll (if isQuiet then arguments.drop 1 else arguments)
  text ++ (if isQuiet || stops then [] else ['\n'])

end Bindery.Shell
