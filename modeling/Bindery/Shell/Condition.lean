/-
This file tells whether a condition holds that a script asks about: conditions on texts, numbers
and files, joined by signs. Files are looked at through functions that the caller supplies.
-/

import Bindery.Shell.Arithmetic

namespace Bindery.Shell

/-- What the signs of conditions stand for. -/
inductive Sign where
  /-- A condition on one operand, by its letter. -/
  | unary (letter : Char)
  /-- A condition on two operands, by its spelling. -/
  | binary (spelling : String)
  | not
  | and
  | or
  | open
  | close
deriving DecidableEq, Repr

/-- The letters of conditions on one operand. -/
def unaryLetters : List Char := "rwxefdcbpugkstznhOGLS".toList

/-- The spellings of conditions on two operands. -/
def binarySpellings : List String :=
  ["=", "!=", "<", ">", "-eq", "-ne", "-ge", "-gt", "-le", "-lt", "-nt", "-ot", "-ef"]

/-- The sign that a text spells. -/
def Sign.ofText? (text : List Char) : Option Sign :=
  match text with
  | ['!'] => some .not
  | ['('] => some .open
  | [')'] => some .close
  | ['-', 'a'] => some .and
  | ['-', 'o'] => some .or
  | ['-', letter] => if unaryLetters.contains letter then some (.unary letter) else none
  | _ =>
    let spelling := String.ofList text
    if binarySpellings.contains spelling then some (.binary spelling) else none

/-- Whether a text spells a condition on two operands. -/
def isBinary (text : List Char) : Bool :=
  match Sign.ofText? text with
  | some (.binary _) => true
  | _ => false

/-- The sign at the front of operands. A sign for one operand is an operand itself at the end,
and so it is before a sign for two operands; an opening parenthesis is one at the end. -/
def signAt? (operands : List (List Char)) : Option Sign :=
  match operands with
  | [] => none
  | text :: rest =>
    match Sign.ofText? text with
    | some (.unary letter) =>
      match rest with
      | [] => none
      | [_] => some (.unary letter)
      | next :: _ => if isBinary next then none else some (.unary letter)
    | some .open => if rest = [] then none else some .open
    | sign => sign

/-- How files are looked at. -/
structure Scene where
  /-- Whether a condition holds of the file at a path, by its letter. -/
  holdsOf : Char → List Char → Bool
  /-- Whether two paths lead to the same file. -/
  isSame : List Char → List Char → Bool

/-- Working out a condition on the operands that are left; it can end with a complaint. -/
abbrev Asking := StateT (List (List Char)) (Except (List Char))

/-- The number that an operand stands for. -/
def operandNumber (text : List Char) : Asking Int :=
  match wholeNumber? false text with
  | some value => pure value
  | none => throw ("Illegal number: ".toList ++ text)

/-- Whether a text comes before another one. -/
def textBefore (first second : List Char) : Bool := decide (first < second)

/-- Whether a condition on two operands holds. -/
def holdsOfTwo (scene : Scene) (spelling : String) (first second : List Char) :
    Asking Bool := do
  match spelling with
  | "=" => return first = second
  | "!=" => return first ≠ second
  | "<" => return textBefore first second
  | ">" => return textBefore second first
  | "-nt" | "-ot" => return false
  | "-ef" => return scene.isSame first second
  | _ =>
    let left ← operandNumber first
    let right ← operandNumber second
    match spelling with
    | "-eq" => return left = right
    | "-ne" => return left ≠ right
    | "-ge" => return right ≤ left
    | "-gt" => return right < left
    | "-le" => return left ≤ right
    | _ => return left < right

/-- Whether a condition on one operand holds. -/
def holdsOfOne (scene : Scene) (letter : Char) (operand : List Char) : Asking Bool := do
  if letter = 'z' then return operand = []
  else if letter = 'n' then return operand ≠ []
  else if letter = 't' then
    let _ ← operandNumber operand
    return false
  else return scene.holdsOf letter operand

/-- Moves on by some operands, but not beyond the end. -/
def skip (count : Nat) : Asking Unit := modify (·.drop count)

mutual

/-- Conditions of which one must hold. `asOperand` says that the first text is an operand
whatever it spells. The last operand that counts is left. -/
def anyHolds (scene : Scene) : (fuel : Nat) → (asOperand : Bool) → Asking Bool
  | 0, _ => pure false
  | fuel + 1, asOperand => do
    let first ← allHold scene fuel asOperand
    if signAt? ((← get).drop 1) = some .or then
      skip 2
      let rest ← anyHolds scene fuel false
      return first || rest
    else return first

/-- Conditions that must hold together. -/
def allHold (scene : Scene) : (fuel : Nat) → (asOperand : Bool) → Asking Bool
  | 0, _ => pure false
  | fuel + 1, asOperand => do
    let first ← oneHolds scene fuel asOperand
    if signAt? ((← get).drop 1) = some .and then
      skip 2
      let rest ← allHold scene fuel false
      return first && rest
    else return first

/-- A condition, perhaps turned around. -/
def oneHolds (scene : Scene) : (fuel : Nat) → (asOperand : Bool) → Asking Bool
  | 0, _ => pure false
  | fuel + 1, asOperand => do
    if !asOperand && signAt? (← get) = some .not then
      if 1 < (← get).length then skip 1
      else return true
      let inner ← oneHolds scene fuel false
      return !inner
    else basicHolds scene fuel asOperand

/-- A condition on operands or in parentheses. -/
def basicHolds (scene : Scene) : (fuel : Nat) → (asOperand : Bool) → Asking Bool
  | 0, _ => pure false
  | fuel + 1, asOperand => do
    let operands ← get
    match operands with
    | [] => return false
    | text :: rest =>
      let sign? := if asOperand then none else signAt? operands
      match sign?, rest with
      | some .open, _ =>
        skip 1
        if signAt? (← get) = some .close then return false
        else
          let inner ← anyHolds scene fuel false
          skip 1
          if signAt? (← get) ≠ some .close then throw "closing paren expected".toList
          return inner
      | some (.unary letter), operand :: _ =>
        skip 1
        holdsOfOne scene letter operand
      | _, spelling :: second? =>
        match signAt? rest with
        | some (.binary name) =>
          match second? with
          | [] => throw (spelling ++ ": argument expected".toList)
          | second :: _ =>
            skip 2
            holdsOfTwo scene name text second
        | _ => return text ≠ []
      | _, [] => return text ≠ []

end

/-- A condition as it is read: whether it is turned around, whether its first operand is one
whatever it spells, and its operands. -/
structure Asked where
  isTurned : Bool := false
  asOperand : Bool := false
  operands : List (List Char)

/-- Whether operands stand in parentheses. -/
def isEnclosed (operands : List (List Char)) : Bool :=
  operands.head? = some ['('] && operands.getLast? = some [')']

/-- How three operands are read: with a sign in the middle they are a comparison. -/
def readThree (operands : List (List Char)) : Asked :=
  if (operands[1]?).any isBinary then { asOperand := true, operands := operands }
  else if isEnclosed operands then { operands := (operands.drop 1).dropLast }
  else if operands.head? = some ['!'] then { isTurned := true, operands := operands.drop 1 }
  else { operands := operands }

/-- How operands are read. A sign that turns four operands around counts for a second one that
follows it, too. -/
def readOperands (operands : List (List Char)) : Asked :=
  if operands.length = 3 then readThree operands
  else if operands.length = 4 then
    if isEnclosed operands then { operands := (operands.drop 1).dropLast }
    else if operands.head? = some ['!'] then
      { readThree (operands.drop 1) with isTurned := true }
    else { operands := operands }
  else { operands := operands }

/-- Whether the operands of a condition make it hold, or what is wrong with them. -/
def conditionHolds (scene : Scene) (operands : List (List Char)) : Except (List Char) Bool := do
  if operands.isEmpty then return false
  let asked := readOperands operands
  let (holds, left) ←
    (anyHolds scene (4 * operands.length + 8) asked.asOperand).run asked.operands
  match left with
  | first :: _ :: _ =>
    throw ((if first = [] then [] else first ++ ": ".toList) ++ "unexpected operator".toList)
  | _ => return holds != asked.isTurned

end Bindery.Shell
