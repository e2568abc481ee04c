/-
This file works out expressions on whole numbers of 64 bits. An expression is worked out while
it is read: of a condition only one side takes effect, but both must be well formed.
-/

import Bindery.Shell.Syntax

namespace Bindery.Shell

/-- Why an expression has no value. -/
inductive SumFault where
  /-- The expression as a whole, with the reason. -/
  | expression (reason : String)
  /-- A text that is no number. -/
  | number (text : List Char)
deriving DecidableEq, Repr

/-- Operators with two sides. -/
inductive Operator where
  | multiply | divide | remainder
  | add | subtract
  | shiftLeft | shiftRight
  | less | atMost | greater | atLeast
  | equal | different
  | and | exclusiveOr | or
deriving DecidableEq, Repr

/-- How loosely an operator binds. -/
def Operator.rank : Operator → Nat
  | .multiply | .divide | .remainder => 0
  | .add | .subtract => 1
  | .shiftLeft | .shiftRight => 2
  | .less | .atMost | .greater | .atLeast => 3
  | .equal | .different => 4
  | .and => 5
  | .exclusiveOr => 6
  | .or => 7

/-- A rank that every operator stays below. -/
def Operator.rankLimit : Nat := 8

/-- A token of an expression. -/
inductive Term where
  | ending
  | number (value : Int)
  | named (name : List Char)
  | operator (operator : Operator)
  | assign
  | assignWith (operator : Operator)
  | bothHold
  | oneHolds
  | not
  | complement
  | question
  | colon
  | open
  | close
  | unknown
deriving DecidableEq, Repr

/-- A number brought into the range of 64 bits. -/
def wrap64 (value : Int) : Int := Int.bmod value 0x10000000000000000

/-- The bits of a number. -/
def bits64 (value : Int) : Nat := (value % 0x10000000000000000).toNat

/-- A truth value as a number. -/
def truth (holds : Bool) : Int := if holds then 1 else 0

/-- The greatest number. -/
def greatest64 : Int := 0x7FFFFFFFFFFFFFFF

/-- The value of an operator; `none` for a division by zero. -/
def Operator.apply (operator : Operator) (left right : Int) : Option Int :=
  match operator with
  | .multiply => some (wrap64 (left * right))
  | .divide => if right = 0 then none else some (wrap64 (left.tdiv right))
  | .remainder => if right = 0 then none else some (left.tmod right)
  | .add => some (wrap64 (left + right))
  | .subtract => some (wrap64 (left - right))
  | .shiftLeft => some (wrap64 ((bits64 left <<< (bits64 right % 64) : Nat) : Int))
  | .shiftRight => some (left >>> (bits64 right % 64))
  | .less => some (truth (left < right))
  | .atMost => some (truth (left ≤ right))
  | .greater => some (truth (right < left))
  | .atLeast => some (truth (right ≤ left))
  | .equal => some (truth (left = right))
  | .different => some (truth (left ≠ right))
  | .and => some (wrap64 ((bits64 left &&& bits64 right : Nat) : Int))
  | .exclusiveOr => some (wrap64 ((bits64 left ^^^ bits64 right : Nat) : Int))
  | .or => some (wrap64 ((bits64 left ||| bits64 right : Nat) : Int))

/-! ### Numbers -/

/-- The value of a sign as a digit. -/
def digitValue? (c : Char) : Option Nat :=
  if c.isDigit then some (c.toNat - 0x30)
  else if 'a' ≤ c ∧ c ≤ 'z' then some (c.toNat - 0x61 + 10)
  else if 'A' ≤ c ∧ c ≤ 'Z' then some (c.toNat - 0x41 + 10)
  else none

/-- The digits of a base at the front of a text as a number after a number so far, with what
follows them. -/
def readDigits (base : Nat) : (value : Nat) → List Char → Nat × List Char
  | value, [] => (value, [])
  | value, c :: rest =>
    match digitValue? c with
    | some digit =>
      if digit < base then readDigits base (value * base + digit) rest else (value, c :: rest)
    | none => (value, c :: rest)

/-- Whether a text begins with a digit of a base. -/
def beginsWithDigit (base : Nat) (text : List Char) : Bool :=
  match text with
  | [] => false
  | c :: _ => ((digitValue? c).map fun digit => decide (digit < base)).getD false

/-- The number at the front of a text, written in base ten, eight (after a zero) or sixteen
(after a zero and an `x`), with what follows it; `none` if there is no digit. -/
def readMagnitude? (anyBase : Bool) (text : List Char) : Option (Nat × List Char) :=
  let inTen := if beginsWithDigit 10 text then some (readDigits 10 0 text) else none
  if !anyBase then inTen
  else
    match text with
    | '0' :: x :: rest =>
      if (x = 'x' || x = 'X') && beginsWithDigit 16 rest then some (readDigits 16 0 rest)
      else some (readDigits 8 0 text)
    | _ => inTen

/-- Whether a character is a blank or begins a new line or page. -/
def isSpace (c : Char) : Bool := c = ' ' || ('\t' ≤ c && c ≤ '\r')

/-- A text that is read as a number: its value, whether the value is beyond 64 bits, and what
follows the number. Without a number the value is zero and nothing is taken. -/
structure Numeral where
  value : Int
  isBeyond : Bool
  isNumber : Bool
  rest : List Char

/-- Reads the number at the front of a text, with blanks and a sign before it. -/
def readNumeral (anyBase : Bool) (text : List Char) : Numeral :=
  let (isNegative, digits) :=
    match text.dropWhile isSpace with
    | '-' :: rest => (true, rest)
    | '+' :: rest => (false, rest)
    | rest => (false, rest)
  match readMagnitude? anyBase digits with
  | none => ⟨0, false, false, text⟩
  | some (magnitude, rest) =>
    let value : Int := if isNegative then -(magnitude : Int) else magnitude
    if greatest64 < value then ⟨greatest64, true, true, rest⟩
    else if value < -greatest64 - 1 then ⟨-greatest64 - 1, true, true, rest⟩
    else ⟨value, false, true, rest⟩

/-- The number that a whole text stands for; blanks may follow it. An empty text stands for zero
in an expression, where numbers may be written in other bases. -/
def wholeNumber? (inExpression : Bool) (text : List Char) : Option Int :=
  let numeral := readNumeral inExpression text
  if numeral.isBeyond then none
  else if !numeral.isNumber && !inExpression then none
  else if numeral.rest.all isSpace then some numeral.value
  else none

/-! ### Terms -/

/-- What an operator of two sides or its assignment reads as. -/
def orAssign (operator : Operator) (text : List Char) : Term × List Char :=
  match text with
  | '=' :: rest => (.assignWith operator, rest)
  | _ => (.operator operator, text)

/-- The term at the front of a text, with what follows it. -/
def readTerm (text : List Char) : Term × List Char :=
  match text.dropWhile fun c => c = ' ' || c = '\t' || c = '\n' with
  | [] => (.ending, [])
  | '=' :: '=' :: rest => (.operator .equal, rest)
  | '=' :: rest => (.assign, rest)
  | '>' :: '=' :: rest => (.operator .atLeast, rest)
  | '>' :: '>' :: rest => orAssign .shiftRight rest
  | '>' :: rest => (.operator .greater, rest)
  | '<' :: '=' :: rest => (.operator .atMost, rest)
  | '<' :: '<' :: rest => orAssign .shiftLeft rest
  | '<' :: rest => (.operator .less, rest)
  | '|' :: '|' :: rest => (.oneHolds, rest)
  | '|' :: rest => orAssign .or rest
  | '&' :: '&' :: rest => (.bothHold, rest)
  | '&' :: rest => orAssign .and rest
  | '!' :: '=' :: rest => (.operator .different, rest)
  | '!' :: rest => (.not, rest)
  | '(' :: rest => (.open, rest)
  | ')' :: rest => (.close, rest)
  | '*' :: rest => orAssign .multiply rest
  | '/' :: rest => orAssign .divide rest
  | '%' :: rest => orAssign .remainder rest
  | '+' :: rest => orAssign .add rest
  | '-' :: rest => orAssign .subtract rest
  | '^' :: rest => orAssign .exclusiveOr rest
  | '~' :: rest => (.complement, rest)
  | '?' :: rest => (.question, rest)
  | ':' :: rest => (.colon, rest)
  | c :: rest =>
    if c.isDigit then
      let numeral := readNumeral true (c :: rest)
      (.number numeral.value, numeral.rest)
    else if beginsName c then
      (.named (c :: rest.takeWhile inName), rest.dropWhile inName)
    else (.unknown, c :: rest)

/-- The state of working out an expression: what is left of it, the term read ahead, and the
values that variables were given, latest first. -/
structure Sum where
  text : List Char
  ahead : Term := .ending
  assigned : List (List Char × Int) := []

/-- Working out an expression. -/
abbrev Summing := StateT Sum (Except SumFault)

/-- Reads a term. -/
def readNext : Summing Term := do
  let sum ← get
  let (term, rest) := readTerm sum.text
  set { sum with text := rest }
  return term

/-- Keeps a term that was read ahead. -/
def look (term : Term) : Summing Unit := modify fun sum => { sum with ahead := term }

/-- The value of a variable, whose text is given by `lookUp`. -/
def valueOf (lookUp : List Char → Option (List Char)) (name : List Char) : Summing Int := do
  match (← get).assigned.lookup name with
  | some value => return value
  | none =>
    let text := (lookUp name).getD []
    match wholeNumber? true text with
    | some value => return value
    | none => throw (.number text)

/-- The value of an operator. -/
def operate (operator : Operator) (left right : Int) : Summing Int :=
  match operator.apply left right with
  | some value => pure value
  | none => throw (.expression "division by zero")

mutual

/-- Works out an operand from its first term and the one behind it on. Nothing takes effect
if `idle` says so. -/
def primary (lookUp : List Char → Option (List Char)) (idle : Bool) :
    (fuel : Nat) → (term behind : Term) → Summing Int
  | 0, _, _ => throw (.expression "expecting primary")
  | fuel + 1, term, behind => do
    match term with
    | .open =>
      let value ← assignment lookUp idle fuel behind
      if (← get).ahead ≠ .close then throw (.expression "expecting ')'")
      look (← readNext)
      return value
    | .number value =>
      look behind
      return value
    | .named name =>
      look behind
      if idle then return 0 else valueOf lookUp name
    | .operator .add => primary lookUp idle fuel behind (← readNext)
    | .operator .subtract =>
      let value ← primary lookUp idle fuel behind (← readNext)
      return wrap64 (-value)
    | .not =>
      let value ← primary lookUp idle fuel behind (← readNext)
      return truth (value = 0)
    | .complement =>
      let value ← primary lookUp idle fuel behind (← readNext)
      return -value - 1
    | _ => throw (.expression "expecting primary")

/-- Goes on after a left side with operators that bind closer than a rank. -/
def rightSides (lookUp : List Char → Option (List Char)) (idle : Bool) :
    (fuel : Nat) → (left : Int) → Operator → (rank : Nat) → Summing Int
  | 0, _, _, _ => throw (.expression "expecting primary")
  | fuel + 1, left, operator, rank => do
    let term ← readNext
    let first ← primary lookUp idle fuel term (← readNext)
    let right ←
      match (← get).ahead with
      | .operator closer =>
        if closer.rank < operator.rank then rightSides lookUp idle fuel first closer operator.rank
        else pure first
      | _ => pure first
    let value ← if idle then pure right else operate operator left right
    match (← get).ahead with
    | .operator following =>
      if rank ≤ following.rank then return value
      else rightSides lookUp idle fuel value following rank
    | _ => return value

/-- Works out operands joined by operators. -/
def operation (lookUp : List Char → Option (List Char)) (idle : Bool) :
    (fuel : Nat) → (term behind : Term) → Summing Int
  | 0, _, _ => throw (.expression "expecting primary")
  | fuel + 1, term, behind => do
    let value ← primary lookUp idle fuel term behind
    match (← get).ahead with
    | .operator operator => rightSides lookUp idle fuel value operator Operator.rankLimit
    | _ => return value

/-- Works out what must hold together; from the first that fails on nothing takes effect. -/
def conjunction (lookUp : List Char → Option (List Char)) (idle : Bool) :
    (fuel : Nat) → (term behind : Term) → Summing Int
  | 0, _, _ => throw (.expression "expecting primary")
  | fuel + 1, term, behind => do
    let left ← operation lookUp idle fuel term behind
    if (← get).ahead = .bothHold then
      let term ← readNext
      let right ← conjunction lookUp (idle || left = 0) fuel term (← readNext)
      return truth (left ≠ 0 && right ≠ 0)
    else return left

/-- Works out what must not fail together; from the first that holds on nothing takes
effect. -/
def disjunction (lookUp : List Char → Option (List Char)) (idle : Bool) :
    (fuel : Nat) → (term behind : Term) → Summing Int
  | 0, _, _ => throw (.expression "expecting primary")
  | fuel + 1, term, behind => do
    let left ← conjunction lookUp idle fuel term behind
    if (← get).ahead = .oneHolds then
      let term ← readNext
      let right ← disjunction lookUp (idle || left ≠ 0) fuel term (← readNext)
      return truth (left ≠ 0 || right ≠ 0)
    else return left

/-- Works out a condition with its two sides, or what is none. -/
def condition (lookUp : List Char → Option (List Char)) (idle : Bool) :
    (fuel : Nat) → (term behind : Term) → Summing Int
  | 0, _, _ => throw (.expression "expecting primary")
  | fuel + 1, term, behind => do
    let chosen ← disjunction lookUp idle fuel term behind
    if (← get).ahead = .question then
      let yes ← assignment lookUp (idle || chosen = 0) fuel (← readNext)
      if (← get).ahead ≠ .colon then throw (.expression "expecting ':'")
      let term ← readNext
      let no ← condition lookUp (idle || chosen ≠ 0) fuel term (← readNext)
      return if chosen ≠ 0 then yes else no
    else return chosen

/-- Works out an assignment, or what is none. -/
def assignment (lookUp : List Char → Option (List Char)) (idle : Bool) :
    (fuel : Nat) → (term : Term) → Summing Int
  | 0, _ => throw (.expression "expecting primary")
  | fuel + 1, term => do
    let behind ← readNext
    match term, behind with
    | .named name, .assign =>
      let value ← assignment lookUp idle fuel (← readNext)
      if !idle then modify fun sum => { sum with assigned := (name, value) :: sum.assigned }
      return value
    | .named name, .assignWith operator =>
      let right ← assignment lookUp idle fuel (← readNext)
      if idle then return right
      else
        let left ← valueOf lookUp name
        let value ← operate operator left right
        modify fun sum => { sum with assigned := (name, value) :: sum.assigned }
        return value
    | _, _ => condition lookUp idle fuel term behind

end

/-- Works out a whole expression: its value, and the values that variables were given in
turn. -/
def sumOf (lookUp : List Char → Option (List Char)) (text : List Char) :
    Except SumFault (Int × List (List Char × Int)) := do
  let work : Summing Int := do
    let value ← assignment lookUp false (10 * text.length + 20) (← readNext)
    if (← get).ahead ≠ .ending then throw (.expression "expecting EOF")
    return value
  let (value, sum) ← work.run { text := text }
  return (value, sum.assigned.reverse)

end Bindery.Shell
