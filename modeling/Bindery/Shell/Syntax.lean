/-
This file holds the shape of shell scripts: words made of characters, quotation marks and parts
that stand for something else, and commands made of words. A character stands for one byte
throughout.
-/

namespace Bindery.Shell

/-- Bytes as characters. -/
def ofBytes (bytes : List UInt8) : List Char := bytes.map fun byte => Char.ofNat byte.toNat

/-- Characters as bytes. -/
def toBytes (text : List Char) : List UInt8 := text.map fun c => UInt8.ofNat c.toNat

/-- A number in decimal digits. -/
def numberText (value : Int) : List Char := (toString value).toList

/-- Whether a character may begin a name. -/
def beginsName (c : Char) : Bool := c.isAlpha || c = '_'

/-- Whether a character may stand in a name. -/
def inName (c : Char) : Bool := c.isAlphanum || c = '_'

/-- Whether a text is a name. -/
def isName (text : List Char) : Bool :=
  match text with
  | [] => false
  | c :: rest => beginsName c && rest.all inName

/-- Which end of a value a pattern is cut from, and whether as much as possible. -/
structure Cut where
  front : Bool
  greedy : Bool
deriving DecidableEq, Repr

/-- What becomes of the value of a parameter. -/
inductive Use where
  /-- It is taken as it is. -/
  | plain
  /-- It is taken as it is, then the word; what follows in the word around is dropped. -/
  | last
  /-- Its length is taken. -/
  | length
  /-- A word stands in for a value that is not there or, if `emptyToo` says so, empty. -/
  | orElse (emptyToo : Bool)
  /-- A word takes the place of a value that is there and, if `emptyToo` says so, not empty. -/
  | instead (emptyToo : Bool)
  /-- A word is assigned to a parameter that has no value. -/
  | assign (emptyToo : Bool)
  /-- A word is the complaint about a parameter that has no value. -/
  | insist (emptyToo : Bool)
  /-- A pattern is cut off. -/
  | cut (way : Cut)
  /-- The signs after the name mean nothing. -/
  | meaningless
deriving DecidableEq, Repr

/-- How a file is opened for a stream. -/
inductive Opening where
  | read
  | readWrite
  /-- An old file loses its contents, unless the shell is told to keep old files. -/
  | write
  /-- An old file loses its contents in any case. -/
  | overwrite
  | append
deriving DecidableEq, Repr

mutual

/-- A piece of a word. -/
inductive Piece where
  | char (c : Char)
  /-- A character that has lost its special meaning. -/
  | escaped (c : Char)
  /-- A quotation mark: what follows is quoted if what went before was not. -/
  | mark
  | parameter (name : List Char) (use : Use) (word : List Piece)
  /-- What a command writes. -/
  | output (command : Command)
  /-- The value of an expression. -/
  | number (expression : List Piece)

/-- Where a redirection leads. -/
inductive Target where
  | file (opening : Opening) (path : List Piece)
  /-- Wherever another stream leads; to nowhere without a number. -/
  | stream (number : Option Nat)
  /-- Wherever the stream leads whose number a word stands for. -/
  | streamOf (word : List Piece)
  /-- From the text that follows in the script, known by a number. -/
  | document (key : Nat)

/-- A redirection of the stream of a number. -/
inductive Redirect where
  | mk (number : Nat) (target : Target)

/-- A command. Those that can fail to start know their line. -/
inductive Command where
  | nothing
  | simple (assignments arguments : List (List Piece)) (redirects : List Redirect) (line : Nat)
  /-- Commands whose output is the input of the next one. -/
  | pipeline (parts : List Command) (background : Bool)
  | redirected (body : Command) (redirects : List Redirect) (line : Nat)
  /-- A command that changes nothing in the shell around it. -/
  | apart (body : Command) (redirects : List Redirect) (line : Nat)
  /-- A command that is not waited for. -/
  | background (body : Command) (redirects : List Redirect) (line : Nat)
  | sequence (first second : Command)
  | both (first second : Command)
  | either (first second : Command)
  | negate (command : Command)
  | branch (condition yes no : Command)
  /-- Repeats the body as long as the condition succeeds or, if `until` says so, fails. -/
  | loop (isUntil : Bool) (condition body : Command)
  | forEach (name : List Char) (items : List (List Piece)) (body : Command) (line : Nat)
  | choose (subject : List Piece) (arms : List (List (List Piece) × Command)) (line : Nat)
  | define (name : List Char) (body : Command) (line : Nat)

end

/-- A word. -/
abbrev Word := List Piece

/-- The text of a word that has nothing but plain characters. -/
def bareText? : Word → Option (List Char)
  | [] => some []
  | .char c :: rest => (bareText? rest).map (c :: ·)
  | _ => none

/-- The name that a word assigns to: plain characters of a name, then the sign of equality. -/
def assignedName? (word : Word) : Option (List Char) := go [] word
where
  /-- Reads on after the reversed beginning of a name. -/
  go (name : List Char) : Word → Option (List Char)
    | .char c :: rest =>
      if c = '=' then if name = [] then none else some name.reverse
      else if (if name = [] then beginsName c else inName c) then go (c :: name) rest
      else none
    | _ => none

/-- The word `"$@"`. -/
def allArguments : Word := [.mark, .parameter ['@'] .plain [], .mark]

end Bindery.Shell
