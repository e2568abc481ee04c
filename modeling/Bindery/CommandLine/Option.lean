/-
This file reads the arguments of a command. Options may be shortened as long as they stay
unambiguous, take their value from the next argument or after an equality sign, and be put
together when they are single letters without values. What is no option is left over, or names
a subcommand that takes everything after it.
-/

import Bindery.Text.Alphanumeric
import Bindery.Text.Fields
import Bindery.Text.Quoted

namespace Bindery.CommandLine

open Text

/-- An option: its names, and whether it takes a value. -/
structure Flag where
  names : List String
  takesValue : Bool := false
deriving DecidableEq, Repr

/-- A command: its options and subcommands. -/
structure Grammar where
  flags : List Flag
  subcommands : List String := []
deriving Repr

/-- An option as it was used: by which name and with which value. -/
structure Use where
  flag : Flag
  name : String
  value : Option String := none
deriving DecidableEq, Repr

/-- What is wrong with arguments. -/
inductive UsageError where
  | ambiguous (argument : String) (names : List String)
  | valueMissing (flag : Flag)
  | valueIgnored (flag : Flag) (value : String)
  | noSuchCommand (name : String) (choices : List String)
  | unrecognized (arguments : List String)
deriving DecidableEq, Repr

/-- All names of an option. -/
def Flag.title (flag : Flag) : String := join "/" flag.names

/-- The words for an error. -/
def UsageError.message : UsageError → String
  | .ambiguous argument names =>
    "ambiguous option: " ++ argument ++ " could match " ++ join ", " names
  | .valueMissing flag => "argument " ++ flag.title ++ ": expected one argument"
  | .valueIgnored flag value =>
    "argument " ++ flag.title ++ ": ignored explicit argument " ++ quoted value
  | .noSuchCommand name choices =>
    "argument subparser: invalid choice: " ++ quoted name ++ " (choose from " ++
      join ", " (choices.map quoted) ++ ")"
  | .unrecognized arguments => "unrecognized arguments: " ++ join " " arguments

namespace Grammar

/-- The names of all options, each with its option. -/
def names (grammar : Grammar) : List (String × Flag) :=
  grammar.flags.flatMap fun flag => flag.names.map fun name => (name, flag)

/-- The option of a name. -/
def flag? (grammar : Grammar) (name : String) : Option Flag := grammar.names.lookup name

end Grammar

/-! ### Kinds of arguments -/

/-- What is written in one argument with an option: behind an equality sign, or behind the
letter of the option. -/
abbrev Attached := Option (List Char)

/-- What an argument is. -/
inductive Kind where
  | plain
  /-- The sign after which nothing is an option. -/
  | dashes
  | option (flag : Flag) (name : String) (attached : Attached)
  /-- An option of no known name. -/
  | unknown
deriving Repr

/-- Whether a text is a number below zero, in the digits of any script. A line end behind it
makes no difference. -/
def isNegativeNumber (text : List Char) : Bool :=
  match (beforeBack? ['\n'] text).getD text with
  | '-' :: rest =>
    let whole := rest.takeWhile isDecimal
    match rest.dropWhile isDecimal with
    | [] => whole ≠ []
    | '.' :: fraction => fraction ≠ [] && fraction.all isDecimal
    | _ => false
  | _ => false

/-- The options that a shortened name with two dashes may stand for. -/
def longMatches (grammar : Grammar) (argument : List Char) : List (String × Kind) :=
  let (name, value) := cutOnce '=' argument
  (grammar.names.filter fun (known, _) => (afterFront? name known.toList).isSome).map
    fun (known, flag) => (known, .option flag known value)

/-- The options that an argument with one dash may stand for: a letter with what is attached to
it, or the beginning of a name. -/
def shortMatches (grammar : Grammar) (argument : List Char) : List (String × Kind) :=
  grammar.names.filterMap fun (known, flag) =>
    if known.toList = argument.take 2 then
      some (known, .option flag known (some (argument.drop 2)))
    else if (afterFront? argument known.toList).isSome then
      some (known, .option flag known none)
    else none

/-- The options that an argument may stand for without being spelled out. -/
def partialMatches (grammar : Grammar) (argument : List Char) : List (String × Kind) :=
  match argument with
  | '-' :: '-' :: _ => longMatches grammar argument
  | _ => shortMatches grammar argument

/-- The option that is spelled out before an equality sign. -/
def signedOption? (grammar : Grammar) (argument : List Char) : Option Kind :=
  match cutOnce '=' argument with
  | (name, some value) =>
    (grammar.flag? (String.ofList name)).map fun flag =>
      .option flag (String.ofList name) (some value)
  | (_, none) => none

/-- What an argument other than two dashes is. -/
def kindOf (grammar : Grammar) (argument : String) : Except UsageError Kind :=
  let text := argument.toList
  if text.head? ≠ some '-' then .ok .plain
  else
    match grammar.flag? argument with
    | some flag => .ok (.option flag argument none)
    | none =>
      if text.length = 1 then .ok .plain
      else
        match signedOption? grammar text with
        | some kind => .ok kind
        | none =>
          match partialMatches grammar text with
          | [(_, kind)] => .ok kind
          | first :: second :: more =>
            .error (.ambiguous argument ((first :: second :: more).map (·.1)))
          | [] =>
            if isNegativeNumber text || text.contains ' ' then .ok .plain else .ok .unknown

/-- Arguments with what each of them is. -/
def kindsOf (grammar : Grammar) : List String → Except UsageError (List (String × Kind))
  | [] => .ok []
  | argument :: rest =>
    if argument = "--" then .ok ((argument, .dashes) :: rest.map fun each => (each, .plain))
    else
      match kindOf grammar argument with
      | .error error => .error error
      | .ok kind => (kindsOf grammar rest).map ((argument, kind) :: ·)

/-! ### Reading arguments in turn -/

/-- The options in one argument: those that are complete, and one that still needs a value. -/
structure Cluster where
  uses : List Use := []
  awaiting : Option (Flag × String) := none

/-- Reads the options that are put together in one argument. Behind a letter that takes no value
stands another letter, and so on; two letters may also have an equality sign between them if it
is the first thing attached. -/
def readCluster (grammar : Grammar) : (fuel : Nat) → Flag → String → Attached →
    Except UsageError Cluster
  | _, flag, name, none =>
    if flag.takesValue then .ok { awaiting := some (flag, name) }
    else .ok { uses := [⟨flag, name, none⟩] }
  | 0, flag, _, some value => .error (.valueIgnored flag (String.ofList value))
  | fuel + 1, flag, name, some value =>
    if flag.takesValue then .ok { uses := [⟨flag, name, some (String.ofList value)⟩] }
    else
      match (afterFront? ['-', '-'] name.toList).isSome, value with
      | false, letter :: more =>
        let next := String.ofList ['-', letter]
        match grammar.flag? next with
        | none => .error (.valueIgnored flag (String.ofList value))
        | some other =>
          (readCluster grammar fuel other next (if more = [] then none else some more)).map
            fun cluster => { cluster with uses := ⟨flag, name, none⟩ :: cluster.uses }
      | _, _ => .error (.valueIgnored flag (String.ofList value))

/-- Arguments that were read: the options used, in order; what was left over; the subcommand
with everything after it; and the error that ended reading, if any. -/
structure Reading where
  uses : List Use := []
  extras : List String := []
  command : Option (String × List String) := none
  error : Option UsageError := none
deriving Repr

/-- Options and leftovers in front of what was read. -/
def Reading.after (reading : Reading) (uses : List Use) (extras : List String) : Reading :=
  { reading with uses := uses ++ reading.uses, extras := extras ++ reading.extras }

/-- Reads arguments in turn. An option may take its value from the argument after it. -/
def readInTurn (grammar : Grammar) : List (String × Kind) → Reading
  | [] => {}
  | (argument, .plain) :: rest =>
    if grammar.subcommands.isEmpty then (readInTurn grammar rest).after [] [argument]
    else { command := some (argument, rest.map (·.1)) }
  | (argument, .dashes) :: rest =>
    if grammar.subcommands.isEmpty || rest.isEmpty then
      { extras := argument :: rest.map (·.1) }
    else { command := some (argument, rest.map (·.1)) }
  | (argument, .unknown) :: rest => (readInTurn grammar rest).after [] [argument]
  | (argument, .option flag name attached) :: rest =>
    match readCluster grammar argument.length flag name attached with
    | .error error => { error := some error }
    | .ok cluster =>
      match cluster.awaiting, rest with
      | none, rest => (readInTurn grammar rest).after cluster.uses []
      | some (flag, name), (value, .plain) :: rest =>
        (readInTurn grammar rest).after (cluster.uses ++ [⟨flag, name, some value⟩]) []
      | some (flag, _), _ => { error := some (.valueMissing flag) }

/-- Reads the arguments of a command. A subcommand must be one of those that it has. -/
def read (grammar : Grammar) (arguments : List String) : Reading :=
  match kindsOf grammar arguments with
  | .error error => { error := some error }
  | .ok kinds =>
    let reading := readInTurn grammar kinds
    match reading.command with
    | some (name, _) =>
      if grammar.subcommands.contains name then reading
      else
        { reading with
          command := none, error := some (.noSuchCommand name grammar.subcommands) }
    | none => reading

end Bindery.CommandLine
