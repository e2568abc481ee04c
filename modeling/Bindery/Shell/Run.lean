/-
This file runs a shell as a program: from its arguments, the variables that it is started with
and the streams that it is given, up to the status that it ends with.
-/

import Bindery.Shell.Evaluation

namespace Bindery.Shell

/-- What a shell is told to carry out. -/
inductive Order where
  /-- The text of an argument. -/
  | text (text : List Char)
  /-- A script, with arguments of its own. -/
  | script (path : List Char) (arguments : List (List Char))
  /-- What the standard input holds. -/
  | input

/-- Bounds how far a shell goes. -/
def fuelLimit : Nat := 100000000

/-- The variables that a shell starts with unless it is given others. -/
def firstVariables : List (String × String) :=
  [("PS1", "# "), ("PS2", "> "), ("PS4", "+ ")]

/-- The session that a shell starts with, before it has read its arguments. -/
def Session.start (world : World) (launch : Launch) : Session :=
  let blank : Session :=
    { world :=
        { world with
          nextProcess := world.nextProcess + 1, rootTraps := [], pending := [], ended := none }
      streams := launch.streams
      here := launch.here
      directory := []
      mask := launch.mask
      script := launch.name
      process := world.nextProcess
      parent := launch.parent
      line := 0 }
  let default := firstVariables.foldl
    (fun session (name, value) => session.put name.toList { value := some value.toList })
    (blank.put "PATH".toList { value := some standardPath })
  let given := (launch.environment.filter fun entry => isName entry.1).foldl
    (fun session (name, value) => session.put name { value := some value, isExported := true })
    default
  let reset (session : Session) (name : String) (value : List Char) : Session :=
    session.put name.toList
      { value := some value
        isExported := (session.find? name.toList).any (·.isExported) }
  let own := reset (reset (reset given "IFS" defaultSeparators) "OPTIND" ['1']) "PPID"
    (numberText launch.parent)
  let isHere (path : List Char) : Bool :=
    path.head? = some '/' &&
      match own.locate true path with
      | .ok (.found place (.directory _)) => place = own.here
      | _ => false
  let directory := ((own.value? "PWD".toList).filter isHere).getD own.physicalDirectory
  ({ own with directory := directory } : Session).put "PWD".toList
    { value := some directory, isExported := true }

/-- The letters of options that only the arguments of a shell may hold. -/
def callLetters : List Char := ['c', 'l']

/-- Turns options on or off by the letters of an argument of the shell; gives the arguments left,
and whether the text to carry out is an argument. -/
def startLetters (isOn : Bool) : List Char → List (List Char) →
    Task (List (List Char) × Bool)
  | [], rest => pure (rest, false)
  | letter :: letters, rest => do
    if callLetters.contains letter then
      let (left, isText) ← startLetters isOn letters rest
      return (left, isText || letter = 'c')
    else
      let left ← setLetters isOn [letter] rest
      startLetters isOn letters left

/-- Sets the options that a shell is called with; gives the arguments left, and whether the text
to carry out is among them. -/
def startOptions : (fuel : Nat) → List (List Char) → Task (List (List Char) × Bool)
  | 0, arguments => pure (arguments, false)
  | fuel + 1, arguments =>
    match arguments with
    | ['-'] :: rest | ['-', '-'] :: rest => pure (rest, false)
    | (sign :: letters) :: rest => do
      if sign = '-' || sign = '+' then
        let (left, isText) ← startLetters (sign = '-') letters rest
        let (final, isLater) ← startOptions fuel left
        return (final, isText || isLater)
      else return (arguments, false)
    | _ => pure (arguments, false)

/-- Reads the arguments of a shell. -/
def readCall (arguments : List (List Char)) : Task Order := do
  let (rest, isText) ← startOptions (arguments.length + 1) arguments
  let nameFrom (rest : List (List Char)) : Task Unit :=
    match rest with
    | [] => pure ()
    | name :: others =>
      modify fun session => { session with script := name, arguments := others }
  match rest with
  | [] =>
    if isText then failWith "-c requires an argument"
    else return .input
  | first :: others =>
    if isText then
      nameFrom others
      return .text first
    else if (← get).hasOption 's' then
      modify fun session => { session with arguments := rest }
      return .input
    else return .script first others

/-- The rest of the standard input. -/
def restOfInput : Task (List Char) := do
  let session ← get
  match session.channel? 0 with
  | some (key, .source text) =>
    set (session.setChannel key (.source []))
    return text
  | some (key, .file place position .read) =>
    match session.world.disk.get? place with
    | some (.file bytes _) =>
      set (session.setChannel key (.file place bytes.length .read))
      return ofBytes (bytes.drop position)
    | _ => return []
  | _ => return []

/-- Carries out what a shell is called for. -/
def obey (starter : Starter) (fuel : Nat) (arguments : List (List Char)) : Task Unit := do
  let order ← readCall arguments
  settleOptions
  let text ←
    match order with
    | .text text => pure text
    | .input => restOfInput
    | .script path others => do
      let text ← readScript path
      modify fun session => { session with script := path, arguments := others }
      pure text
  let isFile :=
    match order with
    | .text _ => false
    | _ => true
  modify fun session => { session with line := 1 }
  let _ ← evaluateLines starter fuel false isFile 0 { text := text }

/-- Runs a shell in a world: its status, below zero the number of a signal, and the world that
it leaves. -/
def run (starter : Starter) (world : World) (launch : Launch) : Int × World :=
  let session := Session.start world launch
  let (result, after) :=
    runShell starter fuelLimit (obey starter fuelLimit launch.arguments) session
  let left : World :=
    { after.world with
      rootTraps := world.rootTraps, pending := world.pending, ended := world.ended }
  match result with
  | .ok status => ((status % 256 : Nat), left)
  | .error (.killed signal) => (-(signal : Int), left)
  | .error _ => ((after.status % 256 : Nat), left)

end Bindery.Shell
