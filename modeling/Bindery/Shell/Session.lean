/-
This file holds the state of a running shell: its variables, functions and options, the streams
that it reads from and writes to, and the disk. Several shells can share the streams and the
disk, so these form a world of their own.
-/

import Bindery.Disk.Operations
import Bindery.Shell.Arithmetic
import Bindery.Shell.Lexer
import Bindery.Text.Utf8

namespace Bindery.Shell

/-- The value and the marks of a variable. One without a value can still be marked. -/
structure Variable where
  value : Option (List Char)
  isExported : Bool := false
  isReadOnly : Bool := false
deriving DecidableEq, Repr

/-- A command that a script has given a name, and the line of its beginning. -/
structure Function where
  body : Command
  line : Nat

/-- What a stream leads to. -/
inductive Channel where
  /-- Text that is collected, piece by piece, the latest first. -/
  | sink (pieces : List (List Char))
  /-- Text that is still to be read. -/
  | source (text : List Char)
  /-- A file, with the position in it. -/
  | file (place : Place) (position : Nat) (opening : Opening)
  /-- Swallows everything and holds nothing. -/
  | void
  /-- Takes nothing and holds nothing. -/
  | full
deriving DecidableEq, Repr

/-- What the shells of a script share. -/
structure World where
  disk : Disk
  channels : List (Nat × Channel) := []
  nextChannel : Nat := 0
  nextProcess : Nat := 0
  /-- The texts that follow commands in scripts. -/
  documents : List (Nat × Word) := []
  nextDocument : Nat := 0
  /-- The actions of the outermost shell for signals, and the signals whose action is still to
  be carried out. -/
  rootTraps : List (Nat × List Char) := []
  pending : List Nat := []
  /-- The signal that ended the outermost shell while shells inside it still ran. -/
  ended : Option Nat := none

/-- The world with a channel changed. -/
def World.setChannel (world : World) (key : Nat) (channel : Channel) : World :=
  { world with channels := (key, channel) :: world.channels.filter (·.1 ≠ key) }

/-- The text that a channel has collected. -/
def World.collected (world : World) (key : Nat) : List Char :=
  match world.channels.lookup key with
  | some (.sink pieces) => pieces.reverse.flatten
  | _ => []

/-- Why the commands that follow are passed over. -/
inductive Skip where
  | none
  /-- A loop goes on with its next round. -/
  | toNext
  /-- A loop ends. -/
  | toEnd
  /-- A function or a script that was read in ends; with a status of its own if `isSet` says
  so. -/
  | toCaller (isSet : Bool)
deriving DecidableEq, Repr

/-- Why a shell stops what it is doing. -/
inductive Stop where
  /-- It cannot go on. -/
  | error
  /-- It was told to. -/
  | exit
  /-- It has nothing more to do, whatever the commands around say. -/
  | ending
  /-- A signal ended it. -/
  | killed (signal : Nat)
deriving DecidableEq, Repr

/-- The state of a shell. -/
structure Session where
  world : World
  /-- The channel of each open stream. -/
  streams : List (Nat × Nat)
  here : Place
  /-- The working directory as the shell came to it, in writing. -/
  directory : List Char
  mask : Nat := 0o022
  parameters : List (List Char × Variable) := []
  functions : List (List Char × Function) := []
  aliases : List (List Char × List Char) := []
  /-- The letters of the options that are on. -/
  options : List Char := []
  /-- The name that the script was run by. -/
  script : List Char
  arguments : List (List Char) := []
  /-- The number of the process that the script began as, and of the one that began it. -/
  process : Nat
  parent : Nat
  /-- The status of the last command. -/
  status : Nat := 0
  /-- The status that was asked for, or that was there before the action of a signal. -/
  saved : Option Nat := none
  /-- The status of the last command inside a word of this command. -/
  innerStatus : Nat := 0
  /-- The number and the status of each command that was not waited for, the latest first. -/
  jobs : List (Nat × Nat) := []
  lastJob : Option Nat := none
  /-- The line that complaints are about, and the line that was read last. -/
  line : Nat := 1
  readLine : Nat := 1
  /-- The command that complaints are about. -/
  command : Option (List Char) := none
  /-- How many loops are around, and how many functions. -/
  loops : Nat := 0
  calls : Nat := 0
  skip : Skip := .none
  /-- How many loops are left to skip. -/
  skipCount : Nat := 0
  /-- What variables were before they were made local, for each call, the innermost first. -/
  locals : List (List (List Char × Option Variable)) := []
  /-- The action for each signal, and under zero the one for the end. -/
  traps : List (Nat × List Char) := []
  /-- The argument whose options are read, counted from one, and how far they have been. -/
  optionIndex : Nat := 1
  optionOffset : Option Nat := none
  /-- Whether the shell is a copy whose changes the shell around does not see. -/
  isApart : Bool := false

/-- What a shell does: it changes the state and may stop. -/
abbrev Task := ExceptT Stop (StateM Session)

namespace Session

/-- The variable of a name. -/
def find? (session : Session) (name : List Char) : Option Variable := session.parameters.lookup name

/-- The value of a variable, if it has one. -/
def value? (session : Session) (name : List Char) : Option (List Char) :=
  (session.find? name).bind (·.value)

/-- The session with a variable put in place. -/
def put (session : Session) (name : List Char) (entry : Variable) : Session :=
  { session with
    parameters := (name, entry) :: session.parameters.filter (·.1 ≠ name) }

/-- Whether the option of a letter is on. -/
def hasOption (session : Session) (letter : Char) : Bool := session.options.contains letter

/-- The variables whose mark for export outlives their values. -/
def lastingNames : List String :=
  ["IFS", "MAIL", "MAILPATH", "OPTIND", "PATH", "PS1", "PS2", "PS4"]

/-- The session without a variable. The mark for export stays if all variables are marked. -/
def remove (session : Session) (name : List Char) : Session :=
  let lasts := lastingNames.contains (String.ofList name) &&
    (session.find? name).any (·.isExported)
  if session.hasOption 'a' || lasts then session.put name { value := none, isExported := true }
  else { session with parameters := session.parameters.filter (·.1 ≠ name) }

/-- The channel of a stream. -/
def channel? (session : Session) (stream : Nat) : Option (Nat × Channel) := do
  let key ← session.streams.lookup stream
  let channel ← session.world.channels.lookup key
  return (key, channel)

/-- The session with a channel changed. -/
def setChannel (session : Session) (key : Nat) (channel : Channel) : Session :=
  { session with world := session.world.setChannel key channel }

/-- The session with a new channel, and its key. -/
def addChannel (session : Session) (channel : Channel) : Nat × Session :=
  let key := session.world.nextChannel
  (key, { session with
    world := { session.world with
      channels := (key, channel) :: session.world.channels, nextChannel := key + 1 } })

/-- The session with a stream leading to a channel. -/
def setStream (session : Session) (stream key : Nat) : Session :=
  { session with streams := (stream, key) :: session.streams.filter (·.1 ≠ stream) }

/-- The session with a stream closed. -/
def closeStream (session : Session) (stream : Nat) : Session :=
  { session with streams := session.streams.filter (·.1 ≠ stream) }

/-- A number for a new process. -/
def newProcess (session : Session) : Nat × Session :=
  let number := session.world.nextProcess
  (number, { session with world := { session.world with nextProcess := number + 1 } })

end Session

/-! ### Reading and writing -/

/-- A text with another one at a position; a gap is filled with zeros. -/
def overwriteAt (old : List UInt8) (position : Nat) (new : List UInt8) : List UInt8 :=
  old.take position ++ List.replicate (position - old.length) 0 ++ new ++
    old.drop (position + new.length)

/-- The world with text written to a channel; `none` if it takes none. -/
def World.write? (world : World) (key : Nat) (text : List Char) : Option World :=
  match world.channels.lookup key with
  | some (.sink pieces) =>
    some (if text = [] then world else world.setChannel key (.sink (text :: pieces)))
  | some .void => some world
  | some (.file place position opening) =>
    if text = [] then some world
    else if opening = .read then none
    else
      match world.disk.get? place with
      | some (.file bytes mode) =>
        let start := if opening = .append then bytes.length else position
        let written := overwriteAt bytes start (toBytes text)
        let changed : World := { world with disk := world.disk.put place (.file written mode) }
        some (changed.setChannel key (.file place (start + text.length) opening))
      | _ => some world
  | _ => if text = [] then some world else none

/-- The world with text written to one of some streams, if that takes it. -/
def World.writeTo (world : World) (streams : List (Nat × Nat)) (stream : Nat)
    (text : List Char) : World :=
  ((streams.lookup stream).bind fun key => world.write? key text).getD world

/-- The session with text written to a stream; `none` if it takes none. -/
def Session.write? (session : Session) (stream : Nat) (text : List Char) : Option Session :=
  match session.streams.lookup stream with
  | some key => (session.world.write? key text).map fun world => { session with world := world }
  | none => if text = [] then some session else none

/-- Takes a character from a stream; `none` at its end. -/
def Session.takeFrom (session : Session) (stream : Nat) : Option Char × Session :=
  match session.channel? stream with
  | some (key, .source (c :: rest)) => (some c, session.setChannel key (.source rest))
  | some (key, .file place position opening) =>
    if opening = .read || opening = .readWrite then
      match session.world.disk.get? place with
      | some (.file bytes _) =>
        match bytes[position]? with
        | some byte =>
          (some (Char.ofNat byte.toNat),
            session.setChannel key (.file place (position + 1) opening))
        | none => (none, session)
      | _ => (none, session)
    else (none, session)
  | _ => (none, session)

/-- Writes text to a stream and says whether the stream takes it. -/
def writeTo (stream : Nat) (text : List Char) : Task Bool := do
  match (← get).write? stream text with
  | some session =>
    set session
    return true
  | none => return false

/-! ### Complaints -/

/-- The words for a complaint: the script, the line, and the command if there is one. -/
def Session.complaint (session : Session) (text : List Char) : List Char :=
  let command :=
    match session.command with
    | some name => name ++ ": ".toList
    | none => []
  session.script ++ ": ".toList ++ numberText session.line ++ ": ".toList ++ command ++ text ++
    ['\n']

/-- Complains on the stream of errors. -/
def warn (text : List Char) : Task Unit := do
  let _ ← writeTo 2 ((← get).complaint text)

/-- Complains and stops. -/
def fail {α : Type} (text : List Char) : Task α := do
  modify fun session => { session with status := 2 }
  warn text
  throw .error

/-- `fail` with words of the shell itself. -/
def failWith {α : Type} (text : String) : Task α := fail text.toList

/-! ### Variables -/

/-- Complains that a text is no name. -/
def failName {α : Type} (name : List Char) : Task α :=
  fail (name ++ ": bad variable name".toList)

/-- Complains about a text that is no number. -/
def failNumber {α : Type} (text : List Char) : Task α := fail ("Illegal number: ".toList ++ text)

/-- The count or status that a text stands for. -/
def numberOf (text : List Char) : Task Nat :=
  match wholeNumber? false text with
  | some value => if 0 ≤ value ∧ value ≤ 2147483647 then pure value.toNat else failNumber text
  | none => failNumber text

/-- The name of a variable that a text names: the text in front of a sign of equality. It has to
be a name. -/
def nameOf (text : List Char) : Task (List Char) := do
  let name := text.takeWhile (· ≠ '=')
  if isName name then return name else failName name

/-- Gives a variable a value, and marks it for export if `exports` says so. The variable that
tells how far options are read starts their reading over. -/
def assign (name value : List Char) (exports : Bool) : Task Unit := do
  let name ← nameOf name
  let session ← get
  let old := (session.find? name).getD ⟨none, false, false⟩
  if old.isReadOnly then fail (name ++ ": is read only".toList)
  let exported := old.isExported || exports || session.hasOption 'a'
  set (session.put name { old with value := some value, isExported := exported })
  if name = "OPTIND".toList then
    let index ← numberOf value
    modify fun after => { after with optionIndex := max index 1, optionOffset := none }

/-- The name and the value that a text with a sign of equality assigns. -/
def splitAssignment (text : List Char) : List Char × List Char :=
  let (name, value) := Text.cutOnce '=' text
  (name, value.getD [])

/-- The name under which the options of a shell are made local. -/
def optionsName : List Char := ['-']

/-- Makes a variable, or the options, local to the innermost call, with the value from before. -/
def makeLocal (name : List Char) : Task Unit := do
  let session ← get
  match session.locals with
  | [] => pure ()
  | frame :: frames =>
    if frame.any (·.1 = name) then pure ()
    else
      let old :=
        if name = optionsName then some { value := some session.options } else session.find? name
      set { session with locals := ((name, old) :: frame) :: frames }

/-- Begins a call, in which variables can be made local. -/
def pushLocals : Task Unit := modify fun session => { session with locals := [] :: session.locals }

/-- Ends a call: what was made local is as it was before. -/
def Session.popLocals (session : Session) : Session :=
  match session.locals with
  | [] => session
  | frame :: frames =>
    frame.foldl
      (fun session (name, old) =>
        match old with
        | none => session.remove name
        | some entry =>
          if name = optionsName then { session with options := entry.value.getD [] }
          else session.put name entry)
      { session with locals := frames }

/-- The blanks that split fields unless a script says otherwise. -/
def defaultSeparators : List Char := [' ', '\t', '\n']

/-- The characters that split fields. -/
def Session.separators (session : Session) : List Char :=
  (session.value? "IFS".toList).getD defaultSeparators

/-- The letters of the options that are on, in the order in which they are shown. -/
def Session.shownOptions (session : Session) : List Char :=
  "upbaCEVvxsnmiIfe".toList.filter session.hasOption

/-! ### Paths -/

/-- A path as text, unless its bytes are no text. -/
def pathText? (path : List Char) : Option String := (Text.textOf (toBytes path)).toOption

/-- The bytes of a text as characters. -/
def ofText (text : String) : List Char := ofBytes (Text.bytesOf text)

/-- Where a path leads. -/
def Session.locate (session : Session) (last : Bool) (path : List Char) : Except Errno Spot :=
  match pathText? path with
  | none => .error Errno.noEntry
  | some text => session.world.disk.locateText session.here last text

/-- What lies at a path. -/
def Session.nodeAt? (session : Session) (last : Bool) (path : List Char) : Option Node :=
  match session.locate last path with
  | .ok (.found _ node) => some node
  | _ => none

/-- Joins a directory and a name in writing. -/
def joinPath (directory name : List Char) : List Char :=
  if directory = [] then name
  else if directory.getLast? = some '/' then directory ++ name
  else directory ++ '/' :: name

/-- The paths of a name in the directories of a search path. -/
def searchPaths (searchPath name : List Char) : List (List Char) :=
  (Text.fields ':' searchPath).map fun directory => joinPath directory name

end Bindery.Shell
