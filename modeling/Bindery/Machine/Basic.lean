/-
This file holds the machine that a build runs on: its disk, the directory the process is in,
the environment, the calls that are due to fail, and the journal of what was logged and asked.
An action runs on a machine and either gives a value or fails; what it did before failing
stays done.
-/

import Bindery.Compiler.Program
import Bindery.Environment
import Bindery.Failure
import Bindery.Invocation.Basic
import Bindery.Policy
import Bindery.Text.Lines
import Bindery.Disk.Operations
import Bindery.Disk.RealPath
import Bindery.Log.Level

namespace Bindery

/-- The system calls that can be made to fail. -/
inductive Primitive where
  | rename
  | write
  | read
  | unlink
  | chmod
  | removeTree
  /-- Removing one entry of a tree whose refusals are passed over. -/
  | discard
  | makeDirectory
  | makeTemporary
deriving DecidableEq, Repr

/-- Which calls fail: for each kind the calls are counted from one. -/
abbrev Schedule := Primitive → Nat → Option Errno

/-- What a log record says. -/
inductive Content where
  | text (message : String)
  | invalid (error : Invalid)
deriving DecidableEq, Repr

/-- A line of the journal. -/
inductive Event where
  /-- A record was logged. -/
  | logged (level : Log.Level) (content : Content)
  /-- Someone outside was asked for a compiler. -/
  | asked (name : String)
  /-- A command was handed to a stand-in for the compiler. -/
  | ran (command : List String)
  /-- Generation was requested of a stand-in for it. -/
  | requested (invocation : Invocation) (policy : Policy)
  /-- The package was built. -/
  | built
deriving DecidableEq, Repr

/-- What a process finds around it and does not change. -/
structure Host where
  environment : Environment := []
  /-- The program that runs the library. -/
  executable : String := "/usr/bin/python3"
  /-- The directory of the package that bundles a compiler, if it is installed. -/
  bundle : Option String := none
  /-- The directory that the process is in. -/
  here : Place := []
  /-- Records below this level are dropped; if it is not set, those below the top's. -/
  level : Log.Level := Log.Level.info
  /-- Whether the system denies the process a look at what lies at a path itself or, if the look
  follows a link there, at what the link leads to: the way goes through a directory that the process
  may not search. -/
  denies : (follow : Bool) → (path : String) → Bool := fun _ _ => false
  /-- How the system runs a command: from a disk, a directory and an environment. -/
  process : Disk → Place → Environment → List String → Except Errno Compiler.Report :=
    Compiler.interpret

/-- The machine that a build runs on. -/
structure Machine where
  host : Host
  disk : Disk
  schedule : Schedule
  /-- How many calls of each kind were made. -/
  calls : Primitive → Nat
  /-- The number of the next temporary name. -/
  nextTemporary : Nat
  /-- The journal, the latest event first. -/
  journal : List Event

/-- A schedule on which every call is carried out. -/
def Schedule.none : Schedule := fun _ _ => Option.none

/-- The places whose entries the system refuses to remove, when they are tried in turn after
`count` calls. -/
def Schedule.refusedAfter (schedule : Schedule) (count : Nat) : List Place → List Place
  | [] => []
  | place :: rest =>
    let others := schedule.refusedAfter (count + 1) rest
    if (schedule .discard (count + 1)).isSome then place :: others else others

/-- A machine on which nothing has happened. -/
def Machine.fresh (host : Host) (disk : Disk) : Machine :=
  ⟨host, disk, Schedule.none, fun _ => 0, 1, []⟩

namespace Machine

/-- Whether a path is hidden from the process, so that nothing can be done at it. -/
def hides (machine : Machine) (path : Path) : Bool := machine.host.denies false path.text

/-- Whether a link lies at a path. -/
def hasLink (machine : Machine) (path : Path) : Bool :=
  (machine.disk.nodeAt machine.host.here false path).toOption.any Node.isLink

/-- Whether the process may not look at what a path leads to. -/
def bars (machine : Machine) (follow : Bool) (path : Path) : Bool :=
  machine.hides path || (follow && machine.hasLink path && machine.host.denies true path.text)

/-- What a look at a path shows: the node that it leads to, or the refusal. -/
def look (machine : Machine) (follow : Bool) (path : Path) : Except Errno Node :=
  if machine.bars follow path then .error Errno.accessDenied
  else machine.disk.nodeAt machine.host.here follow path

/-- The path without links and points, as far as the process may look. -/
def realPath (machine : Machine) (path : Path) : Path :=
  machine.disk.realPath machine.hides machine.host.here path

/-- The machine after a tree was removed as far as the system lets it. What is refused stays, with
the directories that it lies in. -/
def discarded (machine : Machine) (top : Place) : Machine :=
  let places := machine.disk.placesUnder top
  let made := machine.calls .discard
  { machine with
    disk := machine.disk.pruneTree top (machine.schedule.refusedAfter made places)
    calls := fun each =>
      if each = Primitive.discard then made + places.length else machine.calls each }

end Machine

/-- A step that runs on a machine. -/
abbrev Action (α : Type) := ExceptT Failure (StateM Machine) α

namespace Action

/-- Runs an action: its outcome and the machine afterwards. -/
def on {α : Type} (action : Action α) (machine : Machine) : Except Failure α × Machine :=
  (ExceptT.run action).run machine

/-- Fails because the system refuses. -/
def refuse {α : Type} (code : Errno) (paths : List Path) : Action α :=
  throw (.system ⟨code, paths.map Path.text⟩)

/-- The same action, with its failure, if any, as its value. -/
def outcome {α : Type} (action : Action α) : Action (Except Failure α) :=
  tryCatch (Except.ok <$> action) fun failure => pure (.error failure)

/-- An action followed by another one that runs whether or not the first one failed. -/
def andFinally {α : Type} (action : Action α) (last : Action Unit) : Action α := do
  let result ← outcome action
  last
  match result with
  | .ok value => pure value
  | .error failure => throw failure

/-- Adds an event to the journal. -/
def note (event : Event) : Action Unit :=
  modify fun machine => { machine with journal := event :: machine.journal }

/-- Logs a record unless its level is too low. -/
def log (level : Log.Level) (content : Content) : Action Unit := do
  if (← get).host.level.deciding ≤ level then note (.logged level content)

def logDebug (message : String) : Action Unit := log Log.Level.debug (.text message)

def logInfo (message : String) : Action Unit := log Log.Level.info (.text message)

def logWarning (message : String) : Action Unit := log Log.Level.warning (.text message)

def logError (message : String) : Action Unit := log Log.Level.error (.text message)

/-- Whether a path holds the character that ends texts for the system. -/
def holdsNull (path : Path) : Bool := path.text.toList.contains '\x00'

/-- Counts a call and lets it fail if it is due to. -/
def due (kind : Primitive) (paths : List Path) : Action Unit := do
  let machine ← get
  let count := machine.calls kind + 1
  set { machine with calls := fun each => if each = kind then count else machine.calls each }
  match machine.schedule kind count with
  | some code => refuse code paths
  | none => pure ()

/-- Fails when a path cannot be handed to the system. -/
def usable (paths : List Path) : Action Unit :=
  if paths.any holdsNull then throw (.value .embeddedNull) else pure ()

/-- Changes the disk by an operation; a refusal names the paths. -/
def change (paths : List Path) (operation : Disk → Place → Except Errno Disk) : Action Unit := do
  usable paths
  let machine ← get
  if paths.any machine.hides then refuse Errno.accessDenied paths
  else
    match operation machine.disk machine.host.here with
    | .ok disk => set { machine with disk := disk }
    | .error code => refuse code paths

/-- Reads from the disk by an operation; a refusal names the path. -/
def inspect {α : Type} (path : Path) (operation : Disk → Place → Except Errno α) : Action α := do
  usable [path]
  let machine ← get
  if machine.hides path then refuse Errno.accessDenied [path]
  else
    match operation machine.disk machine.host.here with
    | .ok value => pure value
    | .error code => refuse code [path]

/-! ### System calls -/

/-- The text of a file with one kind of line end. -/
def readText (path : Path) : Action String := do
  due .read [path]
  let bytes ← inspect path fun disk here => disk.readFile here path
  match Text.textOf bytes with
  | .ok text => pure (Text.withUnixLines text)
  | .error fault => throw (.value (.undecodable fault))

/-- Writes a text to a file. -/
def writeText (path : Path) (text : String) : Action Unit := do
  due .write [path]
  change [path] fun disk here => disk.writeFile here path (Text.bytesOf text)

/-- Moves an entry. -/
def rename (old new : Path) : Action Unit := do
  due .rename [old, new]
  change [old, new] fun disk here => disk.rename here old new

/-- Removes a file or link. -/
def unlink (path : Path) : Action Unit := do
  due .unlink [path]
  change [path] fun disk here => disk.unlink here path

/-- Changes permission bits. -/
def changeMode (path : Path) (mode : Mode) : Action Unit := do
  due .chmod [path]
  change [path] fun disk here => disk.changeMode here path mode

/-- Removes a directory with everything below it. -/
def removeTree (path : Path) : Action Unit := do
  due .removeTree [path]
  change [path] fun disk here => disk.removeTree here path

/-- Removes a directory with everything below it as far as the system lets it. That entries stay is
no failure. -/
def discardTree (path : Path) : Action Unit := do
  usable [path]
  let machine ← get
  if machine.hides path then pure ()
  else
    match machine.disk.locate machine.host.here false path with
    | .ok (.found top (.directory _)) => set (machine.discarded top)
    | _ => pure ()

/-! ### Questions about paths -/

/-- The refusals that mean that a path leads nowhere. -/
def leadsNowhere (code : Errno) : Bool :=
  [Errno.noEntry, Errno.notDirectory, 9, Errno.linkLoop].contains code

/-- The node that a path leads to, if it leads anywhere. Other refusals are failures. -/
def nodeAt? (path : Path) (follow : Bool := true) : Action (Option Node) := do
  if holdsNull path then return none
  let machine ← get
  match machine.look follow path with
  | .ok node => return some node
  | .error code => if leadsNowhere code then return none else refuse code [path]

/-- Whether a path leads anywhere. -/
def pathExists (path : Path) : Action Bool := return (← nodeAt? path).isSome

/-- Whether a path leads to a directory. -/
def isDirectory (path : Path) : Action Bool := return (← nodeAt? path).any Node.isDirectory

/-- Whether a path itself is a link. -/
def isLink (path : Path) : Action Bool := return (← nodeAt? path false).any Node.isLink

/-- Whether a path leads to a file. -/
def isFile (path : Path) : Action Bool := return (← nodeAt? path).any Node.isFile

/-- What lies at a path itself, be it a link. Refusals count as nothing. This is asked only about
names in a directory in which the process has just made an entry, so that it may be searched. -/
def entryAt? (path : Path) : Action (Option Node) := do
  if holdsNull path then return none
  let machine ← get
  match machine.disk.nodeAt machine.host.here false path with
  | .ok node => return some node
  | .error _ => return none

/-- The path without links and points. -/
def resolve (path : Path) : Action Path := do
  usable [path]
  let machine ← get
  let real := machine.realPath path
  match machine.look true real with
  | .ok _ => return real
  | .error code =>
    if code = Errno.linkLoop then throw (.linkLoop (Text.quoted real.text)) else return real

/-- The path seen from the top. -/
def absolute (path : Path) : Action Path :=
  return Path.absolute ⟨.root, (← get).host.here⟩ path

/-! ### Making directories -/

/-- One attempt to make a directory. -/
def makeDirectory (path : Path) (mode : Mode) : Action Unit := do
  due .makeDirectory [path]
  change [path] fun disk here => disk.makeDirectory here path mode

/-- Accepts that a directory could not be made if there is one already. -/
def orThere (path : Path) (failure : Failure) : Action Unit := do
  if ← isDirectory path then pure () else throw failure

/-- Makes a directory with the directories that it lies in, of which up to `depth` may be
missing. -/
def makeDirectoriesUpTo : (depth : Nat) → Path → Action Unit
  | depth, path => do
    match ← outcome (makeDirectory path Disk.directoryMode) with
    | .ok () => pure ()
    | .error (.system fault) =>
      if fault.code = Errno.noEntry then
        match depth with
        | 0 => throw (.system fault)
        | depth + 1 =>
          makeDirectoriesUpTo depth path.parent
          match ← outcome (makeDirectory path Disk.directoryMode) with
          | .ok () => pure ()
          | .error (.system again) =>
            if again.code = Errno.noEntry then throw (.system again)
            else orThere path (.system again)
          | .error other => throw other
      else orThere path (.system fault)
    | .error other => throw other

/-- Makes a directory, if need be with the directories that it lies in. -/
def makeDirectories (path : Path) : Action Unit := makeDirectoriesUpTo path.parts.length path

/-- The permission bits of a temporary directory. -/
def temporaryMode : Mode := 0o700

/-- The number in a temporary name, with eight digits. -/
def temporaryDigits (number : Nat) : String :=
  let digits := toString number
  String.ofList (List.replicate (8 - digits.length) '0') ++ digits

/-- Tries numbers in turn until a temporary directory could be made, at most `attempts` times. -/
def makeTemporaryUpTo (parent : Path) (front : String) : (attempts : Nat) → Action Path
  | 0 => refuse Errno.alreadyExists []
  | attempts + 1 => do
    let machine ← get
    set { machine with nextTemporary := machine.nextTemporary + 1 }
    let path : Path :=
      ⟨parent.anchor, parent.parts ++ [front ++ temporaryDigits machine.nextTemporary]⟩
    let attempt : Action Unit := do
      due .makeTemporary [path]
      change [path] fun disk here => disk.makeDirectory here path temporaryMode
    match ← outcome attempt with
    | .ok () => pure path
    | .error (.system fault) =>
      if fault.code = Errno.alreadyExists then makeTemporaryUpTo parent front attempts
      else throw (.system fault)
    | .error other => throw other

/-- How often a temporary name is tried. -/
def temporaryAttempts : Nat := 10000

/-- A new directory in `parent` whose name begins with `front` and ends with a number that no
other entry there has. -/
def makeTemporary (parent : Path) (front : String) : Action Path :=
  makeTemporaryUpTo parent front temporaryAttempts

end Action

end Bindery
