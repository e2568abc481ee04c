/-
This file is the program. It looks at the paths that a run needs, runs on a machine that holds
what lies there, shows what the run wrote and logged, and carries the changes of the disk over.
-/

import Bindery.CommandLine.Reach
import Bindery.Disk.Edit
import Bindery.Disk.Snapshot
import Bindery.Release

namespace Bindery.CommandLine

/-! ### Looking at the system -/

/-- Whether a request to the system is granted. -/
def isGranted {α : Type} (request : IO α) : IO Bool := do
  try
    discard request
    return true
  catch _ => return false

/-- Whether there is something at a path. -/
def isThere (path : String) : IO Bool := isGranted (IO.FS.realPath path)

/-- Whether there is a directory at a path. -/
def isDirectoryThere (path : String) : IO Bool := isThere (path ++ "/.")

/-- The permission bits that files are taken to have. -/
def assumedMode : Mode := 0o755

/-- The disk with what lies at a path. A file that cannot be read counts as missing. -/
def observed (here : Place) (disk : Disk) (path : Path) : IO Disk := do
  let place := Path.absolute ⟨.root, here⟩ path
  if ← isDirectoryThere place.text then return disk.edit here place .directory
  try
    let bytes ← IO.FS.readBinFile place.text
    return disk.edit here place (.file bytes.toList (some assumedMode))
  catch _ => return disk

/-- The variables of the environment that are set. -/
def environmentNow : IO Environment := do
  let names := "PATH" :: Variable.all.map Variable.name
  names.filterMapM fun name => return (← IO.getEnv name).map (name, ·)

/-- What the process finds around it. -/
def hostNow : IO Host := do
  let environment ← environmentNow
  let here := (Path.parse (toString (← IO.currentDir))).parts
  let level := (Log.Level.ofName? environment.loggingLevel).getD Log.Level.info
  return { environment := environment, here := here, level := level }

/-! ### Carrying changes over -/

/-- The path of an entry in a listing from the top of the disk. -/
def fromTop (listed : String) : String := "/" ++ listed

/-- Takes an entry away. -/
def remove (listed : String) : IO Unit :=
  if listed.toList.getLast? = some '/' then IO.FS.removeDirAll (fromTop listed)
  else IO.FS.removeFile (fromTop listed)

/-- Lays an entry down. -/
def layDown (listed : String) : Node → IO Unit
  | .directory _ => IO.FS.createDirAll (fromTop listed)
  | .file bytes _ => IO.FS.writeBinFile (fromTop listed) (ByteArray.mk bytes.toArray)
  | .link _ => pure ()

/-- Whether an entry of a listing lies in a directory. -/
def liesIn (directory : Path) (listed : String) : Bool :=
  (Text.afterFront? (directory.text ++ "/").toList (fromTop listed).toList).isSome

/-- Carries over what a run changed. A directory of bindings that the run published replaces the
one that was there. -/
def carryOver (output : Option Path) (before after : Disk) : IO Unit := do
  let old := before.listing []
  let new := after.listing []
  for listed in (Disk.removed old new).reverse do
    remove listed
  let changed := Disk.changed old new
  if let some directory := output then
    if (changed.any fun entry => liesIn directory entry.1) && (← isDirectoryThere directory.text)
    then
      IO.FS.removeDirAll directory.text
      IO.FS.createDirAll directory.text
  for (listed, node) in changed do
    layDown listed node

/-! ### Showing -/

/-- What a record says. -/
def contentText : Content → String
  | .text message => message
  | .invalid error =>
    Text.join "; " (error.findings.map fun finding => finding.issue.message)

/-- The lines of the records that were logged. -/
def logLines (journal : List Event) : List String :=
  journal.reverse.filterMap fun
    | .logged level content => some (level.text ++ " " ++ contentText content)
    | _ => none

/-- What is said about a failure that no record is made of. -/
def failureText : Failure → String
  | .generation fault => fault.message
  | .invalid error => contentText (.invalid error)
  | .value fault => fault.message
  | .system fault => fault.message
  | .linkLoop path | .unreachable path => path
  | .template fault => fault.message

/-! ### Running -/

/-- Runs the program on the system as it is now. The result is the status. -/
def runNow (arguments : List String) : IO UInt32 := do
  let host ← hostNow
  let before ← (reach host arguments).foldlM (observed host.here) Disk.empty
  let (result, machine) := (runProcess Release.fallbackVersion arguments).on
    (Machine.fresh host before)
  for line in logLines machine.journal do
    IO.eprintln line
  carryOver ((settingsOf? host arguments).map Settings.outputDirectory) before machine.disk
  match result with
  | .ok report =>
    IO.print report.output
    IO.eprint report.errors
    match report.ending with
    | .returned status | .exited status => return status.toUInt32
  | .error failure =>
    IO.eprintln (failureText failure)
    return 1

end Bindery.CommandLine

/-- Runs the program and ends with its status. -/
def main (arguments : List String) : IO UInt32 := Bindery.CommandLine.runNow arguments
