/-
This file holds a stand-in for the compiler that behaves as it was told: it may be refused by
the system, change the disk, write files to the directory that the command names, and end with
any status and diagnostics. The commands that it gets are noted in the journal.
-/

import Bindery.Disk.Edit
import Bindery.Generation

namespace Bindery.Compiler

/-- What the stand-in does, in the order of the fields. -/
structure Rehearsal where
  /-- Changes below the directory that the stand-in was set up in. -/
  edits : List (String × Disk.Edit) := []
  /-- The error number with which running it fails. -/
  refusal : Option Errno := none
  /-- Whether the output directory is removed. -/
  removesOutput : Bool := false
  /-- Changes below the output directory. -/
  emission : List (String × Disk.Edit) := []
  status : Int := 0
  diagnostics : String := ""

/-- What an output argument begins with. -/
def outputFlag : List Char := "--python_out=".toList

/-- The output directory that a command names. -/
def outputOf (command : List String) : Option Path :=
  command.findSome? fun argument =>
    (Text.afterFront? outputFlag argument.toList).map fun rest =>
      Path.parse (String.ofList rest)

/-- Changes the disk in a way that cannot be refused. -/
def adjust (change : Disk → Place → Disk) : Action Unit :=
  modify fun machine => { machine with disk := change machine.disk machine.host.here }

/-- Runs a command by the stand-in, which was set up in the directory `base`. -/
def Rehearsal.run (rehearsal : Rehearsal) (base : Path) : Runner := fun command => do
  Action.note (.ran command)
  adjust fun disk here => disk.editAll here base rehearsal.edits
  match rehearsal.refusal with
  | some code => throw (.system ⟨code, command.take 1⟩)
  | none =>
    match outputOf command with
    | none => pure ()
    | some output =>
      if rehearsal.removesOutput then adjust fun disk here => disk.without here output
      adjust fun disk here => disk.editAll here output rehearsal.emission
    return ⟨rehearsal.status, rehearsal.diagnostics⟩

end Bindery.Compiler
