/-
This file runs commands as processes of the machine. What a process does is up to the system; what
it writes to its streams must be text.
-/

import Bindery.Generation

namespace Bindery.Compiler

open Text

/-- Text that a process wrote, with one kind of line end. -/
def streamText (bytes : List UInt8) : Action String :=
  match textOf bytes with
  | .ok text => pure (withUnixLines text)
  | .error fault => throw (.value (.undecodable fault))

/-- How a command ends that is run on a machine, unless it cannot be run. -/
def processOn (machine : Machine) (command : List String) : Except Errno Report :=
  machine.host.process machine.disk machine.host.here machine.host.environment command

/-- Runs a command as a process of the machine. -/
def asProcess : Runner := fun command => do
  if command.any fun argument => argument.toList.contains '\x00' then
    throw (.value .embeddedNull)
  let machine ← get
  match processOn machine command with
  | .error code => throw (.system ⟨code, [command.headD ""]⟩)
  | .ok report =>
    set { machine with disk := report.disk }
    let _ ← streamText report.output
    let diagnostics ← streamText report.errors
    return ⟨report.status, diagnostics⟩

end Bindery.Compiler
