/-
This file decides once per build whether bindings are generated, and then does it.
-/

import Bindery.Invocation.Validation
import Bindery.Policy
import Bindery.Settings

namespace Bindery

/-- What a build does about bindings. -/
inductive BuildStep where
  /-- The bindings on disk are used as they are. -/
  | skip
  | run (invocation : Invocation) (policy : Policy)
deriving DecidableEq, Repr

namespace BuildStep

/-- A function that generates bindings. -/
abbrev Generator := Invocation → Policy → Action Unit

/-- What a build with these settings does. -/
def plan (settings : Settings) (policy : Policy) : Action BuildStep := do
  if settings.enabled then
    let invocation ←
      Invocation.ofPaths settings.includeDirectory (settings.schemaFiles.map Path.parse)
        settings.outputDirectory settings.compilerOverride
    return .run invocation policy
  else return .skip

/-- Carries a step out. -/
def perform (generate : Generator) : BuildStep → Action Unit
  | .skip => Action.logInfo "Protobuf generation disabled; using bindings on disk"
  | .run invocation policy => generate invocation policy

/-- A stand-in for generation: it notes what was requested and then fails if it is told to. -/
def recorder (fault : Option GenerationFault) : Generator := fun invocation policy => do
  Action.note (.requested invocation policy)
  match fault with
  | some fault => throw (.generation fault)
  | none => pure ()

/-- Anything else in the place of a step is an error of the caller. -/
def performOther (value : Datum) : Action Unit := throw (.unreachable value.literal)

end BuildStep

end Bindery
