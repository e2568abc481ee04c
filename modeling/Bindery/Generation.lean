/-
This file runs the compiler over the schemas and publishes the bindings. The compiler writes
into a private directory beside the output, and what it wrote takes the place of the output only
after every step has succeeded. When a step fails, the output is as it was before.
-/

import Bindery.Compiler.Arguments
import Bindery.Log.Timing
import Bindery.Package.Finalize
import Bindery.Text.Fields

namespace Bindery

open Text

/-- How a run of the compiler ended: its status and what it wrote to its diagnostics. -/
structure Outcome where
  status : Int
  diagnostics : String
deriving DecidableEq, Repr

/-- Runs a command to its end. -/
abbrev Runner := List String → Action Outcome

namespace Generation

/-- An action whose refusals by the system mean that the output cannot be written. -/
def writing {α : Type} (output : Path) (action : Action α) : Action α := do
  match ← Action.outcome action with
  | .ok value => pure value
  | .error (.system fault) => throw (.generation (.outputWrite output fault))
  | .error failure => throw failure

/-! ### Staging -/

/-- The part of names that marks the directory that a run writes to. -/
def stagingMark : String := "-staging-"

/-- The part of names that marks output that was moved aside. -/
def previousMark : String := "-previous-"

/-- A new directory beside the output, readable like any other. -/
def stage (output : Path) : Action Path :=
  writing output do
    Action.makeDirectories output.parent
    let staging ← Action.makeTemporary output.parent ("." ++ output.name ++ stagingMark)
    Action.changeMode staging Disk.directoryMode
    return staging

/-! ### Publication -/

/-- Where the output is moved aside to make room for a staging directory. -/
def previousPath (staging : Path) : Path :=
  staging.withName <|
    String.ofList (replaceFirst stagingMark.toList previousMark.toList staging.name.toList)

/-- Puts the output back that was moved aside, unless there is one. -/
def restore (output previous : Path) : Action Unit := do
  if (← Action.entryAt? output).isNone then
    match ← Action.outcome (Action.rename previous output) with
    | .ok () => pure ()
    | .error (.system _) =>
      Action.logError
        ("Could not restore " ++ output.text ++ "; previous bindings are in " ++ previous.text)
    | .error failure => throw failure

/-- Removes output that was moved aside: a directory with everything below it, and anything else, be
it a link to a directory, by itself. -/
def removePrevious (previous : Path) : Action Unit := do
  if ← Action.isDirectory previous then
    if ← Action.isLink previous then Action.unlink previous else Action.removeTree previous
  else Action.unlink previous

/-- Removes output that was moved aside. That it cannot be removed is no failure. -/
def dropPrevious (previous : Path) : Action Unit := do
  match ← Action.outcome (removePrevious previous) with
  | .ok () => pure ()
  | .error (.system fault) =>
    Action.logWarning
      ("Could not remove old bindings at " ++ previous.text ++ ": " ++ fault.message)
  | .error failure => throw failure

/-- Puts a staging directory in the place of the output. -/
def publish (staging output : Path) : Action Unit := do
  let previous := previousPath staging
  let occupied := (← Action.entryAt? output).isSome
  let swap : Action Unit := do
    if occupied then Action.rename output previous
    Action.rename staging output
  match ← Action.outcome swap with
  | .ok () => if occupied then dropPrevious previous
  | .error (.system fault) =>
    if occupied then restore output previous
    throw (.generation (.outputWrite output fault))
  | .error failure => throw failure

/-! ### The run -/

/-- Runs the compiler. It must be possible to run it, and it must report success. -/
def compile (run : Runner) (compiler : Compiler) (command : List String) : Action Unit := do
  match ← Action.outcome (run command) with
  | .ok outcome =>
    if outcome.status ≠ 0 then
      throw (.generation (.schemaSyntax outcome.diagnostics outcome.status))
    if outcome.diagnostics ≠ "" then
      Action.logWarning ("protoc: " ++ trimEnd outcome.diagnostics)
  | .error (.system fault) =>
    throw (.generation
      (.compilerNotFound (compiler.unusableMessage fault) compiler.command.head?))
  | .error failure => throw failure

/-- Makes a package of what the compiler wrote. A file that is not there was not emitted. -/
def finish (staging output : Path) (schemas : List String) (policy : Policy) :
    Action (List String) := do
  match ← Action.outcome (Package.finalize staging schemas policy) with
  | .ok modules => pure modules
  | .error (.system fault) =>
    if fault.code = Errno.noEntry then
      throw (.generation (.notEmitted (fault.paths.head?.getD "None")))
    else throw (.generation (.outputWrite output fault))
  | .error failure => throw failure

/-- Removes what is left of a staging directory. -/
def cleanUp (staging : Path) : Action Unit := do
  if ← Action.pathExists staging then Action.discardTree staging

/-- What a run calls itself in the record of how long it took. -/
def title : String := "Binding generation"

/-- Compiles every schema of an invocation and publishes the bindings. -/
def body (lookup : Compiler.Lookup) (run : Runner) (invocation : Invocation) (policy : Policy) :
    Action Unit := do
  let output := invocation.outputDirectory
  let compiler ←
    Compiler.resolve (invocation.compilerOverride.map Path.text) lookup Compiler.bundled
  let schemas ←
    match invocation.virtualPaths with
    | .ok schemas => pure schemas
    | .error error => throw (.value (.path error))
  Action.logInfo ("Generating bindings for " ++ join ", " schemas ++ " into " ++ output.text)
  let staging ← stage output
  let work : Action (List String) := do
    let command := compiler.commandLine invocation policy staging
    Action.logDebug ("Running " ++ join " " command)
    compile run compiler command
    let modules ← finish staging output schemas policy
    publish staging output
    return modules
  let modules ← Action.andFinally work (cleanUp staging)
  Action.logInfo
    ("Generated " ++ toString modules.length ++ " binding modules in " ++ output.text)

end Generation

/-- Compiles every schema of an invocation and publishes the bindings. How long that took is
logged whether or not it succeeds; the clock of a machine stands still. -/
def generate (lookup : Compiler.Lookup) (run : Runner) (invocation : Invocation)
    (policy : Policy) : Action Unit :=
  Action.andFinally (Generation.body lookup run invocation policy)
    (Action.logDebug (Log.tookMessage Generation.title 0))

end Bindery
