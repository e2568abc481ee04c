/-
This file checks invocations. One exists only when it is well formed: the include directory is
there, the schemas are files inside it, and no file is named twice. All of its schema paths are
free of links and points.
-/

import Bindery.Machine.Basic

namespace Bindery.Invocation

/-! ### Checks -/

/-- An action whose complaints about values are findings. Other failures pass through. -/
def asFinding {α : Type} (action : Action α) : Action (Checked α) := do
  match ← Action.outcome action with
  | .ok value => pure (.ok value)
  | .error (.value fault) => pure (Datum.refuse (.refused fault.message))
  | .error failure => throw failure

/-- A checked value that a further check may refuse. -/
def andCheck {α β : Type} (value : Checked α) (check : α → Action (Checked β)) :
    Action (Checked β) :=
  match value with
  | .ok value => check value
  | .error findings => pure (.error findings)

/-- The include directory without links and points; it must be a directory. -/
def checkInclude (path : Path) : Action (Checked Path) := do
  match ← asFinding (Action.resolve path) with
  | .error findings => pure (.error findings)
  | .ok real =>
    if ← Action.isDirectory real then pure (.ok real)
    else
      let reason := "include directory " ++ real.text ++ " does not exist"
      pure (Datum.refuse (.refused reason))

/-- What a schema must not be. -/
inductive SchemaIssue where
  | absent
  | outside (path directory : Path)
  | missing (path : Path)
  | repeated (path : Path)
deriving DecidableEq, Repr

/-- The words for an issue with the schemas. -/
def SchemaIssue.message : SchemaIssue → String
  | .absent => "at least one schema file is required"
  | .outside path directory =>
    "schema " ++ path.text ++ " is outside include directory " ++ directory.text
  | .missing path => "schema " ++ path.text ++ " does not exist"
  | .repeated path => "schema " ++ path.text ++ " is listed more than once"

/-- The schemas that follow `accepted`, each without links and points. Relative paths start
from the include directory. -/
def checkFiles (directory : Path) :
    (accepted : List Path) → List Path → Action (Except SchemaIssue (List Path))
  | accepted, [] => pure (.ok accepted)
  | accepted, path :: rest => do
    let real ← Action.resolve (directory ++ path)
    if !real.isBelow directory then return .error (.outside real directory)
    if !(← Action.isFile real) then return .error (.missing real)
    if accepted.contains real then return .error (.repeated real)
    checkFiles directory (accepted ++ [real]) rest

/-- The schemas of a run; there must be at least one. -/
def checkSchemas (directory : Path) (files : List Path) : Action (Checked (List Path)) := do
  if files.isEmpty then return Datum.refuse (.refused SchemaIssue.absent.message)
  match ← asFinding (checkFiles directory [] files) with
  | .error findings => return .error findings
  | .ok (.error issue) => return Datum.refuse (.refused issue.message)
  | .ok (.ok real) => return .ok real

/-- What findings on an invocation are about. -/
def subject : String := "CompilerInvocation"

/-- Brings the fields of an invocation together. The schemas are looked at only when every
field is right by itself. -/
def assemble (includeDirectory : Checked Path) (inputFiles : Checked (List Path))
    (outputDirectory : Checked Path) (compilerOverride : Checked (Option Path)) :
    Action Invocation := do
  let directory ←
    andCheck includeDirectory fun path => do
      return Checked.under (.field "include_directory") (← checkInclude path)
  let output ← andCheck outputDirectory fun path => do return .ok (← Action.absolute path)
  match Checked.both directory (Checked.both inputFiles (Checked.both output compilerOverride)) with
  | .error findings => throw (.invalid ⟨subject, findings⟩)
  | .ok (directory, files, output, override) =>
    match ← checkSchemas directory files with
    | .error findings => throw (.invalid ⟨subject, findings⟩)
    | .ok real => return ⟨directory, real, output, override⟩

/-- The invocation that arguments describe. -/
def ofArguments (arguments : Arguments) : Action Invocation :=
  assemble (Checked.required arguments "include_directory" Datum.readPath)
    (Checked.required arguments "input_files" Datum.readPaths)
    (Checked.required arguments "output_directory" Datum.readPath)
    (Checked.optional arguments "compiler_path_override" none Datum.readPath?)

/-- The invocation of given paths. -/
def ofPaths (includeDirectory : Path) (inputFiles : List Path) (outputDirectory : Path)
    (compilerOverride : Option Path) : Action Invocation :=
  assemble (.ok includeDirectory) (.ok inputFiles) (.ok outputDirectory) (.ok compilerOverride)

end Bindery.Invocation
