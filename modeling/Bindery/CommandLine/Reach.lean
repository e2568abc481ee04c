/-
This file tells which paths a run of the program looks at before it changes anything: where the
compiler may lie, and for a build the project, its schemas, and the directory of the bindings.
A machine whose disk holds what lies there is all that the run needs.
-/

import Bindery.CommandLine.Run

namespace Bindery.CommandLine

/-- Where the compiler may lie. -/
def compilerPaths (environment : Environment) : List Path :=
  let searched := (Compiler.searchDirectories (Compiler.searchPathOf environment)).map
    (Compiler.inDirectory · Compiler.program)
  (environment.compilerPath?.toList ++ searched).map Path.parse

/-- The subcommand among the arguments, with its own arguments. -/
def subcommandOf? (arguments : List String) : Option (Subcommand × List String) := do
  let (name, rest) ← (read topCommand.grammar arguments).command
  let subcommand ← Subcommand.ofName? name
  return (subcommand, rest)

/-- The settings of the build that the arguments ask for. -/
def settingsOf? (host : Host) (arguments : List String) : Option Settings := do
  let (subcommand, rest) ← subcommandOf? arguments
  match subcommand with
  | .which => none
  | .generate =>
    let uses := (read subcommand.command.grammar rest).uses
    let given := GenerateArguments.ofUses ⟨.root, host.here⟩ uses
    let settings := Settings.fromEnvironment (.text given.projectRoot.text) given.overrides
    match (settings.on (Machine.fresh host Disk.empty)).1 with
    | .ok settings => some settings
    | .error _ => none

/-- The paths of a build. -/
def Settings.paths (settings : Settings) : List Path :=
  [settings.projectRoot, settings.includeDirectory] ++
    settings.schemaFiles.map settings.includeDirectory.child ++
    [settings.generatedRoot, settings.outputDirectory]

/-- The paths that a run looks at. -/
def reach (host : Host) (arguments : List String) : List Path :=
  compilerPaths host.environment ++
    (match settingsOf? host arguments with
     | some settings => Settings.paths settings
     | none => [])

end Bindery.CommandLine
