/-
This file holds the settings of a build. They are resolved once: what the caller gives wins
over the environment, and what neither gives has a default. Relative directories are taken from
the root of the project.
-/

import Bindery.Machine.Basic

namespace Bindery

/-- The settings of a build. -/
structure Settings where
  projectRoot : Path
  /-- Whether bindings are generated at all. -/
  enabled : Bool
  includeDirectory : Path
  /-- The schemas, seen from the include directory. -/
  schemaFiles : List String
  generatedRoot : Path
  compilerOverride : Option Path
deriving DecidableEq, Repr

namespace Settings

/-- The schemas of the wire protocol. -/
def standardSchemas : List String :=
  ["command_request.proto", "response.proto", "connection_request.proto"]

/-- Where the schemas lie in a project. -/
def standardInclude : Path := ⟨.relative, ["schemas", "protobuf"]⟩

/-- Where generated files go in a project. -/
def standardRoot : Path := ⟨.relative, ["generated"]⟩

/-- The directory of the bindings below the root of generated files. -/
def outputName : String := "protobuf"

/-- Where the bindings go. -/
def outputDirectory (settings : Settings) : Path :=
  ⟨settings.generatedRoot.anchor, settings.generatedRoot.parts ++ [outputName]⟩

/-- The settings with relative directories taken from the project root, and the root from the
working directory. -/
def anchored (here : Path) (settings : Settings) : Settings :=
  let root := Path.absolute here settings.projectRoot
  { settings with
    projectRoot := root
    includeDirectory := root ++ settings.includeDirectory
    generatedRoot := root ++ settings.generatedRoot }

/-- What findings on settings are about. -/
def subject : String := "BuildSettings"

/-- The settings as the arguments give them. -/
def read (arguments : Arguments) : Except Invalid Settings :=
  let root := Checked.required arguments "project_root" Datum.readPath
  let enabled := Checked.optional arguments "proto_enabled" false Datum.readBool
  let directory :=
    Checked.optional arguments "include_directory" standardInclude Datum.readPath
  let files := Checked.optional arguments "schema_files" standardSchemas Datum.readTexts
  let generated := Checked.optional arguments "generated_root" standardRoot Datum.readPath
  let override := Checked.optional arguments "compiler_path_override" none Datum.readPath?
  match Checked.both root (Checked.both enabled (Checked.both directory
      (Checked.both files (Checked.both generated override)))) with
  | .error findings => .error ⟨subject, findings⟩
  | .ok (root, enabled, directory, files, generated, override) =>
    .ok ⟨root, enabled, directory, files, generated, override⟩

/-- The settings that the arguments describe. -/
def ofArguments (arguments : Arguments) : Action Settings := do
  match read arguments with
  | .error invalid => throw (.invalid invalid)
  | .ok settings => return settings.anchored ⟨.root, (← get).host.here⟩

/-- Arguments with those that are null left out. -/
def given (arguments : Arguments) : Arguments :=
  arguments.filter fun (_, value) =>
    match value with
    | .null => false
    | _ => true

/-- A text that may be missing, as an argument. -/
def textOrNull : Option String → Datum
  | some text => .text text
  | none => .null

/-- What the environment says about the settings. -/
def environmentArguments (environment : Environment) : Arguments := [
  ("proto_enabled", .bool environment.buildProto),
  ("generated_root", textOrNull environment.generatedRoot?),
  ("compiler_path_override", textOrNull environment.compilerPath?)]

/-- The arguments of a build: those of the caller come before the environment, and an argument
that is null in the end counts as not given. -/
def layered (environment : Environment) (root : Datum) (overrides : Arguments) : Arguments :=
  let below := ("project_root", root) :: environmentArguments environment
  given (overrides ++ below.filter fun (name, _) => (overrides.lookup name).isNone)

/-- The words for a truth value. -/
def boolText (value : Bool) : String := if value then "True" else "False"

/-- The message that shows the settings. -/
def summary (settings : Settings) : String :=
  "Build settings: proto_enabled=" ++ boolText settings.enabled ++ " output=" ++
    settings.outputDirectory.text ++ " protoc_override=" ++
    (match settings.compilerOverride with
     | some path => path.text
     | none => "None")

/-- The settings of a build of the project at `root`, with the environment read once. -/
def fromEnvironment (root : Datum) (overrides : Arguments) : Action Settings := do
  let settings ← ofArguments (layered (← get).host.environment root overrides)
  Action.logDebug settings.summary
  return settings

end Settings

end Bindery
