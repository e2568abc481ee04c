/-
This file holds the commands of the program with their options, and the texts that explain
them, laid out for lines of eighty characters.
-/

import Bindery.CommandLine.Option

namespace Bindery.CommandLine

open Text

/-- The name of the program. -/
def programName : String := "glide-protogen"

/-- The option that shows help. -/
def helpFlag : Flag := ⟨["-h", "--help"], false⟩

/-- The option that shows the version. -/
def versionFlag : Flag := ⟨["-v", "--version"], false⟩

/-- The option that turns generation on or off. -/
def protoFlag : Flag := ⟨["--proto", "--no-proto"], false⟩

/-- The option that names the project. -/
def projectFlag : Flag := ⟨["--project-root"], true⟩

/-- The option that names the root of generated files. -/
def generatedFlag : Flag := ⟨["--generated-root"], true⟩

/-- The subcommands. -/
inductive Subcommand where
  | generate
  | which
deriving DecidableEq, Repr

/-- The name of a subcommand. -/
def Subcommand.name : Subcommand → String
  | .generate => "generate"
  | .which => "which"

/-- The subcommand of a name. -/
def Subcommand.ofName? (name : String) : Option Subcommand :=
  [Subcommand.generate, .which].find? fun command => command.name = name

/-- A command that explains itself: its full name, its grammar and the texts about it. -/
structure Command where
  title : String
  grammar : Grammar
  usage : List String
  details : List String
deriving Repr

/-- The program without a subcommand. -/
def topCommand : Command where
  title := programName
  grammar := ⟨[helpFlag, versionFlag], ["generate", "which"]⟩
  usage := ["usage: glide-protogen [-h] [-v] \x7bgenerate,which\x7d ..."]
  details := [
    "",
    "Build-time protobuf binding generator for the client.",
    "",
    "positional arguments:",
    "  \x7bgenerate,which\x7d",
    "    generate        Compile the client schemas into Python bindings.",
    "    which           Show which protoc would be used and where it came from.",
    "",
    "options:",
    "  -h, --help        show this help message and exit",
    "  -v, --version     show program's version number and exit"]

/-- The subcommand that generates bindings. -/
def generateCommand : Command where
  title := programName ++ " generate"
  grammar := ⟨[helpFlag, protoFlag, projectFlag, generatedFlag], []⟩
  usage := [
    "usage: glide-protogen generate [-h] [--proto | --no-proto]",
    "                               [--project-root PROJECT_ROOT]",
    "                               [--generated-root GENERATED_ROOT]"]
  details := [
    "",
    "Compile the client schemas into Python bindings. Generation only runs when",
    "enabled with --proto or GLIDE_BUILD_PROTO=1; PROTOC_PATH overrides the",
    "compiler location.",
    "",
    "options:",
    "  -h, --help            show this help message and exit",
    "  --proto, --no-proto   Enable or disable generation (default:",
    "                        GLIDE_BUILD_PROTO).",
    "  --project-root PROJECT_ROOT",
    "                        Directory holding schemas/protobuf (default: cwd).",
    "  --generated-root GENERATED_ROOT",
    "                        Generated-artifact root; bindings go to",
    "                        <root>/protobuf (default: GLIDE_GENERATED_ROOT or",
    "                        <project-root>/generated)."]

/-- The subcommand that shows the compiler. -/
def whichCommand : Command where
  title := programName ++ " which"
  grammar := ⟨[helpFlag], []⟩
  usage := ["usage: glide-protogen which [-h]"]
  details := [
    "",
    "options:",
    "  -h, --help  show this help message and exit"]

/-- The command of a subcommand. -/
def Subcommand.command : Subcommand → Command
  | .generate => generateCommand
  | .which => whichCommand

/-- Lines as a text, each with its end. -/
def paragraph (lines : List String) : String := join "\n" (lines ++ [""])

/-- The help on a command. -/
def Command.help (command : Command) : String := paragraph (command.usage ++ command.details)

/-- The complaint about the arguments of a command. -/
def Command.complaint (command : Command) (error : UsageError) : String :=
  paragraph (command.usage ++ [command.title ++ ": error: " ++ error.message])

end Bindery.CommandLine
