/-
This file runs the program: it reads the arguments, shows help or the version, or carries a
subcommand out. Failures of generation and values that cannot be used are logged and end the
program with a status of one; other failures are the caller's.
-/

import Bindery.CommandLine.Usage
import Bindery.CommandLine.Wrap
import Bindery.Compiler.Process
import Bindery.Plan
import Bindery.Template.Fill

namespace Bindery.CommandLine

/-- How the program ends. -/
inductive Ending where
  /-- It returns a status. -/
  | returned (status : Nat)
  /-- It exits with a status. -/
  | exited (status : Nat)
deriving DecidableEq, Repr

/-- How the program ended, and what it wrote to its streams. -/
structure Report where
  ending : Ending
  output : String := ""
  errors : String := ""
deriving DecidableEq, Repr

/-- The arguments of the subcommand that generates bindings. -/
structure GenerateArguments where
  /-- Whether bindings are generated, if the arguments say so. -/
  enabled : Option Bool := none
  projectRoot : Path
  generatedRoot : Option Path := none
deriving DecidableEq, Repr

/-- Arguments with one option taken into account; later options win. -/
def GenerateArguments.apply (arguments : GenerateArguments) (use : Use) : GenerateArguments :=
  if use.flag = protoFlag then { arguments with enabled := some (use.name = "--proto") }
  else if use.flag = projectFlag then
    { arguments with projectRoot := Path.parse (use.value.getD "") }
  else if use.flag = generatedFlag then
    { arguments with generatedRoot := some (Path.parse (use.value.getD "")) }
  else arguments

/-- The arguments that options give to a process in a directory. -/
def GenerateArguments.ofUses (here : Path) (uses : List Use) : GenerateArguments :=
  uses.foldl apply { projectRoot := here }

/-- A truth value that may be missing, as an argument. -/
def boolOrNull : Option Bool → Datum
  | some value => .bool value
  | none => .null

/-- What the arguments put in the place of the environment. -/
def GenerateArguments.overrides (arguments : GenerateArguments) : Arguments :=
  [("proto_enabled", boolOrNull arguments.enabled),
    ("generated_root", Settings.textOrNull (arguments.generatedRoot.map Path.text))]

/-- Generates bindings by the compiler of the machine. -/
def generateReal : BuildStep.Generator := generate Compiler.onSearchPath Compiler.asProcess

/-- Generates the bindings of a project if that is turned on. -/
def runGenerate (arguments : GenerateArguments) : Action String := do
  if !(← Action.isDirectory arguments.projectRoot) then
    throw (.value (.notDirectory arguments.projectRoot))
  let settings ←
    Settings.fromEnvironment (.text arguments.projectRoot.text) arguments.overrides
  let step ← BuildStep.plan settings Policy.standard
  step.perform generateReal
  return ""

/-- Shows the compiler that generation would use. -/
def runWhich : Action String := do
  let environment := (← get).host.environment
  let compiler ← Compiler.resolve environment.compilerPath? Compiler.onSearchPath Compiler.bundled
  return compiler.source.text ++ ": " ++ compiler.describe ++ "\n"

/-- The record about a failure that is reported, if it is one that is. -/
def reported? : Failure → Option Content
  | .generation fault => some (.text fault.message)
  | .invalid error => some (.invalid error)
  | .value fault => some (.text fault.message)
  | .system _ | .linkLoop _ | .unreachable _ | .template _ => none

/-- Carries out a subcommand: what it shows, with a status of zero, or a record about its
failure, with a status of one. -/
def carryOut (work : Action String) : Action Report := do
  match ← Action.outcome work with
  | .ok output => return { ending := .returned 0, output := output }
  | .error failure =>
    match reported? failure with
    | some content =>
      Action.log Log.Level.error content
      return { ending := .returned 1 }
    | none => throw failure

/-- The width that the version is filled to. -/
def versionWidth : Nat := 78

/-- The text that shows the version. The version is part of a template in which the program
has a name. -/
def versionText (version : String) : Except Template.Fault String := do
  let values := Template.Supply.ofRecord [("prog", .text programName)]
  let filled ← Template.fill ("%(prog)s " ++ version) values
  return paragraph (fill versionWidth filled)

/-- The report of the first option that shows something and ends the program. -/
def shown? (command : Command) (version : String) (uses : List Use) :
    Option (Except Template.Fault Report) :=
  uses.findSome? fun use =>
    if use.flag = helpFlag then some (.ok { ending := .exited 0, output := command.help })
    else if use.flag = versionFlag then
      some ((versionText version).map fun text => { ending := .exited 0, output := text })
    else none

/-- A report, or the failure of a template that it was to be made from. -/
def orFailure (report : Except Template.Fault Report) : Action Report :=
  match report with
  | .ok report => pure report
  | .error fault => throw (.template fault)

/-- The report of arguments that cannot be read. -/
def refused (command : Command) (error : UsageError) : Report :=
  { ending := .exited 2, errors := command.complaint error }

/-- The work of a subcommand whose arguments were read. -/
def workOf (subcommand : Subcommand) (here : Path) (uses : List Use) : Action String :=
  match subcommand with
  | .generate => runGenerate (GenerateArguments.ofUses here uses)
  | .which => runWhich

/-- Reads the arguments of a subcommand and carries it out. Arguments that were left over
before it are complained about together with its own. -/
def runSubcommand (subcommand : Subcommand) (version : String) (leftovers : List String)
    (arguments : List String) : Action Report := do
  let command := subcommand.command
  let reading := read command.grammar arguments
  match shown? command version reading.uses, reading.error, leftovers ++ reading.extras with
  | some report, _, _ => orFailure report
  | none, some error, _ => return refused command error
  | none, none, extra :: extras => return refused topCommand (.unrecognized (extra :: extras))
  | none, none, [] =>
    carryOut (workOf subcommand ⟨.root, (← get).host.here⟩ reading.uses)

/-- Runs the program with arguments. Without a subcommand it shows help. -/
def run (version : String) (arguments : List String) : Action Report := do
  let reading := read topCommand.grammar arguments
  match shown? topCommand version reading.uses, reading.error with
  | some report, _ => orFailure report
  | none, some error => return refused topCommand error
  | none, none =>
    match reading.command with
    | some (name, rest) =>
      match Subcommand.ofName? name with
      | some subcommand => runSubcommand subcommand version reading.extras rest
      | none =>
        return refused topCommand (.noSuchCommand name topCommand.grammar.subcommands)
    | none =>
      match reading.extras with
      | extra :: extras => return refused topCommand (.unrecognized (extra :: extras))
      | [] => return { ending := .returned 0, output := topCommand.help }

/-- Runs the program as a process of its own, which exits with the status. -/
def runProcess (version : String) (arguments : List String) : Action Report := do
  let report ← run version arguments
  match report.ending with
  | .returned status => return { report with ending := .exited status }
  | .exited _ => return report

/-- The methods that a subcommand must bring along or may leave out. -/
inductive Part where
  | body
  | options
  | check
deriving DecidableEq, Repr

/-- The words for a part that a subcommand must bring along. -/
def Part.missing? : Part → Option String
  | .body | .options => some "Subclasses should implement this method"
  | .check => none

end Bindery.CommandLine
