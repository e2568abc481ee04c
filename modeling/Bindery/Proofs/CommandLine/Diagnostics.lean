/-
This file proves what the program reports about a schema that the compiler rejects.

The failure of generation and the record of the command line carry the diagnostics as they were
written exactly if both streams of the compiler are texts and there is no carriage return among the
diagnostics; blank diagnostics have a record of their own. Otherwise line ends are changed, or a
failure about bytes takes the place of the diagnostics.
-/

import Bindery.Proofs.CommandLine.Reported
import Bindery.Proofs.Generation.Rejected

namespace Bindery.CommandLine

open Text
open Bindery.Action Bindery.Generation Bindery.Settings

variable {version : String} {arguments : List String} {uses : List Use} {machine : Machine}
  {given : GenerateArguments} {invocation : Invocation} {report : Compiler.Report}

/-- What the record about a rejected schema says. -/
def rejectionMessage (report : Compiler.Report) : String :=
  match rejection report with
  | .generation fault => fault.message
  | .value fault => fault.message
  | _ => ""

theorem reported?_rejection (report : Compiler.Report) :
    reported? (rejection report) = some (.text (rejectionMessage report)) := by
  unfold rejectionMessage rejection Compiler.outcomeOf
  cases textOf report.output with
  | error fault => rfl
  | ok shown => cases textOf report.errors <;> rfl

/-- The record carries diagnostics that the failure carries, unless they are blank. -/
theorem rejectionMessage_eq {text : String} {status : Int}
    (carried : rejection report = .generation (.schemaSyntax text status))
    (shown : allBlank text = false) : rejectionMessage report = text := by
  rw [rejectionMessage, carried]
  dsimp only [GenerationFault.message]
  rw [shown, if_neg Bool.false_ne_true]

theorem run_rejected (requests : Requests version arguments .generate uses)
    (isGiven : given = GenerateArguments.ofUses (workingDirectory machine) uses)
    (generates : Generates machine given invocation)
    (rejects : Rejects Compiler.onSearchPath invocation Policy.standard
      (afterSettings machine given) report) :
    (run version arguments).Meets machine fun result after =>
      result = .ok { ending := .returned 1 } ∧
        (after.host.level.deciding ≤ Log.Level.error →
          .logged Log.Level.error (.text (rejectionMessage report)) ∈ after.journal) := by
  subst isGiven
  have failed : ((workOf .generate (workingDirectory machine) uses).on machine).1 =
      .error (rejection report) := by
    show ((runGenerate _).on machine).1 = _
    rw [generates.on, on_bind]
    unfold generateReal
    rw [generate_rejected rejects]
  unfold Meets
  rw [requests machine]
  obtain ⟨returned, -, recorded⟩ := carryOut_of_reported (on_eq failed) (reported?_rejection report)
  exact ⟨returned, recorded⟩

/-- A run whose compiler ends with a report of failure fails with its diagnostics as they are
exactly if the output is a text and the diagnostics are one without carriage returns. The command
line then returns one and records them, unless they are blank; where the run fails with something
else, it records that. -/
theorem diagnostics_carried_iff (report : Compiler.Report) :
    (∀ lookup invocation policy before, Rejects lookup invocation policy before report →
      ((generate lookup Compiler.asProcess invocation policy).on before).1 =
        .error (rejection report)) ∧
    (∀ version arguments uses machine given invocation,
      Requests version arguments .generate uses →
      given = GenerateArguments.ofUses (workingDirectory machine) uses →
      Generates machine given invocation →
      Rejects Compiler.onSearchPath invocation Policy.standard (afterSettings machine given)
        report →
        (run version arguments).Meets machine fun result after =>
          result = .ok { ending := .returned 1 } ∧
            (after.host.level.deciding ≤ Log.Level.error →
              .logged Log.Level.error (.text (rejectionMessage report)) ∈ after.journal)) ∧
    (∀ text, textOf report.errors = .ok text →
      (rejection report = .generation (.schemaSyntax text report.status) ↔
        (∃ shown, textOf report.output = .ok shown) ∧ '\r' ∉ text.toList) ∧
      (rejection report = .generation (.schemaSyntax text report.status) →
        allBlank text = false → rejectionMessage report = text)) ∧
    ∀ fault, textOf report.errors = .error fault →
      ∃ other, rejection report = .value (.undecodable other) :=
  ⟨fun _ _ _ _ => generate_rejected, fun _ _ _ _ _ _ => run_rejected,
    fun _ decoded => ⟨rejection_eq_iff decoded, rejectionMessage_eq⟩,
    fun _ => exists_rejection_undecodable⟩

/-- A compiler that writes one line, which ends with a carriage return and a line feed, and rejects
the schemas. -/
def rejectingCompiler : Node :=
  .file (bytesOf "#!/bin/sh\nprintf 'x.proto:1:1: bad\\r\\n' >&2\nexit 1\n") 0o755

/-- A project with its schemas, and that compiler on the search path. -/
def rejectingMachine : Machine :=
  Machine.fresh { environment := [("PATH", "/b")], here := ["p"] }
    ⟨projectDisk.entries ++ [(["b"], .directory Disk.directoryMode),
      (["b", "protoc"], rejectingCompiler)]⟩

/-- The schemas of that project, as they are compiled. -/
def rejectedInvocation : Invocation where
  includeDirectory := Path.parse "/p/schemas/protobuf"
  inputFiles := standardSchemas.map (Path.parse "/p/schemas/protobuf").child
  outputDirectory := Path.parse "/p/generated/protobuf"
  compilerOverride := none

/-- The staging directory of the run. -/
def rejectedStaging : Path := Path.parse "/p/generated/.protobuf-staging-00000001"

/-- The arguments of the run, once they are read. -/
def rejectedArguments : GenerateArguments :=
  { enabled := some true, projectRoot := workingDirectory rejectingMachine }

theorem generates_rejected :
    Generates rejectingMachine rejectedArguments rejectedInvocation := by
  have text : rejectedArguments.projectRoot.text = "/p" := by decide +kernel
  refine ⟨by decide +kernel, ?_⟩
  rw [text]
  exact ⟨_, rfl, by decide +kernel, by decide +kernel⟩

/-- The machine on which that compiler is started. -/
def rejectedStart : Machine :=
  ((prepare Compiler.onSearchPath rejectedInvocation).on
    (afterSettings rejectingMachine rejectedArguments)).2

/-- The command by which it is started. -/
def rejectedCommand : List String :=
  Compiler.commandLine ⟨["/b/protoc"], .searchPath, []⟩ rejectedInvocation Policy.standard
    rejectedStaging

set_option maxRecDepth 10000 in
theorem processOn_rejectedStart :
    (Compiler.processOn rejectedStart rejectedCommand).toOption.map (fun report =>
      (report.status, report.output, report.errors,
        (Machine.look { rejectedStart with disk := report.disk } true
          rejectedStaging).toOption.isSome)) =
      some (1, [], bytesOf "x.proto:1:1: bad\r\n", true) := by
  decide +kernel

theorem exists_rejecting_process : ∃ report, report.status = 1 ∧ report.output = [] ∧
    report.errors = bytesOf "x.proto:1:1: bad\r\n" ∧
    Rejects Compiler.onSearchPath rejectedInvocation Policy.standard
      (afterSettings rejectingMachine rejectedArguments) report := by
  have prepared : (prepare Compiler.onSearchPath rejectedInvocation).on
      (afterSettings rejectingMachine rejectedArguments) =
        (.ok (⟨["/b/protoc"], .searchPath, []⟩, standardSchemas, rejectedStaging),
          rejectedStart) := on_eq (by decide +kernel)
  have ran := processOn_rejectedStart
  cases ended : Compiler.processOn rejectedStart rejectedCommand with
  | error code =>
    rw [ended] at ran
    cases ran
  | ok report =>
    rw [ended] at ran
    obtain ⟨status, output, errors, there⟩ :
        report.status = 1 ∧ report.output = [] ∧ report.errors = bytesOf "x.proto:1:1: bad\r\n" ∧
          (Machine.look { rejectedStart with disk := report.disk } true
            rejectedStaging).toOption.isSome = true := by
      simpa [Except.toOption] using ran
    refine ⟨report, status, output, errors, .intro _ _ _ _ prepared (by decide +kernel) ended
      (by rw [status]; decide) fun code withheld => ?_⟩
    rw [withheld.refused] at there
    cases there

/-- The carriage return that the compiler wrote is not in the record. -/
theorem carriage_return_lost : ∃ report : Compiler.Report,
    report.errors = bytesOf "x.proto:1:1: bad\r\n" ∧
    (run "0.1.0" ["generate", "--proto"]).Meets rejectingMachine fun result after =>
      result = .ok { ending := .returned 1 } ∧
        (after.host.level.deciding ≤ Log.Level.error →
          .logged Log.Level.error (.text "x.proto:1:1: bad\n") ∈ after.journal) := by
  have isGiven : rejectedArguments =
      GenerateArguments.ofUses (workingDirectory rejectingMachine) [useProto] := by decide +kernel
  obtain ⟨report, status, output, errors, rejects⟩ := exists_rejecting_process
  have message : rejectionMessage report = "x.proto:1:1: bad\n" := by
    unfold rejectionMessage rejection Compiler.outcomeOf
    rw [output, errors, status]
    decide +kernel
  have ends := (diagnostics_carried_iff report).2.1 _ _ _ _ _ _ requests_useProto isGiven
    generates_rejected rejects
  rw [message] at ends
  exact ⟨report, errors, ends⟩

end Bindery.CommandLine
