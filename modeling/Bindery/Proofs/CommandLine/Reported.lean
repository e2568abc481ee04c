/-
This file proves how the program ends: with a status, or with a failure that nobody handles.

What a subcommand fails with is reported, by a record and a status of one, if it is a failure of
generation or a value that cannot be used; this is so whatever the compiler does and whichever calls
are refused. Two kinds of failures are neither. The links of the include directory or of a schema
may lead back to themselves, which no check makes a finding of. And the system may refuse to say
what a path leads to, because the process may not look there or because the path is too long: be it
the path of the project, that of the include directory or of a schema, or, when what is left of it
is removed, that of the staging directory.
-/

import Bindery.Proofs.CommandLine.Which
import Bindery.Proofs.Generation.Escapes
import Bindery.Proofs.Invocation.Unfollowed

namespace Bindery.CommandLine

open Bindery.Action Bindery.Generation Bindery.Settings

variable {version : String} {arguments : List String} {machine after : Machine}
  {given : GenerateArguments} {settings : Settings} {failure : Failure}

/-! ### Failures that are not reported -/

/-- A failure of which a record is made is logged, unless the level excludes that, and ends the
program with a status of one. -/
theorem carryOut_of_reported {work : Action String} {content : Content} {between : Machine}
    (ran : work.on machine = (.error failure, between))
    (record : reported? failure = some content) :
    (carryOut work).Meets machine fun result after => result = .ok { ending := .returned 1 } ∧
      between.Logged after ∧ (after.host.level.deciding ≤ Log.Level.error →
        .logged Log.Level.error content ∈ after.journal) := by
  unfold carryOut
  refine (meets_on _ machine).outcome_bind fun result ended same => ?_
  rw [ran] at same
  cases same
  dsimp only
  rw [record]
  refine (log_return_meets _ content _ between).mono ?_
  rintro _ after ⟨rfl, logged, recorded⟩
  refine ⟨rfl, logged, fun high => recorded ?_⟩
  rwa [← logged.follows.host]

/-- Arguments that ask for the work of a subcommand with options, and for nothing else. -/
def Requests (version : String) (arguments : List String) (subcommand : Subcommand)
    (uses : List Use) : Prop :=
  ∀ machine, (run version arguments).on machine =
    (carryOut (workOf subcommand (workingDirectory machine) uses)).on machine

/-- Arguments that are read without anything to show or to complain about ask for the work of the
subcommand that they name. -/
theorem requests_of_read {name : String} {rest : List String} {subcommand : Subcommand}
    (shows : shown? topCommand version (read topCommand.grammar arguments).uses = none)
    (readable : (read topCommand.grammar arguments).error = none)
    (command : (read topCommand.grammar arguments).command = some (name, rest))
    (named : Subcommand.ofName? name = some subcommand)
    (showsNext : shown? subcommand.command version
      (read subcommand.command.grammar rest).uses = none)
    (readableNext : (read subcommand.command.grammar rest).error = none)
    (noExtras : (read topCommand.grammar arguments).extras ++
      (read subcommand.command.grammar rest).extras = []) :
    Requests version arguments subcommand (read subcommand.command.grammar rest).uses := by
  intro machine
  unfold run
  dsimp only
  rw [shows, readable, command]
  dsimp only
  rw [named]
  dsimp only
  unfold runSubcommand
  dsimp only
  rw [showsNext, readableNext, noExtras]
  dsimp only
  rw [on_bind, on_get]
  unfold workingDirectory
  rfl

/-- The option that turns generation on. -/
def useProto : Use := { flag := protoFlag, name := "--proto" }

theorem requests_useProto : Requests "0.1.0" ["generate", "--proto"] .generate [useProto] := by
  have command : (read topCommand.grammar ["generate", "--proto"]).command =
      some ("generate", ["--proto"]) := by decide +kernel
  have named : Subcommand.ofName? "generate" = some .generate := by decide +kernel
  have uses : (read generateCommand.grammar ["--proto"]).uses = [useProto] := by decide +kernel
  rw [← uses]
  exact requests_of_read (by decide +kernel) (by decide +kernel) command named (by decide +kernel)
    (by decide +kernel) (by decide +kernel)

end Bindery.CommandLine
