/-
This file compares the compiler that is shown with the compiler that is run.

Both are looked for in the same way, and where there is none both subcommands fail alike. They part
over a compiler that the environment names: it is shown as it was written, but to be run it is read
as a path and written again. The two agree exactly if that changes nothing; a point in front of a
slash, for one, gets lost, and then the name is searched for.
-/

import Bindery.Proofs.CommandLine.Flags
import Bindery.Proofs.Generation.Course
import Bindery.Proofs.Generation.Work
import Bindery.Proofs.Settings.Planned

namespace Bindery

namespace Compiler

/-! ### Looking for a compiler -/

/-- What looking for a compiler comes to. -/
def chosen (override : Option String) (machine : Machine) : Except Failure Compiler :=
  match override with
  | some path => .ok ⟨[path], .override, []⟩
  | none =>
    match (foundOn machine program).filter (· ≠ "") with
    | some found => .ok ⟨[found], .searchPath, []⟩
    | none =>
      match machine.host.bundle.map (bundledAt machine.host.executable) with
      | some compiler => .ok compiler
      | none => .error (.generation (.compilerNotFound notFoundMessage none))

theorem chosen_of_logged (override : Option String) {machine ready : Machine}
    (logged : machine.Logged ready) : chosen override ready = chosen override machine := by
  unfold chosen foundOn
  rw [Action.bars_congr logged.follows.host logged.disk, logged.disk, logged.follows.host]

theorem resolve_chosen (override : Option String) (machine : Machine) :
    (resolve override onSearchPath bundled).Meets machine fun result after =>
      result = chosen override machine ∧ machine.Logged after := by
  have logs : ∀ (message : String) (compiler : Compiler), (do
      Action.logInfo message
      return compiler : Action Compiler).Meets machine fun result after =>
        result = .ok compiler ∧ machine.Logged after := fun message compiler =>
    (Action.log_return_meets _ _ compiler machine).mono fun _ _ ended => ⟨ended.1, ended.2.1⟩
  unfold resolve chosen
  cases override with
  | some path => exact logs _ _
  | none =>
    unfold onSearchPath
    simp only [bind_assoc, pure_bind]
    rw [Action.meets_get_bind]
    cases (foundOn machine program).filter (· ≠ "") with
    | some found => exact logs _ _
    | none =>
      unfold bundled
      simp only [bind_assoc, pure_bind]
      rw [Action.meets_get_bind]
      cases machine.host.bundle.map (bundledAt machine.host.executable) with
      | some compiler => exact logs _ _
      | none => exact ⟨rfl, .refl machine⟩

end Compiler

namespace Generation

/-! ### The commands of a run -/

variable {lookup : Compiler.Lookup} {run other : Runner} {invocation : Invocation}
  {policy : Policy} {compiler : Compiler} {before after : Machine}

/-- What a run comes to depends on what the commands of one compiler do, and on no other commands;
and where it succeeds, one of them did. -/
structure RunsBy (lookup : Compiler.Lookup) (compiler : Compiler) (invocation : Invocation)
    (policy : Policy) (before : Machine) : Prop where
  only : ∀ run other : Runner,
    (∀ staging, run (compiler.commandLine invocation policy staging) =
      other (compiler.commandLine invocation policy staging)) →
    (generate lookup run invocation policy).on before =
      (generate lookup other invocation policy).on before
  some : ∀ run after, (generate lookup run invocation policy).on before = (.ok (), after) →
    ∃ staging machine outcome ran,
      (run (compiler.commandLine invocation policy staging)).on machine = (.ok outcome, ran) ∧
        outcome.status = 0

/-- Finds what the run is to use. -/
def resolution (lookup : Compiler.Lookup) (invocation : Invocation) : Action Compiler :=
  Compiler.resolve (invocation.compilerOverride.map Path.text) lookup Compiler.bundled

theorem generate_congr
    (resolved : ((resolution lookup invocation).on before).1 = .ok compiler)
    (agree : ∀ staging, run (compiler.commandLine invocation policy staging) =
      other (compiler.commandLine invocation policy staging)) :
    (generate lookup run invocation policy).on before =
      (generate lookup other invocation policy).on before := by
  have compiles : ∀ staging,
      compile run compiler (compiler.commandLine invocation policy staging) =
        compile other compiler (compiler.commandLine invocation policy staging) := by
    intro staging
    unfold compile
    rw [agree]
  have bodies : (body lookup run invocation policy).on before =
      (body lookup other invocation policy).on before := by
    unfold body
    unfold resolution at resolved
    rw [Action.on_bind, Action.on_bind, resolved]
    simp only [compiles]
  unfold generate Action.andFinally
  rw [Action.on_bind, Action.on_bind, Action.on_outcome, Action.on_outcome, bodies]

/-- A run that finds no compiler fails with that. -/
theorem generate_unresolved {failure : Failure}
    (unresolved : ((resolution lookup invocation).on before).1 = .error failure) :
    ((generate lookup run invocation policy).on before).1 = .error failure := by
  have notResolved : ∀ {compiler after}, ¬ Resolved lookup invocation before compiler after := by
    rintro compiler after ⟨resolved, ran, -⟩
    unfold resolution at unresolved
    rw [ran] at unresolved
    cases unresolved
  show (generate lookup run invocation policy).Meets before fun result _ => result = .error failure
  refine (generate_course before).mono fun result after course => ?_
  cases course with
  | unresolved failure _ _ ran =>
    unfold resolution at unresolved
    rw [ran] at unresolved
    rw [Except.error.inj unresolved]
  | unlisted _ _ _ resolved => exact absurd resolved notResolved
  | unstaged _ _ resolved => exact absurd resolved notResolved
  | worked _ _ _ resolved => exact absurd resolved notResolved

/-- A run that succeeds has handed a command to the compiler that it found, which succeeded. -/
theorem ran_of_generate
    (resolved : ((resolution lookup invocation).on before).1 = .ok compiler)
    (succeeded : (generate lookup run invocation policy).on before = (.ok (), after)) :
    ∃ staging machine outcome ran,
      (run (compiler.commandLine invocation policy staging)).on machine = (.ok outcome, ran) ∧
        outcome.status = 0 := by
  have course := (generate_course before).of_on succeeded
  generalize same : Except.ok () = result at course
  cases course with
  | unresolved | unlisted | unstaged => cases same
  | worked found schemas ready resolvedIt listed staging staged stagedIt result left effort final =>
    obtain ⟨between, ranIt, -⟩ := resolvedIt
    unfold resolution at resolved
    rw [ranIt] at resolved
    cases resolved
    cases final with
    | error failure => cases same
    | ok _ =>
      cases effort with
      | uncompiled => cases same
      | unfinished => cases same
      | attempted logged compiled finished _ compiledIt =>
        obtain ⟨outcome, ran, ranIt, -, ended⟩ := (compile_ran run compiler
          (compiler.commandLine invocation policy staging) logged).of_on compiledIt
        obtain ⟨value, rfl, done⟩ := ended rfl
        exact ⟨staging, logged, value, ran, ranIt, done⟩

theorem runsBy_of_resolution
    (resolved : ((resolution lookup invocation).on before).1 = .ok compiler) :
    RunsBy lookup compiler invocation policy before :=
  ⟨fun _ _ => generate_congr resolved, fun _ _ => ran_of_generate resolved⟩

end Generation

namespace CommandLine

open Bindery.Generation Bindery.Settings

variable {arguments : GenerateArguments} {machine : Machine} {invocation : Invocation}

/-- The bindings of a project are to be generated: the project is there, generation is turned on,
and the schemas pass the checks. -/
structure Generates (machine : Machine) (arguments : GenerateArguments) (invocation : Invocation) :
    Prop where
  there : ((Action.isDirectory arguments.projectRoot).on machine).1 = .ok true
  planned : ∃ settings, ended (workingDirectory machine)
      (Settings.read (layered machine.host.environment (.text arguments.projectRoot.text)
        arguments.overrides)) = .ok settings ∧
    settings.enabled = true ∧ (settings.check.on machine).1 = .ok invocation

/-- The compiler of settings that were read. -/
theorem optional_of_read {arguments : Arguments} {settings : Settings}
    (found : Settings.read arguments = .ok settings) :
    Checked.optional arguments "compiler_path_override" none Datum.readPath? =
      .ok settings.compilerOverride := by
  unfold Settings.read at found
  dsimp only at found
  split at found
  next => cases found
  next both =>
    cases found
    obtain ⟨-, both⟩ := Invocation.both_eq_ok both
    obtain ⟨-, both⟩ := Invocation.both_eq_ok both
    obtain ⟨-, both⟩ := Invocation.both_eq_ok both
    obtain ⟨-, both⟩ := Invocation.both_eq_ok both
    exact (Invocation.both_eq_ok both).2

/-- The compiler of the settings is the one that the environment names. -/
theorem compilerOverride_read {environment : Environment} {settings : Settings} {root : Datum}
    (found : Settings.read (layered environment root arguments.overrides) = .ok settings) :
    settings.compilerOverride = environment.compilerPath?.map Path.parse := by
  have readIt := optional_of_read found
  unfold Checked.optional at readIt
  rw [lookup_layered environment root (distinct_overrides arguments)] at readIt
  have said : unlessNull ((arguments.overrides.lookup "compiler_path_override").or
      ((below environment root).lookup "compiler_path_override")) =
        unlessNull (some (textOrNull environment.compilerPath?)) := rfl
  rw [said] at readIt
  cases named : environment.compilerPath? with
  | none =>
    rw [named] at readIt
    exact (Except.ok.inj readIt).symm
  | some text =>
    rw [named] at readIt
    exact (Except.ok.inj readIt).symm

/-- The compiler of the invocation is the one that the environment names. -/
theorem Generates.compilerOverride (generates : Generates machine arguments invocation) :
    invocation.compilerOverride = machine.host.environment.compilerPath?.map Path.parse := by
  obtain ⟨settings, given, -, passed⟩ := generates.planned
  have kept := ((Invocation.asks_ofPaths _ _ _ _ machine).2 invocation passed).2.2
  cases readIt : Settings.read (layered machine.host.environment (.text arguments.projectRoot.text)
      arguments.overrides) with
  | error invalid =>
    rw [readIt] at given
    cases given
  | ok before =>
    rw [readIt] at given
    cases given
    have override := compilerOverride_read readIt
    exact kept.trans override

/-- In a project that is there, the subcommand is a build by the compiler of the machine. -/
theorem runGenerate_of_there
    (there : ((Action.isDirectory arguments.projectRoot).on machine).1 = .ok true) :
    (runGenerate arguments).on machine =
      (Settings.build (.text arguments.projectRoot.text) arguments.overrides Policy.standard
        generateReal >>= fun _ => pure "").on machine := by
  unfold runGenerate
  rw [Action.on_bind, there, (Action.looks_isDirectory _).unchanged]
  show (do
    let settings ← fromEnvironment (.text arguments.projectRoot.text) arguments.overrides
    let step ← BuildStep.plan settings Policy.standard
    step.perform generateReal
    return "" : Action String).on machine = _
  unfold Settings.build
  simp only [bind_assoc]

/-- The machine after the settings were read, on which at most a record was logged. -/
def afterSettings (machine : Machine) (arguments : GenerateArguments) : Machine :=
  ((fromEnvironment (.text arguments.projectRoot.text) arguments.overrides).on machine).2

theorem logged_afterSettings (machine : Machine) (arguments : GenerateArguments) :
    machine.Logged (afterSettings machine arguments) :=
  (fromEnvironment_meets _ _ machine).2

/-- After the settings were read, the subcommand generates. -/
theorem Generates.on (generates : Generates machine arguments invocation) :
    (runGenerate arguments).on machine =
      (generateReal invocation Policy.standard >>= fun _ => pure "").on
        (afterSettings machine arguments) := by
  obtain ⟨settings, given, enabled, passed⟩ := generates.planned
  have built := on_build Policy.standard given enabled generateReal
  rw [passed] at built
  rw [runGenerate_of_there generates.there, Action.on_bind, built, Action.on_bind]
  rfl

/-- The subcommand logs at most, and then generates. -/
theorem Generates.exists_on (generates : Generates machine arguments invocation) :
    ∃ ready, machine.Logged ready ∧ (runGenerate arguments).on machine =
      (generateReal invocation Policy.standard >>= fun _ => pure "").on ready :=
  ⟨_, logged_afterSettings machine arguments, generates.on⟩

/-- The compiler that is run where another one is shown: a name from the environment is read as a
path and written again. -/
def respelled (environment : Environment) (shown : Compiler) : Compiler :=
  match environment.compilerPath? with
  | some text => { shown with command := [(Path.parse text).text] }
  | none => shown

/-- A compiler that the environment names is chosen as it is. -/
theorem chosen_respelled (environment : Environment) (machine : Machine) :
    Compiler.chosen ((environment.compilerPath?.map Path.parse).map Path.text) machine =
      (Compiler.chosen environment.compilerPath? machine).map (respelled environment) := by
  unfold respelled
  cases named : environment.compilerPath? with
  | some text => rfl
  | none =>
    show Compiler.chosen none machine = (Compiler.chosen none machine).map fun shown => shown
    cases Compiler.chosen none machine <;> rfl

theorem respelled_command_eq_iff {environment : Environment} {machine : Machine} {shown : Compiler}
    (chosen : Compiler.chosen environment.compilerPath? machine = .ok shown) :
    (respelled environment shown).command = shown.command ↔
      ∀ text, environment.compilerPath? = some text → (Path.parse text).text = text := by
  unfold respelled
  cases named : environment.compilerPath? with
  | none => simp
  | some text =>
    rw [named] at chosen
    cases chosen
    simp

theorem runWhich_shows (machine : Machine) :
    (runWhich.on machine).1 =
      (Compiler.chosen machine.host.environment.compilerPath? machine).map fun shown =>
        shown.source.text ++ ": " ++ shown.describe ++ "\n" := by
  obtain ⟨chosen, -⟩ := Compiler.resolve_chosen machine.host.environment.compilerPath? machine
  unfold runWhich
  rw [Action.on_bind, Action.on_get]
  dsimp only
  rw [Action.on_bind, chosen]
  cases Compiler.chosen machine.host.environment.compilerPath? machine <;> rfl

theorem chosen_error {override : Option String} {machine : Machine} {failure : Failure}
    (failed : Compiler.chosen override machine = .error failure) :
    failure = .generation (.compilerNotFound Compiler.notFoundMessage none) := by
  unfold Compiler.chosen at failed
  cases override with
  | some path => cases failed
  | none =>
    dsimp only at failed
    split at failed
    next => cases failed
    next =>
      split at failed
      next => cases failed
      next => exact (Except.error.inj failed).symm

theorem shown_compiler_runs_respelled (generates : Generates machine arguments invocation) :
    ∃ ready, machine.Logged ready ∧
      (runGenerate arguments).on machine =
        (generateReal invocation Policy.standard >>= fun _ => pure "").on ready ∧
      match ((Compiler.resolve machine.host.environment.compilerPath? Compiler.onSearchPath
          Compiler.bundled).on machine).1 with
      | .error failure =>
        failure = .generation (.compilerNotFound Compiler.notFoundMessage none) ∧
          (runWhich.on machine).1 = .error failure ∧
            ((runGenerate arguments).on machine).1 = .error failure
      | .ok shown =>
        (runWhich.on machine).1 = .ok (shown.source.text ++ ": " ++ shown.describe ++ "\n") ∧
          RunsBy Compiler.onSearchPath (respelled machine.host.environment shown) invocation
            Policy.standard ready ∧
          ((respelled machine.host.environment shown).command = shown.command ↔
            ∀ text, machine.host.environment.compilerPath? = some text →
              (Path.parse text).text = text) := by
  obtain ⟨ready, logged, ran⟩ := generates.exists_on
  refine ⟨ready, logged, ran, ?_⟩
  have used : ((resolution Compiler.onSearchPath invocation).on ready).1 =
      (Compiler.chosen machine.host.environment.compilerPath? machine).map
        (respelled machine.host.environment) := by
    unfold resolution
    rw [generates.compilerOverride, (Compiler.resolve_chosen _ ready).1, chosen_respelled,
      Compiler.chosen_of_logged _ logged]
  have shows := runWhich_shows machine
  rw [(Compiler.resolve_chosen machine.host.environment.compilerPath? machine).1]
  cases chosen : Compiler.chosen machine.host.environment.compilerPath? machine with
  | error failure =>
    rw [chosen] at used shows
    refine ⟨chosen_error chosen, shows, ?_⟩
    have failed : ((generateReal invocation Policy.standard).on ready).1 = .error failure :=
      generate_unresolved used
    rw [ran, Action.on_bind, failed]
  | ok shown =>
    rw [chosen] at used shows
    exact ⟨shows, runsBy_of_resolution used, respelled_command_eq_iff chosen⟩

/-- A project that is to be compiled by a program in the working directory. -/
def localCompiler : Machine :=
  Machine.fresh { environment := [("PROTOC_PATH", "./protoc")] } projectDisk

theorem local_compiler_runs_from_search_path :
    ∃ invocation ready, localCompiler.Logged ready ∧
      (runGenerate { enabled := some true, projectRoot := Path.parse "/p" }).on localCompiler =
        (generateReal invocation Policy.standard >>= fun _ => pure "").on ready ∧
      (runWhich.on localCompiler).1 = .ok "override: ./protoc\n" ∧
      RunsBy Compiler.onSearchPath ⟨["protoc"], .override, []⟩ invocation Policy.standard
        ready := by
  have root : (Path.parse "/p").text = "/p" := by decide +kernel
  obtain ⟨settings, given, enabled, passes⟩ : ∃ settings, ended (workingDirectory localCompiler)
      (Settings.read (layered localCompiler.host.environment (.text (Path.parse "/p").text)
        [("proto_enabled", .bool true), ("generated_root", .null)])) = .ok settings ∧
      settings.enabled = true ∧ (settings.check.on localCompiler).1.isOk = true := by
    rw [root]
    exact ⟨_, rfl, by decide +kernel, by decide +kernel⟩
  cases passed : (settings.check.on localCompiler).1 with
  | error failure =>
    rw [passed] at passes
    cases passes
  | ok invocation =>
    have generates : Generates localCompiler
        { enabled := some true, projectRoot := Path.parse "/p" } invocation :=
      ⟨by decide +kernel, settings, given, enabled, passed⟩
    obtain ⟨ready, logged, ran, shown⟩ := shown_compiler_runs_respelled generates
    have named : localCompiler.host.environment.compilerPath? = some "./protoc" := by
      decide +kernel
    rw [named, (Compiler.resolve_chosen _ localCompiler).1] at shown
    obtain ⟨shows, runs, -⟩ := shown
    have respelledIt : respelled localCompiler.host.environment
        ⟨["./protoc"], .override, []⟩ = ⟨["protoc"], .override, []⟩ := by decide +kernel
    rw [respelledIt] at runs
    exact ⟨invocation, ready, logged, ran, shows.trans (by decide +kernel), runs⟩

end CommandLine

end Bindery
