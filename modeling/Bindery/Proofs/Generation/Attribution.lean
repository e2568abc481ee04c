/-
This file proves to whom a run that fails attributes its failure.

The refusals of the system that end a run come from three parts of it: the staging directory is
prepared, a package is made of what the compiler wrote, and the package takes the place of the
output. In the first and the last part each of them is reported as output that cannot be written,
with the refusal as the cause. While the package is made, a refusal that says that nothing is there
is taken for a file that the compiler did not emit. So it is, unless a call was due to fail as if
nothing were there: then the compiler is blamed for a file that it emitted.
-/

import Bindery.Proofs.Generation.Escapes
import Bindery.Proofs.Package.Missing

namespace Bindery

open Package

namespace Generation

/-! ### The parts of a run -/

/-- The calls that prepare a staging directory. -/
def prepareStaging (output : Path) : Action Path := do
  Action.makeDirectories output.parent
  let staging ← Action.makeTemporary output.parent ("." ++ output.name ++ stagingMark)
  Action.changeMode staging Disk.directoryMode
  return staging

/-- The calls that put a staging directory in the place of the output. -/
def swap (staging output : Path) (occupied : Bool) : Action Unit := do
  if occupied then Action.rename output (previousPath staging)
  Action.rename staging output

/-- A run until the staging directory is to be prepared. -/
def untilStaging (lookup : Compiler.Lookup) (invocation : Invocation) (schemas : List String) :
    Action Compiler := do
  let compiler ←
    Compiler.resolve (invocation.compilerOverride.map Path.text) lookup Compiler.bundled
  Action.logInfo ("Generating bindings for " ++ Text.join ", " schemas ++ " into " ++
    invocation.outputDirectory.text)
  return compiler

/-- A run until the compiler has reported success: its staging directory. -/
def untilCompiled (lookup : Compiler.Lookup) (run : Runner) (invocation : Invocation)
    (policy : Policy) (schemas : List String) : Action Path := do
  let compiler ← untilStaging lookup invocation schemas
  let staging ← stage invocation.outputDirectory
  Action.logDebug ("Running " ++ Text.join " " (compiler.commandLine invocation policy staging))
  compile run compiler (compiler.commandLine invocation policy staging)
  return staging

/-- A run until the package is to take the place of the output: its staging directory. -/
def untilFinished (lookup : Compiler.Lookup) (run : Runner) (invocation : Invocation)
    (policy : Policy) (schemas : List String) : Action Path := do
  let staging ← untilCompiled lookup run invocation policy schemas
  let _ ← finish staging invocation.outputDirectory schemas policy
  return staging

variable {lookup : Compiler.Lookup} {run : Runner} {invocation : Invocation} {policy : Policy}
  {schemas : List String} {compiler : Compiler} {output staging : Path} {fault : SystemFault}
  {machine before ready staged compiled finished left after : Machine} {failure : Failure}

/-- What a refusal is reported as where only the output can be at fault. -/
def asUnwritten (output : Path) : Failure → Failure
  | .system fault => .generation (.outputWrite output fault)
  | failure => failure

/-- What a refusal is reported as while a package is made. -/
def asUnfinished (output : Path) : Failure → Failure
  | .system fault => .generation <|
    if fault.code = Errno.noEntry then .notEmitted (fault.paths.head?.getD "None")
    else .outputWrite output fault
  | failure => failure

theorem on_stage (output : Path) (machine : Machine) :
    (stage output).on machine =
      (((prepareStaging output).on machine).1.mapError (asUnwritten output),
        ((prepareStaging output).on machine).2) := by
  have same : stage output = writing output (prepareStaging output) := rfl
  rw [same, writing, Action.on_bind, Action.on_outcome]
  cases (prepareStaging output).on machine with
  | mk result prepared =>
    cases result with
    | ok staging => rfl
    | error failure => cases failure <;> rfl

theorem on_finish (staging output : Path) (schemas : List String) (policy : Policy)
    (machine : Machine) :
    (finish staging output schemas policy).on machine =
      (((finalize staging schemas policy).on machine).1.mapError (asUnfinished output),
        ((finalize staging schemas policy).on machine).2) := by
  rw [finish, Action.on_bind, Action.on_outcome]
  cases (finalize staging schemas policy).on machine with
  | mk result finalized =>
    cases result with
    | ok modules => rfl
    | error failure =>
      cases failure with
      | system fault =>
        simp only [asUnfinished, Except.mapError]
        split <;> rfl
      | _ => rfl

/-- The run after the search for a compiler, when the schemas can be listed. -/
theorem body_eq (listed : invocation.virtualPaths = .ok schemas) :
    body lookup run invocation policy = (do
      let compiler ← untilStaging lookup invocation schemas
      let staging ← stage invocation.outputDirectory
      let modules ← Action.andFinally (work run invocation policy schemas compiler staging)
        (cleanUp staging)
      Action.logInfo ("Generated " ++ toString modules.length ++ " binding modules in " ++
        invocation.outputDirectory.text)) := by
  unfold body untilStaging
  simp only [listed, bind_assoc, pure_bind]
  rfl

/-- How long a run took is logged after it, which changes nothing about its outcome. -/
theorem generate_on (machine : Machine) :
    ((generate lookup run invocation policy).on machine).1 =
      ((body lookup run invocation policy).on machine).1 := by
  rw [generate, Action.on_andFinally]
  have logs := Action.log_logged Log.Level.debug (.text (Log.tookMessage title 0))
    ((body lookup run invocation policy).on machine).2
  cases ran : (Action.logDebug (Log.tookMessage title 0)).on
      ((body lookup run invocation policy).on machine).2 with
  | mk result after =>
    obtain ⟨same, -⟩ := logs.of_on ran
    cases same
    rfl

/-- A run whose staging directory cannot be prepared ends with that failure. -/
theorem generate_of_unstaged (listed : invocation.virtualPaths = .ok schemas)
    (found : (untilStaging lookup invocation schemas).on before = (.ok compiler, ready))
    (stopped : ((stage invocation.outputDirectory).on ready).1 = .error failure) :
    ((generate lookup run invocation policy).on before).1 = .error failure := by
  rw [generate_on, body_eq listed, Action.on_bind_of_ok found,
    Action.on_bind_of_error (Action.on_eq stopped)]

/-- A run whose work fails ends with that failure, unless what is left cannot be removed. -/
theorem generate_of_work (listed : invocation.virtualPaths = .ok schemas)
    (found : (untilStaging lookup invocation schemas).on before = (.ok compiler, ready))
    (stagedIt : (stage invocation.outputDirectory).on ready = (.ok staging, staged))
    (worked : (work run invocation policy schemas compiler staging).on staged =
      (.error failure, left)) :
    ((generate lookup run invocation policy).on before).1 =
      match ((cleanUp staging).on left).1 with
      | .ok _ => .error failure
      | .error other => .error other := by
  rw [generate_on, body_eq listed, Action.on_bind_of_ok found, Action.on_bind_of_ok stagedIt,
    Action.on_bind, Action.on_andFinally, worked]
  cases (cleanUp staging).on left with
  | mk final cleaned => cases final <;> rfl

/-- A run that came as far as its compiler reported success has found a compiler, prepared its
staging directory and logged the command that it then ran. -/
theorem untilCompiled_steps
    (ran : (untilCompiled lookup run invocation policy schemas).on before =
      (.ok staging, compiled)) :
    ∃ compiler ready staged logged, (untilStaging lookup invocation schemas).on before =
        (.ok compiler, ready) ∧
      (stage invocation.outputDirectory).on ready = (.ok staging, staged) ∧
      (Action.logDebug ("Running " ++ Text.join " "
        (compiler.commandLine invocation policy staging))).on staged = (.ok (), logged) ∧
      (compile run compiler (compiler.commandLine invocation policy staging)).on logged =
        (.ok (), compiled) := by
  obtain ⟨compiler, ready, found, ran⟩ := Action.exists_of_on_bind ran
  obtain ⟨path, staged, stagedIt, ran⟩ := Action.exists_of_on_bind ran
  obtain ⟨_, logged, records, ran⟩ := Action.exists_of_on_bind ran
  obtain ⟨_, between, compiledIt, ran⟩ := Action.exists_of_on_bind ran
  cases ran
  exact ⟨compiler, ready, staged, logged, found, stagedIt, records, compiledIt⟩

/-- Such a run now works in its staging directory. -/
theorem exists_of_untilCompiled
    (ran : (untilCompiled lookup run invocation policy schemas).on before =
      (.ok staging, compiled)) :
    ∃ compiler ready staged, (untilStaging lookup invocation schemas).on before =
        (.ok compiler, ready) ∧
      (stage invocation.outputDirectory).on ready = (.ok staging, staged) ∧
      (work run invocation policy schemas compiler staging).on staged = (do
        let modules ← finish staging invocation.outputDirectory schemas policy
        publish staging invocation.outputDirectory
        return modules : Action (List String)).on compiled := by
  obtain ⟨compiler, ready, staged, logged, found, stagedIt, records, compiledIt⟩ :=
    untilCompiled_steps ran
  refine ⟨compiler, ready, staged, found, stagedIt, ?_⟩
  rw [work, Action.on_bind_of_ok records, Action.on_bind_of_ok compiledIt]

/-! ### What is never said of files that were not emitted -/

/-- A failure that does not say that a file was not emitted. -/
def Unblaming (failure : Failure) : Prop := ∀ file, failure ≠ .generation (.notEmitted file)

/-- A compiler that knows nothing of the run it is part of: it leaves the calls that are due to fail
as they are, and does not say by itself that a file was not emitted. -/
structure Unaware (run : Runner) : Prop where
  schedule : ∀ command, Action.KeepsSchedule (run command)
  failures : ∀ command, Action.FailsOnly (run command) Unblaming

theorem failsOnly_untilStaging (answering : Answering lookup) :
    Action.FailsOnly (untilStaging lookup invocation schemas) Unblaming := by
  have resolves : Action.FailsOnly (Compiler.resolve (invocation.compilerOverride.map Path.text)
      lookup Compiler.bundled) Unblaming := by
    intro machine
    refine (Compiler.resolve_searched _ lookup machine).mono fun result after searched => ?_
    cases searched with
    | named | found => exact fun _ impossible => by cases impossible
    | unanswered _ _ asked =>
      obtain ⟨⟨_, impossible⟩, -⟩ := (answering _ machine).of_on asked
      cases impossible
    | missing =>
      rintro failure same file rfl
      cases same
  exact resolves.bind fun _ => (Action.failsOnly_log _ _).bind fun _ => Action.failsOnly_pure _

theorem failsOnly_compile (unaware : Unaware run) (compiler : Compiler) (command : List String) :
    Action.FailsOnly (compile run compiler command) Unblaming := by
  refine (unaware.failures command).outcome_bind fun result ended => ?_
  split
  next outcome =>
    dsimp only
    split
    next => exact Action.failsOnly_throw fun file impossible => by cases impossible
    next =>
      split
      next => exact Action.failsOnly_log _ _
      next => exact Action.failsOnly_pure _
  next => exact Action.failsOnly_throw fun file impossible => by cases impossible
  next failure _ => exact Action.failsOnly_throw (ended failure rfl)

theorem IsUnwritten.unblaming (unwritten : IsUnwritten output failure) : Unblaming failure := by
  obtain ⟨fault, rfl⟩ := unwritten
  intro file impossible
  cases impossible

/-- In the work, that a file was not emitted is said only while the package is made. -/
theorem finish_of_work (unaware : Unaware run) {number : Nat}
    (usable : Action.holdsNull (stagingPath invocation.outputDirectory number) = false)
    {file : String} (failed : ((work run invocation policy schemas compiler
      (stagingPath invocation.outputDirectory number)).on staged).1 =
        .error (.generation (.notEmitted file))) :
    ∃ logged compiled, (Action.logDebug ("Running " ++ Text.join " " (compiler.commandLine
        invocation policy (stagingPath invocation.outputDirectory number)))).on staged =
          (.ok (), logged) ∧
      (compile run compiler (compiler.commandLine invocation policy
        (stagingPath invocation.outputDirectory number))).on logged = (.ok (), compiled) ∧
      ((finish (stagingPath invocation.outputDirectory number) invocation.outputDirectory schemas
        policy).on compiled).1 = .error (.generation (.notEmitted file)) := by
  have ran := Action.on_eq failed
  unfold work at ran
  rcases Action.error_of_on_bind ran with stopped | ⟨_, logged, records, ran⟩
  · cases ((Action.log_logged _ _ staged).of_on stopped).1
  rcases Action.error_of_on_bind ran with stopped | ⟨_, compiled, compiledIt, ran⟩
  · exact absurd rfl ((failsOnly_compile unaware _ _ logged).of_on stopped _ rfl file)
  rcases Action.error_of_on_bind ran with stopped | ⟨modules, finished, -, ran⟩
  · exact ⟨logged, compiled, records, compiledIt, congrArg Prod.fst stopped⟩
  rcases Action.error_of_on_bind ran with stopped | ⟨_, published, -, last⟩
  · exact absurd rfl (((failsOnly_publish usable finished).of_on stopped _ rfl).unblaming file)
  · cases last

/-- That a file was not emitted is said only after the compiler reported success, while the package
is made. -/
theorem finish_of_notEmitted (answering : Answering lookup) (unaware : Unaware run)
    (listed : invocation.virtualPaths = .ok schemas) {file : String}
    (failed : ((generate lookup run invocation policy).on before).1 =
      .error (.generation (.notEmitted file))) :
    ∃ staging compiled, (untilCompiled lookup run invocation policy schemas).on before =
        (.ok staging, compiled) ∧
      ((finish staging invocation.outputDirectory schemas policy).on compiled).1 =
        .error (.generation (.notEmitted file)) := by
  rw [generate_on, body_eq listed] at failed
  rcases Action.error_of_on_bind (Action.on_eq failed) with stopped | ⟨compiler, ready, found, ran⟩
  · exact absurd rfl ((failsOnly_untilStaging answering before).of_on stopped _ rfl file)
  rcases Action.error_of_on_bind ran with stopped | ⟨staging, staged, stagedIt, ran⟩
  · rcases (stage_fails _ ready).of_on stopped with unwritten | ⟨impossible, -⟩
    · exact absurd rfl (unwritten.unblaming file)
    · cases impossible
  obtain ⟨number, rfl, usable⟩ := (stage_fails _ ready).of_on stagedIt
  rcases Action.error_of_on_bind ran with stopped | ⟨_, between, -, logs⟩
  · obtain ⟨result, left, worked, ⟨rfl, -⟩ | removed⟩ := Action.error_of_on_andFinally stopped
    · obtain ⟨logged, compiled, records, compiledIt, finishing⟩ :=
        finish_of_work unaware usable (congrArg Prod.fst worked)
      refine ⟨_, compiled, ?_, finishing⟩
      rw [untilCompiled, Action.on_bind_of_ok found, Action.on_bind_of_ok stagedIt,
        Action.on_bind_of_ok records, Action.on_bind_of_ok compiledIt]
      rfl
    · have removal := (cleanUp_removal _ left).of_on removed
      cases removal
  · cases ((Action.log_logged _ _ between).of_on logs).1

/-! ### The machine on which a package is made -/

theorem keepsSchedule_compile (unaware : Unaware run) (compiler : Compiler)
    (command : List String) : Action.KeepsSchedule (compile run compiler command) := by
  intro machine
  refine (compile_ran run compiler command machine).mono ?_
  rintro result after ⟨outcome, ran, ranIt, logged, -⟩
  exact (logged.keeps .discard).schedule.trans ((unaware.schedule command machine).of_on ranIt)

/-- A machine on which the compiler of a run reported success: the staging directory holds no links,
and its path can be used. -/
structure CompilerDone (output : Path) (before : Machine) (base : Disk) (directory : Place)
    (number : Nat) (machine : Machine) : Prop extends UsablePath output number machine where
  here : machine.host.here = before.host.here
  schedule : machine.schedule = before.schedule
  workspace : Workspace before.host.here output before.disk base directory number machine.disk
  linkless : machine.disk.Linkless (stagingPlace output number directory)

theorem exists_compiled (answering : Answering lookup)
    (confined : ConfinedRunner run invocation policy) (unaware : Unaware run)
    (regular : invocation.outputDirectory.IsRegular)
    (absolute : invocation.outputDirectory.isAbsolute = true) (isTree : before.disk.IsTree)
    (ran : (untilCompiled lookup run invocation policy schemas).on before =
      (.ok staging, compiled)) :
    ∃ base directory number, staging = stagingPath invocation.outputDirectory number ∧
      CompilerDone invocation.outputDirectory before base directory number compiled := by
  obtain ⟨compiler, ready, staged, logged, found, stagedIt, records, compiledIt⟩ :=
    untilCompiled_steps ran
  have loggedReady : before.Logged ready := by
    obtain ⟨_, resolved, resolvedIt, more⟩ := Action.exists_of_on_bind found
    obtain ⟨_, ended, recorded, last⟩ := Action.exists_of_on_bind more
    cases last
    exact ((resolve_answering answering before).of_on resolvedIt).1.trans
      ((Action.log_logged _ _ resolved).of_on recorded).2.1
  have sameDisk := loggedReady.disk
  have sameHere : ready.host.here = before.host.here := by rw [loggedReady.follows.host]
  obtain ⟨onward, -, keeps, base, directory, number, rfl, isReady, workspace, -⟩ :=
    (stage_meets regular absolute ready (sameDisk ▸ isTree)).of_on stagedIt
  rw [sameDisk, sameHere] at workspace
  have recorded := ((Action.log_logged _ _ staged).of_on records).2.1
  obtain ⟨follows, here, workspaceCompiled, linkless, -⟩ := (isReady.compile_meets compiler
    (by rw [onward.host, sameHere]) absolute workspace confined recorded).of_on compiledIt
  refine ⟨base, directory, number, rfl, isReady.toUsablePath.onward follows.toOnward, here, ?_,
    workspaceCompiled, linkless⟩
  rw [(keepsSchedule_compile unaware _ _ logged).of_on compiledIt,
    ((loggedReady.keeps .discard).trans (keeps.trans (recorded.keeps .discard))).schedule]

/-! ### To whom a failure is attributed -/

/-- What the compiler of a run wrote: the tree at the place of its staging directory. -/
def Wrote (staging : Path) (machine : Machine) (emission : Tree) : Prop :=
  ∃ directory, machine.disk.Leads machine.host.here staging.parent directory ∧
    emission = machine.disk.tree (directory ++ [staging.name])

/-- Who is said to have failed when a refusal of the system ends a run. -/
structure Attribution (lookup : Compiler.Lookup) (run : Runner) (invocation : Invocation)
    (policy : Policy) (schemas : List String) (before : Machine) : Prop where
  /-- A file is said not to be emitted only if it is the source of a module that the compiler did
  not write, or if a call that reads or writes was due to fail as if nothing were there. -/
  emission : ∀ file, ((generate lookup run invocation policy).on before).1 =
      .error (.generation (.notEmitted file)) →
    ∃ staging compiled emission, (untilCompiled lookup run invocation policy schemas).on before =
        (.ok staging, compiled) ∧ Wrote staging compiled emission ∧
      ∃ task ∈ tasksOf (modulesOf schemas) policy, file = (staging.down task.place).text ∧
        Missing (modulesOf schemas) emission before.schedule task
  /-- A refusal to prepare the staging directory means that the output cannot be written. -/
  staging : ∀ compiler ready fault,
    (untilStaging lookup invocation schemas).on before = (.ok compiler, ready) →
    ((prepareStaging invocation.outputDirectory).on ready).1 = .error (.system fault) →
      ((generate lookup run invocation policy).on before).1 =
        .error (.generation (.outputWrite invocation.outputDirectory fault))
  /-- A refusal while the package is made is about one of its files. It means that the output cannot
  be written, unless it says that nothing is there: then the file is said not to be emitted. -/
  finishing : ∀ staging compiled fault,
    (untilCompiled lookup run invocation policy schemas).on before = (.ok staging, compiled) →
    ((finalize staging schemas policy).on compiled).1 = .error (.system fault) →
      ∃ task ∈ tasksOf (modulesOf schemas) policy,
        fault.paths = [(staging.down task.place).text] ∧
        ((generate lookup run invocation policy).on before).1 =
          .error (.generation (if fault.code = Errno.noEntry then
            .notEmitted (staging.down task.place).text
          else .outputWrite invocation.outputDirectory fault))
  /-- A refusal to put the package in the place of the output means that the output cannot be
  written, unless afterwards what the path of the staging directory leads to is withheld. -/
  swapping : ∀ staging finished fault,
    (untilFinished lookup run invocation policy schemas).on before = (.ok staging, finished) →
    ((swap staging invocation.outputDirectory
      (Action.entry finished invocation.outputDirectory).isSome).on finished).1 =
        .error (.system fault) →
      ((generate lookup run invocation policy).on before).1 =
          .error (.generation (.outputWrite invocation.outputDirectory fault)) ∨
        ∃ after code, (generate lookup run invocation policy).on before =
            (.error (.system ⟨code, [staging.text]⟩), after) ∧
          Action.Withheld after staging code

theorem finalize_error (failed : ((finalize staging schemas policy).on machine).1 =
    .error failure) :
    (runTasks staging (modulesOf schemas) (tasksOf (modulesOf schemas) policy)).on machine =
      (.error failure, ((finalize staging schemas policy).on machine).2) := by
  rw [finalize_eq_runTasks, Action.on_bind] at failed ⊢
  cases ran : (runTasks staging (modulesOf schemas)
      (tasksOf (modulesOf schemas) policy)).on machine with
  | mk result between =>
    rw [ran] at failed
    cases result with
    | ok _ => cases failed
    | error other =>
      cases failed
      rfl

/-- That a file was not emitted is said for a refusal to make the package. -/
theorem finalize_of_notEmitted (usable : Action.holdsNull staging = false)
    (usableSchemas : ∀ schema ∈ schemas, '\x00' ∉ schema.toList) {file : String}
    (failed : ((finish staging output schemas policy).on machine).1 =
      .error (.generation (.notEmitted file))) :
    ∃ fault, ((finalize staging schemas policy).on machine).1 = .error (.system fault) ∧
      fault.code = Errno.noEntry ∧ file = fault.paths.head?.getD "None" := by
  rw [on_finish] at failed
  have added := addsOnlyTexts_finalize (Action.holdsNull_eq_false_iff.mp usable) usableSchemas
    policy machine
  cases ended : ((finalize staging schemas policy).on machine).1 with
  | ok modules =>
    rw [ended] at failed
    cases failed
  | error failure =>
    rw [ended] at failed
    rcases (added.of_on (Action.on_eq ended)).failed failure rfl with ⟨fault, rfl⟩ | ⟨_, rfl, -⟩
    · have same := Failure.generation.inj (Except.error.inj failed)
      split at same
      next absent => exact ⟨fault, rfl, absent, (GenerationFault.notEmitted.inj same).symm⟩
      next => cases same
    · cases failed

/-- A refusal that ends the making of the package is about one of its files. -/
theorem CompilerDone.missing {base : Disk} {directory : Place} {number : Nat}
    (came : CompilerDone output before base directory number compiled)
    (absolute : output.isAbsolute = true) (some : schemas ≠ [])
    (usableSchemas : ∀ schema ∈ schemas, '\x00' ∉ schema.toList)
    (failed : ((finalize (stagingPath output number) schemas policy).on compiled).1 =
      .error (.system fault)) :
    ∃ task ∈ tasksOf (modulesOf schemas) policy,
      fault.paths = [((stagingPath output number).down task.place).text] ∧
        (fault.code = Errno.noEntry → Missing (modulesOf schemas)
          (compiled.disk.tree (stagingPlace output number directory)) before.schedule task) := by
  rw [← came.schedule]
  have untouched : (stagingGround before.host.here base directory number absolute).Untouched
      compiled := ⟨came.here, came.workspace.inside, came.linkless⟩
  have written : modulesOf schemas ≠ [] := by
    obtain ⟨schema, inSchemas⟩ := List.exists_mem_of_ne_nil _ some
    exact List.ne_nil_of_mem (mem_modulesOf.mpr ⟨schema, inSchemas, rfl⟩)
  refine missing_of_runTasks untouched ?_ written
    (fun task member => usable_of_mem_tasksOf came.usable usableSchemas member)
    (finalize_error failed)
  intro disk inside there
  have parentAbsolute : output.parent.isAbsolute = true := absolute
  have stagingAbsolute : (stagingPath output number).isAbsolute = true := absolute
  have start : disk.HasDirectory (Disk.startOf before.host.here (stagingPath output number)) := by
    rw [Disk.startOf_of_isAbsolute stagingAbsolute]
    exact disk.hasDirectory_top
  exact ⟨inside.isTree, start, (inside.leadsNow parentAbsolute).down
    (isName_stagingName output number) came.fits.2 there, inside.linkless⟩

/-- A refusal that stops the publication is reported as output that cannot be written. -/
theorem publish_of_swap {number : Nat}
    (usable : Action.holdsNull (stagingPath output number) = false)
    (failed : ((swap (stagingPath output number) output
      (Action.entry machine output).isSome).on machine).1 = .error (.system fault)) :
    ((publish (stagingPath output number) output).on machine).1 =
      .error (.generation (.outputWrite output fault)) := by
  have usableOutput : Action.holdsNull output = false :=
    (holdsNull_stagingPath output number).symm.trans usable
  unfold publish
  rw [Action.on_bind, Action.on_entryAt?]
  dsimp only
  unfold swap at failed
  rw [Action.on_bind, Action.on_outcome, failed]
  dsimp only
  split
  next =>
    rw [previousPath_stagingPath]
    have restores : Action.FailsOnly (restore output (besidePath output number)) fun _ => False :=
      failsOnly_restore usableOutput (holdsNull_besidePath usable)
    rw [Action.on_bind]
    cases ran : (restore output (besidePath output number)).on _ with
    | mk result restored =>
      cases result with
      | ok _ => rfl
      | error other => exact ((restores _).of_on ran other rfl).elim
  next => rfl

/-- The number of a staging directory does not matter if its path is the same. -/
theorem stagingPath_of_text_eq {number again : Nat}
    (same : (stagingPath output number).text = (stagingPath output again).text) :
    stagingPath output number = stagingPath output again := by
  have names := Path.name_eq_of_text_eq (isName_stagingName _ _).1 (isName_stagingName _ _).1 same
  rw [stagingPath, names, stagingPath]

/-- The tree at the place of a staging directory is what the compiler wrote. -/
theorem CompilerDone.wrote {base : Disk} {directory : Place} {number : Nat}
    (came : CompilerDone output before base directory number compiled)
    (absolute : output.isAbsolute = true) :
    Wrote (stagingPath output number) compiled
      (compiled.disk.tree (stagingPlace output number directory)) := by
  have parent : (stagingPath output number).parent = output.parent :=
    congrArg (Path.mk output.anchor) List.dropLast_concat
  have name : (stagingPath output number).name = stagingName output number :=
    List.getLastD_concat
  refine ⟨directory, ?_, by rw [name, stagingPlace]⟩
  rw [parent, came.here]
  exact came.workspace.leadsNow absolute

/-- When the making of the package fails, so does the run. -/
theorem CompilerDone.generate_of_finish {base : Disk} {directory : Place} {number : Nat}
    (came : CompilerDone invocation.outputDirectory before base directory number compiled)
    (absolute : invocation.outputDirectory.isAbsolute = true)
    (listed : invocation.virtualPaths = .ok schemas)
    (ran : (untilCompiled lookup run invocation policy schemas).on before =
      (.ok (stagingPath invocation.outputDirectory number), compiled))
    (failed : ((finish (stagingPath invocation.outputDirectory number) invocation.outputDirectory
      schemas policy).on compiled).1 = .error failure) :
    ((generate lookup run invocation policy).on before).1 = .error failure := by
  obtain ⟨compiler, ready, staged, found, stagedIt, worked⟩ := exists_of_untilCompiled ran
  have finishedIt := Action.on_eq failed
  generalize ((finish (stagingPath invocation.outputDirectory number) invocation.outputDirectory
    schemas policy).on compiled).2 = left at finishedIt
  rw [Action.on_bind_of_error finishedIt] at worked
  obtain ⟨follows, workspace, linkless, -⟩ :=
    (finish_meets came.here absolute came.workspace came.linkless schemas policy).of_on finishedIt
  have here : left.host.here = before.host.here := by rw [follows.host, came.here]
  have leads := workspace.leadsNow absolute
  rw [← here] at leads
  have cleaned := cleanUp_ok leads (came.toUsablePath.onward follows.toOnward)
    fun target => linkless _ target List.prefix_rfl
  unfold Action.Meets at cleaned
  rw [generate_of_work listed found stagedIt worked, cleaned]

/-- A run that ends since what is left of its staging directory is withheld has asked for it. -/
theorem withheld_of_generate (answering : Answering lookup)
    (listed : invocation.virtualPaths = .ok schemas)
    (usableSchemas : ∀ schema ∈ schemas, '\x00' ∉ schema.toList) {number : Nat} {code : Errno}
    (failed : (generate lookup run invocation policy).on before =
      (.error (.system ⟨code, [(stagingPath invocation.outputDirectory number).text]⟩), after)) :
    Action.Withheld after (stagingPath invocation.outputDirectory number) code := by
  rcases isGeneration_or_escape answering listed usableSchemas failed with ⟨_, impossible⟩ | escape
  · cases impossible
  · generalize same : Failure.system _ = failure at escape
    cases escape with
    | raised _ _ _ _ _ _ foreign => exact absurd same.symm (foreign _)
    | undecodable | unusable => cases same
    | withheld again other withheld =>
      obtain ⟨rfl, texts⟩ := SystemFault.mk.inj (Failure.system.inj same)
      rw [stagingPath_of_text_eq (List.cons.inj texts).1]
      exact withheld

/-- Failures are attributed as they should, but for calls that are due to fail as if nothing were
there while a package is made. -/
theorem failures_attributed (answering : Answering lookup)
    (confined : ConfinedRunner run invocation policy) (unaware : Unaware run)
    (validated : invocation.Validated) (isTree : before.disk.IsTree) :
    ∃ schemas, invocation.virtualPaths = .ok schemas ∧
      Attribution lookup run invocation policy schemas before := by
  obtain ⟨schemas, listed, usableSchemas⟩ := validated.virtualPaths
  have regular := validated.isRegular
  have absolute := validated.isAbsolute
  have some : schemas ≠ [] := by
    rw [← List.length_pos_iff, Invocation.length_of_seenFrom listed, List.length_pos_iff]
    exact validated.inputFiles_ne_nil
  have came : ∀ {staging compiled}, (untilCompiled lookup run invocation policy schemas).on before =
      (.ok staging, compiled) → _ := fun ran =>
    exists_compiled answering confined unaware regular absolute isTree ran
  refine ⟨schemas, listed, ⟨fun file failed => ?_, fun compiler ready fault found failed => ?_,
    fun staging compiled fault ran failed => ?_, fun staging finished fault ran failed => ?_⟩⟩
  · obtain ⟨staging, compiled, ran, failed⟩ :=
      finish_of_notEmitted answering unaware listed failed
    obtain ⟨base, directory, number, rfl, came⟩ := came ran
    refine ⟨_, compiled, _, ran, came.wrote absolute, ?_⟩
    obtain ⟨fault, stopped, code, rfl⟩ := finalize_of_notEmitted came.usable usableSchemas failed
    obtain ⟨task, member, about, missing⟩ := came.missing absolute some usableSchemas stopped
    exact ⟨task, member, by rw [about]; rfl, missing code⟩
  · refine generate_of_unstaged listed found ?_
    rw [on_stage, failed]
    rfl
  · obtain ⟨base, directory, number, rfl, came⟩ := came ran
    obtain ⟨task, member, about, -⟩ := came.missing absolute some usableSchemas failed
    refine ⟨task, member, about, came.generate_of_finish absolute listed ran ?_⟩
    rw [on_finish, failed, Except.mapError, asUnfinished, about]
    rfl
  · obtain ⟨_, compiled, ran, more⟩ := Action.exists_of_on_bind ran
    obtain ⟨modules, _, finishedIt, last⟩ := Action.exists_of_on_bind more
    cases last
    obtain ⟨base, directory, number, rfl, came⟩ := came ran
    obtain ⟨compiler, ready, staged, found, stagedIt, worked⟩ := exists_of_untilCompiled ran
    have stopped := Action.on_eq (publish_of_swap came.usable failed)
    generalize ((publish (stagingPath invocation.outputDirectory number)
      invocation.outputDirectory).on finished).2 = left at stopped
    rw [Action.on_bind_of_ok finishedIt, Action.on_bind_of_error stopped] at worked
    have ended := generate_of_work listed found stagedIt worked
    have removal := cleanUp_removal (stagingPath invocation.outputDirectory number) left
    unfold Action.Meets at removal
    generalize (cleanUp (stagingPath invocation.outputDirectory number)).on left = cleaned
      at removal ended
    obtain ⟨final, last⟩ := cleaned
    cases removal with
    | nothing | discarded => exact .inl ended
    | withheld code => exact .inr ⟨_, code, Action.on_eq ended,
        withheld_of_generate answering listed usableSchemas (Action.on_eq ended)⟩

theorem unaware_writerTo (compiler : Compiler) (invocation : Invocation) (policy : Policy)
    (number : Nat) (name text : String) :
    Unaware (writerTo compiler invocation policy number name text) := by
  constructor
  · intro command
    unfold writerTo writer
    split
    next =>
      exact (Action.keepsSchedule_attempt .write _ _).bind fun _ => Action.keepsSchedule_pure _
    next => exact Action.keepsSchedule_pure _
  · intro command
    unfold writerTo writer
    split
    next =>
      refine ((Action.failsOnly_attempt .write _ _).mono ?_).bind fun _ => Action.failsOnly_pure _
      rintro failure ofCalls file rfl
      cases ofCalls
    next => exact Action.failsOnly_pure _

/-- A machine on which the first write after that of the compiler fails as if nothing were there. -/
def feigning : Machine :=
  { bare with schedule := fun kind count =>
      if kind = .write ∧ count = 2 then some Errno.noEntry else none }

/-- The compiler is blamed for a module that it wrote. -/
theorem emitted_module_blamed :
    (generateOneSchema "/out" feigning).1 =
        .error (.generation (.notEmitted "/.out-staging-00000001/x_pb2.py")) ∧
      (((untilCompiled foundInstalled (writesBindings "/out" .standard) (oneSchema "/out") .standard
        ["x.proto"]).on feigning).2.disk.get? [".out-staging-00000001", "x_pb2.py"]).isSome = true ∧
      ∃ schemas, (oneSchema "/out").virtualPaths = .ok schemas ∧
        Attribution foundInstalled (writesBindings "/out" .standard) (oneSchema "/out") .standard
          schemas feigning :=
  ⟨by decide +kernel, by decide +kernel, failures_attributed (answering_pure _)
    (confined_writesBindings (by decide +kernel) _) (unaware_writerTo _ _ _ _ _ _)
    (validated_oneSchema feigning rfl (by decide +kernel))
    (Disk.isTree_of_entries (by decide +kernel))⟩

end Generation

end Bindery
