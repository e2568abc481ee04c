/-
This file proves what becomes of the diagnostics of a compiler that rejects a schema.

The process of the compiler ends with a status and with bytes on its two streams. Both streams are
read as texts with one kind of line end, the output first. Only if both are texts, and there is no
carriage return among the diagnostics, does the failure of the run carry what the compiler wrote; a
stream that is no text takes the place of the diagnostics with a failure of its own.
-/

import Bindery.Proofs.Generation.Escapes

namespace Bindery

open Text

/-! ### Processes -/

namespace Compiler

variable {machine : Machine} {command : List String} {report : Report}

theorem processOn_of_logged {ready : Machine} (logged : machine.Logged ready)
    (command : List String) : processOn ready command = processOn machine command := by
  unfold processOn
  rw [logged.disk, logged.follows.host]

/-- What is made of a process that ended. -/
def outcomeOf (report : Report) : Except Failure Outcome :=
  match textOf report.output, textOf report.errors with
  | .error fault, _ => .error (.value (.undecodable fault))
  | .ok _, .error fault => .error (.value (.undecodable fault))
  | .ok _, .ok text => .ok ⟨report.status, withUnixLines text⟩

theorem on_asProcess (usable : ∀ argument ∈ command, '\x00' ∉ argument.toList)
    (ended : processOn machine command = .ok report) :
    (asProcess command).on machine =
      (outcomeOf report, { machine with disk := report.disk }) := by
  have noNull : (command.any fun argument => argument.toList.contains '\x00') = false := by
    rw [List.any_eq_false]
    intro argument member
    simpa using usable argument member
  unfold asProcess
  rw [noNull, if_neg Bool.false_ne_true, Action.on_bind, Action.on_get]
  dsimp only
  rw [ended]
  unfold outcomeOf streamText
  dsimp only
  cases textOf report.output with
  | error fault => rfl
  | ok shown => cases textOf report.errors <;> rfl

end Compiler

namespace Generation

variable {lookup : Compiler.Lookup} {run : Runner} {invocation : Invocation} {policy : Policy}
  {compiler : Compiler} {staging : Path} {before machine staged : Machine}
  {report : Compiler.Report}

/-! ### The steps before and after the compiler -/

/-- What a run does before it works in the staging directory. -/
def prepare (lookup : Compiler.Lookup) (invocation : Invocation) :
    Action (Compiler × List String × Path) := do
  let compiler ←
    Compiler.resolve (invocation.compilerOverride.map Path.text) lookup Compiler.bundled
  let schemas ←
    match invocation.virtualPaths with
    | .ok schemas => pure schemas
    | .error error => throw (.value (.path error))
  Action.logInfo ("Generating bindings for " ++ join ", " schemas ++ " into " ++
    invocation.outputDirectory.text)
  let staging ← stage invocation.outputDirectory
  return (compiler, schemas, staging)

theorem body_eq_prepare : body lookup run invocation policy = (do
    let (compiler, schemas, staging) ← prepare lookup invocation
    let modules ← (work run invocation policy schemas compiler staging).andFinally
      (cleanUp staging)
    Action.logInfo ("Generated " ++ toString modules.length ++ " binding modules in " ++
      invocation.outputDirectory.text)) := by
  unfold body prepare
  cases invocation.virtualPaths with
  | error error =>
    simp only [bind_assoc]
    rfl
  | ok schemas =>
    simp only [bind_assoc, pure_bind]
    rfl

/-- What is left is removed, or stays, without a failure, unless it is withheld. -/
theorem cleanUp_ok_of_shown (shown : ∀ code, ¬ Action.Withheld machine staging code) :
    (cleanUp staging).Meets machine fun result _ => result = .ok () := by
  refine (cleanUp_removal staging machine).mono fun result after removal => ?_
  cases removal with
  | withheld code withheld => exact absurd withheld (shown code)
  | nothing | discarded => rfl

/-! ### Rejected schemas -/

/-- What a run fails with whose compiler ended with a report of failure. -/
def rejection (report : Compiler.Report) : Failure :=
  match Compiler.outcomeOf report with
  | .ok outcome => .generation (.schemaSyntax outcome.diagnostics outcome.status)
  | .error failure => failure

theorem compile_rejected {command : List String}
    (usable : ∀ argument ∈ command, '\x00' ∉ argument.toList)
    (ended : Compiler.processOn machine command = .ok report) (failed : report.status ≠ 0) :
    (compile Compiler.asProcess compiler command).on machine =
      (.error (rejection report), { machine with disk := report.disk }) := by
  unfold compile
  rw [Action.on_bind, Action.on_outcome, Compiler.on_asProcess usable ended]
  dsimp only
  unfold rejection Compiler.outcomeOf
  cases textOf report.output with
  | error fault => rfl
  | ok shown =>
    cases textOf report.errors with
    | error fault => rfl
    | ok text =>
      dsimp only
      rw [if_pos failed]
      rfl

/-- A run comes as far as the process of the compiler, which ends with a report of failure, and what
is left is not withheld. -/
inductive Rejects (lookup : Compiler.Lookup) (invocation : Invocation) (policy : Policy)
    (before : Machine) (report : Compiler.Report) : Prop
  | intro (compiler : Compiler) (schemas : List String) (staging : Path) (staged : Machine)
    (prepared : (prepare lookup invocation).on before = (.ok (compiler, schemas, staging), staged))
    (usable : ∀ argument ∈ compiler.commandLine invocation policy staging,
      '\x00' ∉ argument.toList)
    (ended : Compiler.processOn staged (compiler.commandLine invocation policy staging) =
      .ok report)
    (failed : report.status ≠ 0)
    (shown : ∀ code, ¬ Action.Withheld { staged with disk := report.disk } staging code)

theorem work_rejected {schemas : List String}
    (usable : ∀ argument ∈ compiler.commandLine invocation policy staging,
      '\x00' ∉ argument.toList)
    (ended : Compiler.processOn staged (compiler.commandLine invocation policy staging) =
      .ok report) (failed : report.status ≠ 0) :
    (work Compiler.asProcess invocation policy schemas compiler staging).Meets staged
      fun result after => result = .error (rejection report) ∧
        after.disk = report.disk ∧ after.host = staged.host := by
  unfold work
  refine (Action.log_logged _ _ staged).bind ?_ fun _ _ impossible => by cases impossible.1
  rintro _ ready ⟨-, logged, -⟩
  rw [← Compiler.processOn_of_logged logged] at ended
  unfold Action.Meets
  rw [Action.on_bind, compile_rejected usable ended failed]
  exact ⟨rfl, rfl, logged.follows.host⟩

theorem generate_rejected (rejects : Rejects lookup invocation policy before report) :
    ((generate lookup Compiler.asProcess invocation policy).on before).1 =
      .error (rejection report) := by
  obtain ⟨compiler, schemas, staging, staged, prepared, usable, ended, failed, shown⟩ := rejects
  have works : ((work Compiler.asProcess invocation policy schemas compiler staging).andFinally
      (cleanUp staging)).Meets staged fun result _ => result = .error (rejection report) := by
    refine (work_rejected usable ended failed).andFinally fun result after ⟨same, disk, host⟩ => ?_
    have look : after.look = Machine.look { staged with disk := report.disk } :=
      @Action.look_congr { staged with disk := report.disk } after host disk
    have cleaned := cleanUp_ok_of_shown fun code withheld =>
      shown code ⟨look ▸ withheld.refused, withheld.reason⟩
    exact cleaned.mono fun final last done => done ▸ same
  have stopped : (body lookup Compiler.asProcess invocation policy).Meets before
      fun result _ => result = .error (rejection report) := by
    rw [body_eq_prepare]
    refine (Action.meets_on _ before).bind ?_ ?_
    · intro value between ran
      rw [prepared] at ran
      cases ran
      refine works.bind (fun _ _ impossible => by cases impossible) fun failure _ same => ?_
      exact congrArg _ (Except.error.inj same)
    · intro failure between ran
      rw [prepared] at ran
      cases ran
  show (generate lookup Compiler.asProcess invocation policy).Meets before
    fun result _ => result = .error (rejection report)
  refine stopped.andFinally fun result between same => ?_
  refine (Action.log_logged _ _ between).mono ?_
  rintro final after ⟨rfl, -⟩
  exact same

/-! ### Diagnostics that are carried as they are -/

/-- A text is read as it is exactly if it holds no carriage return. -/
theorem withUnixLines_eq_iff (text : String) : withUnixLines text = text ↔ '\r' ∉ text.toList := by
  constructor
  · intro same
    rw [← same, withUnixLines, String.toList_ofList]
    exact cr_not_mem_unifyNewlines text.toList
  · intro absent
    rw [withUnixLines, unifyNewlines_of_not_mem _ absent, String.ofList_toList]

/-- The failure carries the text of the diagnostics exactly if that holds no carriage return and the
output is a text as well. -/
theorem rejection_eq_iff {text : String} (decoded : textOf report.errors = .ok text) :
    rejection report = .generation (.schemaSyntax text report.status) ↔
      (∃ shown, textOf report.output = .ok shown) ∧ '\r' ∉ text.toList := by
  unfold rejection Compiler.outcomeOf
  rw [decoded, ← withUnixLines_eq_iff]
  cases textOf report.output with
  | error fault => simp
  | ok shown => simp

/-- Diagnostics that are no text give way to another failure. -/
theorem exists_rejection_undecodable {fault : Utf8Fault}
    (undecoded : textOf report.errors = .error fault) :
    ∃ other, rejection report = .value (.undecodable other) := by
  unfold rejection Compiler.outcomeOf
  rw [undecoded]
  cases textOf report.output with
  | error other => exact ⟨other, rfl⟩
  | ok shown => exact ⟨fault, rfl⟩

end Generation

end Bindery
