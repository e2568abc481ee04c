/-
This file takes a run of the compiler apart.

A run looks for a compiler, prepares the staging directory, works in it and removes what is left
of it; between these steps it only logs. It ends with the first step that fails, except that what
is left is removed in any case. This holds of every lookup and of every compiler, whatever they do
to the machine: what a run comes to follows from what its steps come to, each by itself.
-/

import Bindery.Compiler.Basic
import Bindery.Generation
import Bindery.Proofs.Machine.Calls

namespace Bindery

namespace Compiler

/-! ### Looking for a compiler -/

/-- How looking for a compiler can go. -/
inductive Searched (lookup : Lookup) (before : Machine) : Except Failure Compiler → Machine → Prop
  /-- A compiler was named, and nobody was asked. -/
  | named (compiler : Compiler) (after : Machine) (logged : before.Logged after) :
    Searched lookup before (.ok compiler) after
  /-- The lookup failed. -/
  | unanswered (failure : Failure) (after : Machine)
    (asked : (lookup program).on before = (.error failure, after)) :
    Searched lookup before (.error failure) after
  /-- A compiler was found by the lookup, or it is a bundled one. -/
  | found (answer : Option String) (between : Machine)
    (asked : (lookup program).on before = (.ok answer, between)) (compiler : Compiler)
    (after : Machine) (logged : between.Logged after) :
    Searched lookup before (.ok compiler) after
  /-- There is none. -/
  | missing (answer : Option String) (after : Machine)
    (asked : (lookup program).on before = (.ok answer, after)) :
    Searched lookup before (.error (.generation (.compilerNotFound notFoundMessage none))) after

theorem resolve_searched (override : Option String) (lookup : Lookup) (machine : Machine) :
    (resolve override lookup bundled).Meets machine (Searched lookup machine) := by
  unfold resolve
  split
  next path =>
    refine (Action.log_return_meets _ _ _ machine).mono ?_
    rintro _ after ⟨rfl, logged, -⟩
    exact .named _ after logged
  next =>
    refine (Action.meets_on _ machine).bind (fun answer between asked => ?_)
      fun failure after asked => .unanswered failure after asked
    have logs : ∀ (message : String) (compiler : Compiler), (do
        Action.logInfo message
        return compiler : Action Compiler).Meets between (Searched lookup machine) := by
      intro message compiler
      refine (Action.log_return_meets _ _ compiler between).mono ?_
      rintro _ after ⟨rfl, logged, -⟩
      exact .found answer between asked compiler after logged
    split
    next => exact logs _ _
    next =>
      unfold bundled
      simp only [bind_assoc, pure_bind]
      rw [Action.meets_get_bind]
      split
      next => exact logs _ _
      next => exact .missing answer between asked

end Compiler

namespace Generation

/-- What a run does with its staging directory before it removes what is left. -/
def work (run : Runner) (invocation : Invocation) (policy : Policy) (schemas : List String)
    (compiler : Compiler) (staging : Path) : Action (List String) := do
  Action.logDebug ("Running " ++ Text.join " " (compiler.commandLine invocation policy staging))
  compile run compiler (compiler.commandLine invocation policy staging)
  let modules ← finish staging invocation.outputDirectory schemas policy
  publish staging invocation.outputDirectory
  return modules

variable {lookup : Compiler.Lookup} {run : Runner} {invocation : Invocation} {policy : Policy}
  {schemas : List String} {compiler : Compiler}

/-! ### The work in the staging directory -/

/-- How the work in a staging directory can go. -/
inductive Effort (run : Runner) (invocation : Invocation) (policy : Policy) (schemas : List String)
    (compiler : Compiler) (staging : Path) (before : Machine) :
    Except Failure (List String) → Machine → Prop
  /-- The compiler failed. -/
  | uncompiled (ready : Machine) (logged : before.Logged ready) (failure : Failure)
    (after : Machine)
    (ran : (compile run compiler (compiler.commandLine invocation policy staging)).on ready =
      (.error failure, after)) :
    Effort run invocation policy schemas compiler staging before (.error failure) after
  /-- What the compiler wrote could not be made into a package. -/
  | unfinished (ready compiled : Machine) (logged : before.Logged ready)
    (compiledIt : (compile run compiler (compiler.commandLine invocation policy staging)).on ready =
      (.ok (), compiled))
    (failure : Failure) (after : Machine)
    (ran : (finish staging invocation.outputDirectory schemas policy).on compiled =
      (.error failure, after)) :
    Effort run invocation policy schemas compiler staging before (.error failure) after
  /-- The package was to take the place of the output. -/
  | attempted (ready compiled finished : Machine) (logged : before.Logged ready)
    (compiledIt : (compile run compiler (compiler.commandLine invocation policy staging)).on ready =
      (.ok (), compiled))
    (modules : List String)
    (finishedIt : (finish staging invocation.outputDirectory schemas policy).on compiled =
      (.ok modules, finished))
    (result : Except Failure Unit) (after : Machine)
    (ran : (publish staging invocation.outputDirectory).on finished = (result, after)) :
    Effort run invocation policy schemas compiler staging before (result.map fun _ => modules) after

theorem work_effort (staging : Path) (before : Machine) :
    (work run invocation policy schemas compiler staging).Meets before
      (Effort run invocation policy schemas compiler staging before) := by
  unfold work
  refine (Action.log_logged _ _ before).bind ?_ ?_
  · rintro _ ready ⟨-, logged, -⟩
    refine (Action.meets_on _ ready).bind (fun _ compiled compiledIt => ?_) fun failure after ran =>
      .uncompiled ready logged failure after ran
    refine (Action.meets_on _ compiled).bind (fun modules finished finishedIt => ?_)
      fun failure after ran => .unfinished ready compiled logged compiledIt failure after ran
    refine (Action.meets_on _ finished).bind (fun value after ran => ?_) fun failure after ran => ?_
    · exact .attempted ready compiled finished logged compiledIt modules finishedIt (.ok value)
        after ran
    · exact .attempted ready compiled finished logged compiledIt modules finishedIt
        (.error failure) after ran
  · rintro failure between ⟨impossible, -⟩
    cases impossible

/-! ### Lookups that answer -/

/-- A lookup that answers, and leaves traces in the journal at most. -/
def Answering (lookup : Compiler.Lookup) : Prop :=
  ∀ name machine, (lookup name).Meets machine fun result after =>
    (∃ found, result = .ok found) ∧ machine.Logged after

theorem answering_pure (found : Option String) : Answering fun _ => pure found :=
  fun _ machine => ⟨⟨found, rfl⟩, .refl machine⟩

theorem resolve_answering {override : Option String} (answering : Answering lookup)
    (machine : Machine) :
    (Compiler.resolve override lookup Compiler.bundled).Meets machine fun result after =>
      machine.Logged after ∧
        ∀ failure, result = .error failure → ∃ fault, failure = .generation fault := by
  refine (Compiler.resolve_searched override lookup machine).mono fun result after searched => ?_
  cases searched with
  | named _ _ logged => exact ⟨logged, fun _ impossible => by cases impossible⟩
  | unanswered _ _ asked =>
    obtain ⟨⟨_, impossible⟩, -⟩ := (answering _ machine).of_on asked
    cases impossible
  | found _ _ asked _ _ logged =>
    exact ⟨((answering _ machine).of_on asked).2.trans logged,
      fun _ impossible => by cases impossible⟩
  | missing _ _ asked =>
    exact ⟨((answering _ machine).of_on asked).2, fun _ same => ⟨_, (Except.error.inj same).symm⟩⟩

/-! ### The run -/

/-- A machine on which a compiler was found. -/
def Resolved (lookup : Compiler.Lookup) (invocation : Invocation) (before : Machine)
    (compiler : Compiler) (after : Machine) : Prop :=
  ∃ resolved, (Compiler.resolve (invocation.compilerOverride.map Path.text) lookup
    Compiler.bundled).on before = (.ok compiler, resolved) ∧ resolved.Logged after

theorem Resolved.logged {before after : Machine} (answering : Answering lookup)
    (resolved : Resolved lookup invocation before compiler after) : before.Logged after := by
  obtain ⟨between, ran, logged⟩ := resolved
  exact ((resolve_answering answering before).of_on ran).1.trans logged

/-- How a run can go. -/
inductive Course (lookup : Compiler.Lookup) (run : Runner) (invocation : Invocation)
    (policy : Policy) (before : Machine) : Except Failure Unit → Machine → Prop
  /-- No compiler was found. -/
  | unresolved (failure : Failure) (resolved after : Machine)
    (ran : (Compiler.resolve (invocation.compilerOverride.map Path.text) lookup
      Compiler.bundled).on before = (.error failure, resolved))
    (logged : resolved.Logged after) :
    Course lookup run invocation policy before (.error failure) after
  /-- A schema lies outside the include directory. -/
  | unlisted (compiler : Compiler) (error : PathError) (after : Machine)
    (resolved : Resolved lookup invocation before compiler after)
    (listed : invocation.virtualPaths = .error error) :
    Course lookup run invocation policy before (.error (.value (.path error))) after
  /-- The staging directory could not be prepared. -/
  | unstaged (compiler : Compiler) (ready : Machine)
    (resolved : Resolved lookup invocation before compiler ready) (failure : Failure)
    (stopped after : Machine)
    (ran : (stage invocation.outputDirectory).on ready = (.error failure, stopped))
    (logged : stopped.Logged after) :
    Course lookup run invocation policy before (.error failure) after
  /-- The work was done, or it failed, and then what was left was removed, or not. -/
  | worked (compiler : Compiler) (schemas : List String) (ready : Machine)
    (resolved : Resolved lookup invocation before compiler ready)
    (listed : invocation.virtualPaths = .ok schemas) (staging : Path) (staged : Machine)
    (stagedIt : (stage invocation.outputDirectory).on ready = (.ok staging, staged))
    (result : Except Failure (List String)) (left : Machine)
    (effort : Effort run invocation policy schemas compiler staging staged result left)
    (final : Except Failure Unit) (cleaned after : Machine)
    (ran : (cleanUp staging).on left = (final, cleaned)) (logged : cleaned.Logged after) :
    Course lookup run invocation policy before (final.bind fun _ => result.map fun _ => ()) after

/-- A record that is logged last does not change the course of a run. -/
theorem Course.log {before between after : Machine} {result : Except Failure Unit}
    (course : Course lookup run invocation policy before result between)
    (logged : between.Logged after) : Course lookup run invocation policy before result after := by
  cases course with
  | unresolved failure resolved _ ran first =>
    exact .unresolved failure resolved after ran (first.trans logged)
  | unlisted compiler error _ resolved listed =>
    obtain ⟨found, ran, first⟩ := resolved
    exact .unlisted compiler error after ⟨found, ran, first.trans logged⟩ listed
  | unstaged compiler ready resolved failure stopped _ ran first =>
    exact .unstaged compiler ready resolved failure stopped after ran (first.trans logged)
  | worked compiler schemas ready resolved listed staging staged stagedIt result left effort final
      cleaned _ ran first =>
    exact .worked compiler schemas ready resolved listed staging staged stagedIt result left effort
      final cleaned after ran (first.trans logged)

theorem body_course (before : Machine) :
    (body lookup run invocation policy).Meets before
      (Course lookup run invocation policy before) := by
  unfold body
  refine (Action.meets_on _ before).bind (fun compiler resolved ran => ?_) fun failure after ran =>
    .unresolved failure after after ran (.refl after)
  cases listed : invocation.virtualPaths with
  | error error => exact .unlisted compiler error resolved ⟨resolved, ran, .refl resolved⟩ listed
  | ok schemas =>
    refine (Action.log_logged _ _ resolved).bind ?_ ?_
    · rintro _ ready ⟨-, logged, -⟩
      have found : Resolved lookup invocation before compiler ready := ⟨resolved, ran, logged⟩
      refine (Action.meets_on _ ready).bind (fun staging staged stagedIt => ?_)
        fun failure after stopped => .unstaged compiler ready found failure after after stopped
          (.refl after)
      have worked : ((work run invocation policy schemas compiler staging).andFinally
          (cleanUp staging)).Meets staged fun result after =>
            Course lookup run invocation policy before (result.map fun _ => ()) after := by
        refine (work_effort staging staged).andFinally fun result left effort => ?_
        refine (Action.meets_on _ left).mono fun final after removed => ?_
        have course := Course.worked compiler schemas ready found listed staging staged stagedIt
          result left effort final after after removed (.refl after)
        cases final with
        | ok _ => exact course
        | error failure => exact course
      refine worked.bind ?_ ?_
      · rintro modules between course
        refine (Action.log_logged _ _ between).mono ?_
        rintro result after ⟨rfl, loggedLast, -⟩
        exact course.log loggedLast
      · rintro failure after course
        exact course
    · rintro failure between ⟨impossible, -⟩
      cases impossible

/-- Every run goes in one of the ways. -/
theorem generate_course (before : Machine) :
    (generate lookup run invocation policy).Meets before
      (Course lookup run invocation policy before) := by
  unfold generate
  refine (body_course before).andFinally fun result between course => ?_
  refine (Action.log_logged _ _ between).mono ?_
  rintro logged after ⟨rfl, loggedLast, -⟩
  exact course.log loggedLast

end Generation

end Bindery
