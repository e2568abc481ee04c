/-
This file proves what the checks of an invocation look at, and what they leave of what was given.

They look at the process and the disk alone: on two machines that agree in these they come to the
same end. An invocation of given paths keeps the compiler that it was given; its include directory
is the given one without links and points, and its output directory the given one seen from the top.
-/

import Bindery.Proofs.Invocation.Validated

namespace Bindery

namespace Action

variable {α β : Type}

/-! ### Actions that only look -/

/-- An action looks at the process and the disk alone, and changes nothing. -/
def Looks (action : Action α) : Prop :=
  ∀ machine other : Machine, other.host = machine.host → other.disk = machine.disk →
    action.on other = ((action.on machine).1, other)

theorem Looks.unchanged {action : Action α} (looks : Looks action) (machine : Machine) :
    (action.on machine).2 = machine :=
  congrArg Prod.snd (looks machine machine rfl rfl)

/-- Records that were logged do not matter to what only looks. -/
theorem Looks.on_logged {action : Action α} (looks : Looks action) {machine other : Machine}
    (logged : machine.Logged other) : action.on other = ((action.on machine).1, other) :=
  looks machine other logged.follows.host logged.disk

theorem looks_pure (value : α) : Looks (pure value) := fun _ _ _ _ => rfl

theorem looks_throw (failure : Failure) : Looks (throw failure : Action α) := fun _ _ _ _ => rfl

theorem Looks.bind {action : Action α} {next : α → Action β} (first : Looks action)
    (rest : ∀ value, Looks (next value)) : Looks (action >>= next) := by
  intro machine other host disk
  rw [on_bind, on_bind, first machine other host disk, first.unchanged]
  cases (action.on machine).1 with
  | ok value => exact rest value machine other host disk
  | error failure => rfl

theorem Looks.outcome {action : Action α} (looks : Looks action) : Looks action.outcome := by
  intro machine other host disk
  rw [on_outcome, on_outcome, looks machine other host disk]

/-- Asking for the machine, for the sake of its process and its disk. -/
theorem looks_get_bind {next : Machine → Action α} (looks : ∀ machine, Looks (next machine))
    (congr : ∀ machine other : Machine, other.host = machine.host → other.disk = machine.disk →
      next other = next machine) : Looks (get >>= next) := by
  intro machine other host disk
  rw [on_bind, on_bind, on_get, on_get]
  dsimp only
  rw [congr machine other host disk]
  exact looks machine machine other host disk

theorem looks_usable (paths : List Path) : Looks (usable paths) := by
  unfold usable
  split
  next => exact looks_throw _
  next => exact looks_pure ()

theorem looks_nodeAt? (path : Path) : Looks (nodeAt? path) := by
  intro machine other host disk
  rw [on_nodeAt?, on_nodeAt?]
  unfold answer
  rw [look_congr host disk]

theorem looks_isDirectory (path : Path) : Looks (isDirectory path) :=
  (looks_nodeAt? path).bind fun _ => looks_pure _

theorem looks_isFile (path : Path) : Looks (isFile path) :=
  (looks_nodeAt? path).bind fun _ => looks_pure _

theorem looks_resolve (path : Path) : Looks (resolve path) := by
  refine (looks_usable [path]).bind fun _ => looks_get_bind (fun machine => ?_) ?_
  · dsimp only
    split
    next => exact looks_pure _
    next =>
      split
      next => exact looks_throw _
      next => exact looks_pure _
  · intro machine other host disk
    rw [look_congr host disk, realPath_congr host disk]

theorem looks_absolute (path : Path) : Looks (absolute path) :=
  looks_get_bind (fun _ => looks_pure _) fun _ _ host _ => by rw [host]

/-- What is asked is answered. -/
theorem Looks.asks {action : Action α} (looks : Looks action) :
    Asks action fun machine value => action.on machine = (.ok value, machine) := by
  intro machine
  refine (meets_on action machine).mono fun result after ran => ?_
  have same : after = machine := by
    rw [← looks.unchanged machine, ran]
  refine ⟨same, fun value done => ?_⟩
  rw [done, same] at ran
  exact ran

end Action

namespace Invocation

open Bindery.Action

/-! ### Checks only look -/

theorem looks_asFinding {α : Type} {action : Action α} (looks : Looks action) :
    Looks (asFinding action) := by
  refine looks.outcome.bind fun result => ?_
  split
  next => exact looks_pure _
  next => exact looks_pure _
  next => exact looks_throw _

theorem looks_andCheck {α β : Type} (value : Checked α) {check : α → Action (Checked β)}
    (looks : ∀ value, Looks (check value)) : Looks (andCheck value check) := by
  unfold andCheck
  split
  next => exact looks _
  next => exact looks_pure _

theorem looks_checkInclude (path : Path) : Looks (checkInclude path) := by
  refine (looks_asFinding (looks_resolve path)).bind fun checked => ?_
  split
  next => exact looks_pure _
  next real =>
    refine (looks_isDirectory real).bind fun isDirectory => ?_
    split
    next => exact looks_pure _
    next => exact looks_pure _

theorem looks_checkFiles (directory : Path) (accepted files : List Path) :
    Looks (checkFiles directory accepted files) := by
  induction files generalizing accepted with
  | nil => exact looks_pure _
  | cons file rest inductionHypothesis =>
    refine (looks_resolve (directory ++ file)).bind fun real => ?_
    split
    next => exact looks_pure _
    next =>
      refine (looks_isFile real).bind fun isFile => ?_
      split
      next => exact looks_pure _
      next =>
        split
        next => exact looks_pure _
        next => exact inductionHypothesis _

theorem looks_checkSchemas (directory : Path) (files : List Path) :
    Looks (checkSchemas directory files) := by
  unfold checkSchemas
  split
  next => exact looks_pure _
  next =>
    refine (looks_asFinding (looks_checkFiles directory [] files)).bind fun checked => ?_
    split <;> exact looks_pure _

theorem looks_assemble (includeDirectory : Checked Path) (inputFiles : Checked (List Path))
    (outputDirectory : Checked Path) (compilerOverride : Checked (Option Path)) :
    Looks (assemble includeDirectory inputFiles outputDirectory compilerOverride) := by
  unfold assemble
  refine (looks_andCheck _ fun path => (looks_checkInclude path).bind fun _ => looks_pure _).bind
    fun directory => ?_
  refine (looks_andCheck _ fun path => (looks_absolute path).bind fun _ => looks_pure _).bind
    fun output => ?_
  split
  next => exact looks_throw _
  next directory files output override _ =>
    refine (looks_checkSchemas directory files).bind fun checked => ?_
    split
    next => exact looks_throw _
    next => exact looks_pure _

theorem looks_ofPaths (includeDirectory : Path) (inputFiles : List Path) (outputDirectory : Path)
    (compilerOverride : Option Path) :
    Looks (ofPaths includeDirectory inputFiles outputDirectory compilerOverride) :=
  looks_assemble _ _ _ _

/-! ### What becomes of given paths -/

theorem asks_checkInclude_resolve (path : Path) :
    Asks (checkInclude path) fun machine checked =>
      ∀ real, checked = .ok real → (resolve path).on machine = (.ok real, machine) := by
  refine (asks_asFinding (looks_resolve path).asks).bind fun checked => ?_
  split
  next =>
    refine (asks_pure _).mono ?_
    rintro machine _ rfl - real impossible
    cases impossible
  next real =>
    refine (asks_isDirectory real).bind fun isDirectory => ?_
    split
    next =>
      refine (asks_pure _).mono ?_
      rintro machine _ rfl - resolved again same
      cases same
      exact resolved real rfl
    next =>
      refine (asks_pure _).mono ?_
      rintro machine _ rfl - - again impossible
      cases impossible

theorem asks_includeField (includeDirectory : Path) :
    Asks (andCheck (.ok includeDirectory) fun path => do
      return Checked.under (.field "include_directory") (← checkInclude path))
      fun machine checked => ∀ real, checked = .ok real →
        (resolve includeDirectory).on machine = (.ok real, machine) := by
  refine (asks_checkInclude_resolve includeDirectory).bind fun checked => ?_
  refine (asks_pure _).mono ?_
  rintro machine _ rfl resolved real same
  cases checked with
  | error findings => cases same
  | ok found =>
    cases same
    exact resolved real rfl

theorem asks_ofPaths (includeDirectory : Path) (inputFiles : List Path) (outputDirectory : Path)
    (compilerOverride : Option Path) :
    Asks (ofPaths includeDirectory inputFiles outputDirectory compilerOverride)
      fun machine invocation =>
        (resolve includeDirectory).on machine = (.ok invocation.includeDirectory, machine) ∧
          invocation.outputDirectory = Path.absolute ⟨.root, machine.host.here⟩ outputDirectory ∧
            invocation.compilerOverride = compilerOverride := by
  have seesOutput : Asks (andCheck (.ok outputDirectory) fun path => do
      return .ok (← Action.absolute path)) fun machine checked =>
        checked = .ok (Path.absolute ⟨.root, machine.host.here⟩ outputDirectory) :=
    fun _ => ⟨rfl, fun _ same => (Except.ok.inj same).symm⟩
  unfold ofPaths assemble
  refine (asks_includeField includeDirectory).bind fun directory =>
    seesOutput.bind fun checkedOutput => ?_
  split
  next => exact asks_throw _
  next directory files outputPath override both =>
    obtain ⟨included, others⟩ := both_eq_ok both
    obtain ⟨-, others⟩ := both_eq_ok others
    obtain ⟨given, kept⟩ := both_eq_ok others
    refine (asks_checkSchemas directory files).bind fun checked => ?_
    split
    next => exact asks_throw _
    next real =>
      refine (asks_pure _).mono ?_
      rintro machine _ rfl - same resolved
      rw [same] at given
      exact ⟨resolved directory included, (Except.ok.inj given).symm, (Except.ok.inj kept).symm⟩

end Invocation

end Bindery
