/-
This file proves what preparing a private directory beside the output does to the disk.

The directories that the output's path goes through are made, and then one more directory at a
free name beside the output. When one of the steps fails, what the earlier ones made stays.
-/

import Bindery.Generation
import Bindery.Proofs.Disk.Private
import Bindery.Proofs.Machine.Calls

namespace Bindery

open Disk (Built)

namespace Action

/-! ### Making directories -/

/-- Directories that a path goes through were made, all of them if nothing failed. -/
structure MadeWay (path : Path) (before : Machine) (result : Except Failure Unit)
    (after : Machine) : Prop where
  follows : before.Follows after
  built : Built before.host.here path before.disk after.disk
  leads : result = .ok () → ∃ directory, after.disk.Leads before.host.here path directory
  keeps : ∀ kind, kind ≠ .makeDirectory → before.Keeps kind after

theorem MadeWay.failed {path : Path} {before : Machine} {result : Except Failure Unit}
    {between : Machine} (made : MadeWay path before result between) (failure : Failure) :
    MadeWay path before (.error failure) between :=
  ⟨made.follows, made.built, (fun impossible => by cases impossible), made.keeps⟩

/-- What is made for the directory above a path is made for the path. -/
theorem MadeWay.of_parent {path : Path} {before : Machine} {result : Except Failure Unit}
    {between : Machine} (made : MadeWay path.parent before result between) (failure : Failure) :
    MadeWay path before (.error failure) between :=
  ⟨made.follows, made.built.of_parent, (fun impossible => by cases impossible), made.keeps⟩

/-- What is made after other directories of the same path. -/
theorem MadeWay.trans {path : Path} {before between after : Machine}
    {first result : Except Failure Unit} (made : MadeWay path before first between)
    (more : MadeWay path between result after) : MadeWay path before result after := by
  have here : between.host.here = before.host.here := by rw [made.follows.host]
  refine ⟨made.follows.trans more.follows, made.built.trans (here ▸ more.built), fun done => ?_,
    fun kind other => (made.keeps kind other).trans (more.keeps kind other)⟩
  rw [← here]
  exact more.leads done

theorem makeDirectory_meets {path : Path} (regular : path.IsRegular)
    (absolute : path.isAbsolute = true) (before : Machine) :
    (makeDirectory path Disk.directoryMode).Meets before (MadeWay path before) := by
  refine (attempt_meets .makeDirectory [path] _ before).mono fun result after ended => ?_
  have follows := ended.follows (by decide)
  have keeps : ∀ kind, kind ≠ .makeDirectory → before.Keeps kind after :=
    fun kind other => ended.keeps other.symm
  cases ended with
  | refused | unusable => exact ⟨follows, .same, (fun impossible => by cases impossible), keeps⟩
  | done disk usable worked =>
    refine ⟨follows, .made .same ⟨[], by simp [Path.down]⟩ worked, fun _ => ?_, keeps⟩
    exact Disk.makeDirectory_leads regular absolute worked

/-- A directory that is there is accepted. -/
theorem orThere_meets (path : Path) (failure : Failure) (before : Machine) :
    (orThere path failure).Meets before (MadeWay path before) := by
  unfold orThere Meets
  rw [on_bind, on_isDirectory]
  cases answered : answer before path with
  | error refusal =>
    exact ⟨.refl before, .same, (fun impossible => by cases impossible),
      fun _ _ => .refl _ before⟩
  | ok found =>
    cases directory : found.any Node.isDirectory with
    | false =>
      simp only [Except.map, directory]
      exact ⟨.refl before, .same, (fun impossible => by cases impossible),
      fun _ _ => .refl _ before⟩
    | true =>
      simp only [Except.map, directory]
      refine ⟨.refl before, .same, fun _ => ?_, fun _ _ => .refl _ before⟩
      obtain ⟨node, found, isDirectory⟩ := (Option.any_eq_true _ _).mp directory
      rw [found] at answered
      obtain ⟨place, located⟩ := locate_of_answer answered
      cases node with
      | file | link => cases isDirectory
      | directory mode => exact ⟨place, Disk.leads_of_locate located⟩

/-- Whatever fails, only directories that the path goes through are made; if nothing fails, the
path leads to a directory. -/
theorem makeDirectoriesUpTo_meets (depth : Nat) {path : Path} (regular : path.IsRegular)
    (absolute : path.isAbsolute = true) (before : Machine) :
    (makeDirectoriesUpTo depth path).Meets before (MadeWay path before) := by
  induction depth generalizing path before with
  | zero =>
    unfold makeDirectoriesUpTo
    refine (makeDirectory_meets regular absolute before).outcome_bind fun result between made => ?_
    split
    next => exact made
    next =>
      split
      next => exact made.failed _
      next => exact (orThere_meets _ _ _).mono fun _ _ more => made.trans more
    next => exact made.failed _
  | succ depth inductionHypothesis =>
    unfold makeDirectoriesUpTo
    refine (makeDirectory_meets regular absolute before).outcome_bind fun result between made => ?_
    split
    next => exact made
    next =>
      split
      next =>
        refine (inductionHypothesis regular.parent absolute between).bind ?_ ?_
        · intro _ above madeAbove
          have madeSoFar : MadeWay path before (.error (.value .embeddedNull)) above :=
            made.trans (madeAbove.of_parent _)
          refine (makeDirectory_meets regular absolute above).outcome_bind
            fun again last madeLast => ?_
          have madeAll := madeSoFar.trans madeLast
          split
          next => exact madeAll
          next =>
            split
            next => exact madeAll.failed _
            next => exact (orThere_meets _ _ _).mono fun _ _ more => madeAll.trans more
          next => exact madeAll.failed _
        · intro failure above madeAbove
          exact made.trans (madeAbove.of_parent failure)
      next => exact (orThere_meets _ _ _).mono fun _ _ more => made.trans more
    next => exact made.failed _

theorem makeDirectories_meets {path : Path} (regular : path.IsRegular)
    (absolute : path.isAbsolute = true) (before : Machine) :
    (makeDirectories path).Meets before (MadeWay path before) :=
  makeDirectoriesUpTo_meets path.parts.length regular absolute before

/-! ### Making a temporary directory -/

/-- A new directory was made at a free name, the name with the last number that was taken. -/
structure MadeTemporary (parent : Path) (front : String) (here : Place) (disk : Disk) (path : Path)
    (number : Nat) (directory : Place) (after : Machine) : Prop where
  path_eq : path = parent.down [front ++ temporaryDigits number]
  temporary : after.nextTemporary = number + 1
  leads : disk.Leads here parent directory
  usable : holdsNull path = false
  shown : after.hides path = false
  fits : Disk.Fits path (front ++ temporaryDigits number)
  free : disk.get? (directory ++ [front ++ temporaryDigits number]) = none
  disk_eq : after.disk =
    disk.put (directory ++ [front ++ temporaryDigits number]) (.directory temporaryMode)

/-- A temporary directory is made at a free name, or nothing is made. -/
theorem makeTemporaryUpTo_meets (attempts : Nat) (parent : Path) (front : String)
    (named : ∀ number, IsName (front ++ temporaryDigits number)) (before : Machine) :
    (makeTemporaryUpTo parent front attempts).Meets before fun result after =>
      before.Onward after ∧ after.calls .rename = before.calls .rename ∧
        (∀ kind, kind ≠ .makeTemporary → before.Keeps kind after) ∧
          match result with
          | .ok path => ∃ number directory,
            MadeTemporary parent front before.host.here before.disk path number directory after
          | .error _ => after.disk = before.disk := by
  induction attempts generalizing before with
  | zero => exact ⟨.refl before, rfl, fun _ _ => .refl _ before, rfl⟩
  | succ attempts inductionHypothesis =>
    unfold makeTemporaryUpTo
    rw [meets_get_bind]
    rw [meets_set_bind]
    have started : before.Onward { before with nextTemporary := before.nextTemporary + 1 } :=
      ⟨rfl, List.suffix_refl _⟩
    have startedKeeps (kind) :
        before.Keeps kind { before with nextTemporary := before.nextTemporary + 1 } := ⟨rfl, rfl⟩
    refine (attempt_meets .makeTemporary _ _ _).outcome_bind fun result between ended => ?_
    obtain ⟨onward, temporary⟩ := ended.onward
    have renames := (ended.follows (by decide)).renames
    have keeps (kind) (other : kind ≠ .makeTemporary) :=
      (startedKeeps kind).trans (ended.keeps other.symm)
    cases ended with
    | refused code =>
      dsimp only
      split
      next =>
        refine (inductionHypothesis _).mono fun result after later => ?_
        obtain ⟨laterOnward, laterRenames, laterKeeps, outcome⟩ := later
        exact ⟨started.trans (onward.trans laterOnward), laterRenames.trans renames,
          fun kind other => (keeps kind other).trans (laterKeeps kind other), outcome⟩
      next => exact ⟨started.trans onward, renames, keeps, rfl⟩
    | unusable => exact ⟨started.trans onward, renames, keeps, rfl⟩
    | done disk usable worked shown =>
      refine ⟨started.trans onward, renames, keeps, before.nextTemporary, ?_⟩
      obtain ⟨directory, leads, fits, free, same⟩ := Disk.makeDirectory_down (named _) worked
      rw [List.any_cons, List.any_nil, Bool.or_false] at usable shown
      exact ⟨directory, rfl, rfl, leads, usable, shown, fits, free, same⟩

/-- The name of a temporary directory has a number that was not taken before. -/
theorem makeTemporaryUpTo_takes (attempts : Nat) (parent : Path) (front : String)
    (before : Machine) :
    (makeTemporaryUpTo parent front attempts).Meets before fun result after =>
      ∀ path, result = .ok path → before.nextTemporary < after.nextTemporary := by
  induction attempts generalizing before with
  | zero =>
    rintro path impossible
    cases impossible
  | succ attempts inductionHypothesis =>
    unfold makeTemporaryUpTo
    rw [meets_get_bind]
    rw [meets_set_bind]
    refine (attempt_meets .makeTemporary _ _ _).outcome_bind fun result between ended => ?_
    have taken : before.nextTemporary < between.nextTemporary := by
      rw [ended.onward.2]
      exact Nat.lt_succ_self _
    split
    next => exact fun _ _ => taken
    next =>
      split
      next =>
        exact (inductionHypothesis between).mono fun _ _ later path made =>
          Nat.lt_trans taken (later path made)
      next =>
        rintro path impossible
        cases impossible
    next =>
      rintro path impossible
      cases impossible

end Action

namespace Generation

/-! ### The staging directory -/

/-- The name of the directory that a run writes to. -/
def stagingName (output : Path) (number : Nat) : String :=
  "." ++ output.name ++ stagingMark ++ Action.temporaryDigits number

/-- The path of the directory that a run writes to. -/
def stagingPath (output : Path) (number : Nat) : Path :=
  output.parent.down [stagingName output number]

theorem isName_stagingName (output : Path) (number : Nat) : IsName (stagingName output number) := by
  refine isName_of_length ?_
  have mark : stagingMark.length = 9 := rfl
  simp only [stagingName, String.length_append, mark]
  omega

/-- The disk while a run is at work: the directories on the way to the output were made, and then
a private directory beside it. -/
structure Workspace (here : Place) (output : Path) (before base : Disk) (directory : Place)
    (number : Nat) (disk : Disk) : Prop where
  built : Built here output.parent before base
  inside : base.Fenced here output.parent directory (stagingName output number) disk

/-- The permission bits of the staging directory were to be changed, and that was refused. -/
def ModesRefused (before after : Machine) : Prop :=
  (∃ code, before.schedule .chmod (before.calls .chmod + 1) = some code) ∧
    after.calls .chmod = before.calls .chmod + 1

/-- What it comes to when the staging directory cannot be prepared: it was not made, or it was
made and its permission bits could not be changed. -/
inductive Unprepared (output : Path) (before after : Machine) : Prop
  | unmade (built : Built before.host.here output.parent before.disk after.disk)
    (keeps : before.Keeps .chmod after)
  | left (base : Disk) (directory : Place) (number : Nat)
    (workspace : Workspace before.host.here output before.disk base directory number after.disk)
    (there : after.disk.HasDirectory (directory ++ [stagingName output number]))
    (refused : ModesRefused before after)

theorem writing_meets {α : Type} {action : Action α} {output : Path} {before : Machine}
    {condition : Except Failure α → Machine → Prop} (met : action.Meets before condition) :
    (writing output action).Meets before fun result after =>
      match result with
      | .ok value => condition (.ok value) after
      | .error _ => ∃ failure, condition (.error failure) after := by
  unfold writing
  refine met.outcome_bind fun result between held => ?_
  split
  next => exact held
  next => exact ⟨_, held⟩
  next => exact ⟨_, held⟩

/-- The path of a staging directory can be used: it can be handed over, it is short enough, and it
is not hidden. -/
structure UsablePath (output : Path) (number : Nat) (machine : Machine) : Prop where
  usable : Action.holdsNull (stagingPath output number) = false
  fits : Disk.Fits (stagingPath output number) (stagingName output number)
  shown : machine.hides (stagingPath output number) = false

/-- A path can be used by one process as long as it runs. -/
theorem UsablePath.onward {output : Path} {number : Nat} {before after : Machine}
    (path : UsablePath output number before) (onward : before.Onward after) :
    UsablePath output number after :=
  ⟨path.usable, path.fits, (congrFun (Action.hides_congr onward.host) _).trans path.shown⟩

/-- The staging directory is ready for a run: it is empty, and its path can be used. -/
structure Ready (output : Path) (number : Nat) (directory : Place) (mode : Mode)
    (machine : Machine) : Prop extends UsablePath output number machine where
  temporary : machine.nextTemporary = number + 1
  empty : machine.disk.HasEmptyDirectory (directory ++ [stagingName output number]) mode

/-- What preparing the staging directory comes to. It is ready only if its permission bits were not
due to stay. -/
def Staged (output : Path) (before : Machine) (result : Except Failure Path) (after : Machine) :
    Prop :=
  before.Onward after ∧ after.calls .rename = before.calls .rename ∧ before.Keeps .discard after ∧
    match result with
    | .ok path => ∃ base directory number, path = stagingPath output number ∧
      Ready output number directory Disk.directoryMode after ∧
        Workspace before.host.here output before.disk base directory number after.disk ∧
          before.schedule .chmod (before.calls .chmod + 1) = none
    | .error _ => Unprepared output before after

/-- Changing the permission bits of the staging directory keeps it private, and works unless it is
due to fail. -/
theorem changeMode_meets {here : Place} {output : Path} (absolute : output.isAbsolute = true)
    {before base : Disk} {directory : Place} {number : Nat} {oldMode : Mode} {machine : Machine}
    (place : machine.host.here = here) (ready : Ready output number directory oldMode machine)
    (workspace : Workspace here output before base directory number machine.disk) (mode : Mode) :
    (Action.changeMode (stagingPath output number) mode).Meets machine fun result after =>
      machine.Follows after ∧ machine.Keeps .discard after ∧
        Workspace here output before base directory number after.disk ∧
          match result with
          | .ok () => Ready output number directory mode after ∧
            machine.schedule .chmod (machine.calls .chmod + 1) = none
          | .error _ => ModesRefused machine after ∧
            after.disk.HasDirectory (directory ++ [stagingName output number]) := by
  obtain ⟨⟨usable, fits, shown⟩, temporary, empty⟩ := ready
  obtain ⟨disk, works, inside, stillEmpty⟩ :=
    workspace.inside.changeMode absolute (isName_stagingName _ _) fits empty mode
  rw [← place] at works
  refine (Action.attempt_ready_meets (by simpa using usable) (by simpa using shown) works).mono ?_
  rintro (failure | _) after ended
  · obtain ⟨refused, rfl⟩ := ended
    exact ⟨machine.follows_counted (by decide) _, ⟨rfl, rfl⟩, workspace,
      ⟨refused, machine.counted_calls _⟩, ⟨_, empty.1⟩⟩
  · obtain ⟨notRefused, rfl⟩ := ended
    exact ⟨machine.follows_counted (by decide) _, ⟨rfl, rfl⟩, ⟨workspace.built, inside⟩,
      ⟨⟨usable, fits, shown⟩, temporary, stillEmpty⟩, notRefused⟩

theorem stage_meets {output : Path} (regular : output.IsRegular)
    (absolute : output.isAbsolute = true) (before : Machine) (isTree : before.disk.IsTree) :
    (stage output).Meets before (Staged output before) := by
  unfold stage
  have staged : (do
      Action.makeDirectories output.parent
      let staging ← Action.makeTemporary output.parent ("." ++ output.name ++ stagingMark)
      Action.changeMode staging Disk.directoryMode
      return staging : Action Path).Meets before (Staged output before) := by
    have parentAbsolute : output.parent.isAbsolute = true := absolute
    refine (Action.makeDirectories_meets regular.parent parentAbsolute before).bind ?_ ?_
    · intro _ between made
      have here : between.host.here = before.host.here := by rw [made.follows.host]
      have built : Built before.host.here output.parent before.disk between.disk := made.built
      have baseTree : between.disk.IsTree := built.isTree regular.parent parentAbsolute isTree
      refine (Action.makeTemporaryUpTo_meets Action.temporaryAttempts output.parent
        ("." ++ output.name ++ stagingMark) (isName_stagingName output) between).bind ?_ ?_
      · rintro path staged ⟨onward, renames, keepsStaged, number, directory, temporary⟩
        have keeps (kind) (notWay : kind ≠ .makeDirectory) (notName : kind ≠ .makeTemporary) :=
          (made.keeps kind notWay).trans (keepsStaged kind notName)
        have modes := keeps .chmod (by decide) (by decide)
        have discards := keeps .discard (by decide) (by decide)
        obtain ⟨rfl, taken, leads, usable, shown, fits, free, disk⟩ := temporary
        rw [here] at leads
        have workspace : Workspace before.host.here output before.disk between.disk directory number
            staged.disk := by
          refine ⟨built, ?_⟩
          rw [disk]
          exact Disk.Fenced.fresh parentAbsolute baseTree leads free _
        have ready : Ready output number directory Action.temporaryMode staged := by
          refine ⟨⟨usable, fits, shown⟩, taken, ?_⟩
          rw [disk]
          exact Disk.hasEmptyDirectory_put (by simp)
            (fun rest _ => baseTree.get?_under free rest) _
        have stagedHere : staged.host.here = before.host.here := by rw [onward.host, here]
        refine (changeMode_meets absolute stagedHere ready workspace Disk.directoryMode).bind ?_ ?_
        · rintro _ after ⟨follows, discardsAfter, workspaceAfter, readyAfter, notRefused⟩
          rw [modes.schedule, modes.calls] at notRefused
          exact ⟨made.follows.toOnward.trans (onward.trans follows.toOnward),
            follows.renames.trans (renames.trans made.follows.renames),
            discards.trans discardsAfter, between.disk, directory, number, rfl, readyAfter,
            workspaceAfter, notRefused⟩
        · rintro failure after ⟨follows, discardsAfter, workspaceAfter, refused, there⟩
          unfold ModesRefused at refused
          rw [modes.schedule, modes.calls] at refused
          exact ⟨made.follows.toOnward.trans (onward.trans follows.toOnward),
            follows.renames.trans (renames.trans made.follows.renames),
            discards.trans discardsAfter,
            .left between.disk directory number workspaceAfter there refused⟩
      · rintro failure after ⟨onward, renames, keepsAfter, same⟩
        have keeps (kind) (notWay : kind ≠ .makeDirectory) (notName : kind ≠ .makeTemporary) :=
          (made.keeps kind notWay).trans (keepsAfter kind notName)
        refine ⟨made.follows.toOnward.trans onward, renames.trans made.follows.renames,
          keeps _ (by decide) (by decide), .unmade ?_ (keeps _ (by decide) (by decide))⟩
        rw [same]
        exact built
    · intro failure between made
      exact ⟨made.follows.toOnward, made.follows.renames, made.keeps _ (by decide),
        .unmade made.built (made.keeps _ (by decide))⟩
  refine (writing_meets staged).mono fun result after ended => ?_
  cases result with
  | ok path => exact ended
  | error failure =>
    obtain ⟨_, same⟩ := ended
    exact same

/-- A staging directory takes a number. -/
theorem stage_takes {output : Path} (regular : output.IsRegular)
    (absolute : output.isAbsolute = true) (before : Machine) :
    (stage output).Meets before fun result after =>
      ∀ staging, result = .ok staging → before.nextTemporary < after.nextTemporary := by
  unfold stage
  have staged : (do
      Action.makeDirectories output.parent
      let staging ← Action.makeTemporary output.parent ("." ++ output.name ++ stagingMark)
      Action.changeMode staging Disk.directoryMode
      return staging : Action Path).Meets before fun result after =>
        ∀ staging, result = .ok staging → before.nextTemporary < after.nextTemporary := by
    have parentAbsolute : output.parent.isAbsolute = true := absolute
    refine (Action.makeDirectories_meets regular.parent parentAbsolute before).bind ?_ ?_
    · intro _ between made
      refine (Action.makeTemporaryUpTo_takes Action.temporaryAttempts output.parent
        ("." ++ output.name ++ stagingMark) between).bind ?_ ?_
      · intro path staged taken
        refine (Action.attempt_meets .chmod [path] _ staged).bind ?_ ?_
        · intro _ after ended
          have same := ended.onward.2
          have more := taken path rfl
          rw [made.follows.temporary, ← same] at more
          exact fun _ _ => more
        · rintro failure after - staging impossible
          cases impossible
      · rintro failure after - staging impossible
        cases impossible
    · rintro failure between - staging impossible
      cases impossible
  refine (writing_meets staged).mono fun result after ended => ?_
  cases result with
  | ok path => exact ended
  | error failure =>
    rintro staging impossible
    cases impossible

end Generation

end Bindery
