/-
This file follows a run of the compiler from the staging directory to its end.

What the compiler may do is stated by the directory that it writes to: it touches nothing else. A
run that ends before the publication leaves everything outside the staging directory as it was;
one that is published leaves there what was emitted, made into a package.
-/

import Bindery.Proofs.Generation.Publication
import Bindery.Proofs.Machine.Discards
import Bindery.Proofs.Machine.Failures
import Bindery.Proofs.Package.Rework

namespace Bindery

open Disk (Built SameOutside)
open Package

namespace Generation

/-! ### What the compiler may do -/

/-- A path leads to an empty directory of a machine, readable like any other. -/
structure Prepared (machine : Machine) (path : Path) (place : Place) : Prop where
  isTree : machine.disk.IsTree
  leads : machine.disk.Leads machine.host.here path place
  empty : machine.disk.HasEmptyDirectory place Disk.directoryMode

/-- A command that is to write to a directory touches nothing else, however it ends, and leaves
files and directories there. -/
def Confined (run : Runner) (command : List String) (path : Path) : Prop :=
  ∀ machine place, Prepared machine path place → (run command).Meets machine fun _ after =>
    machine.Follows after ∧ after.disk.IsTree ∧ SameOutside [place] machine.disk after.disk ∧
      ∀ each target, place <+: each → after.disk.get? each ≠ some (.link target)

/-- A command that is to write to a directory touches nothing else, whatever it leaves there. -/
def Contained (run : Runner) (command : List String) (path : Path) : Prop :=
  ∀ machine place, Prepared machine path place → (run command).Meets machine fun _ after =>
    machine.Follows after ∧ after.disk.IsTree ∧ SameOutside [place] machine.disk after.disk

/-- A command that is to write to a directory leaves no links there. -/
def LeavesNoLinks (run : Runner) (command : List String) (path : Path) : Prop :=
  ∀ machine place, Prepared machine path place → (run command).Meets machine fun _ after =>
    after.disk.Linkless place

/-- A command that is to write to a directory leaves it there, or nothing. -/
def LeavesDirectory (run : Runner) (command : List String) (path : Path) : Prop :=
  ∀ machine place, Prepared machine path place → (run command).Meets machine fun _ after =>
    after.disk.Removable place

theorem confined_iff {run : Runner} {command : List String} {path : Path} :
    Confined run command path ↔ Contained run command path ∧ LeavesNoLinks run command path := by
  constructor
  · intro confined
    refine ⟨fun machine place prepared => (confined machine place prepared).mono ?_,
      fun machine place prepared => (confined machine place prepared).mono ?_⟩
    · exact fun _ _ ⟨follows, isTree, same, _⟩ => ⟨follows, isTree, same⟩
    · exact fun _ _ ⟨_, _, _, linkless⟩ => linkless
  · rintro ⟨contained, linkless⟩ machine place prepared
    refine ((contained machine place prepared).and (linkless machine place prepared)).mono ?_
    exact fun _ _ ⟨⟨follows, isTree, same⟩, linkless⟩ => ⟨follows, isTree, same, linkless⟩

/-- A tree that a command that succeeds may leave in the directory that it is to write to. -/
def Emitted (run : Runner) (command : List String) (path : Path) (tree : Tree) : Prop :=
  ∃ machine place outcome after, Prepared machine path place ∧
    (run command).on machine = (.ok outcome, after) ∧ outcome.status = 0 ∧
      after.disk.tree place = tree

/-- Looking for a compiler leaves the machine as it is, but for the journal. -/
def Quiet (lookup : Compiler.Lookup) : Prop :=
  ∀ name machine, (lookup name).Meets machine fun _ after =>
    machine.Follows after ∧ after.disk = machine.disk

variable {here directory : Place} {output : Path} {number : Nat} {before base disk : Disk}

/-! ### The staging directory during a run -/

theorem Workspace.leadsNow (workspace : Workspace here output before base directory number disk)
    (absolute : output.isAbsolute = true) : disk.Leads here output.parent directory :=
  have parentAbsolute : output.parent.isAbsolute = true := absolute
  workspace.inside.leadsNow parentAbsolute

/-- The base of a run, on which the staging directory is still to be made. -/
theorem Workspace.atBase (workspace : Workspace here output before base directory number disk) :
    Workspace here output before base directory number base := by
  exact ⟨workspace.built, workspace.inside.leads, workspace.inside.free,
    workspace.inside.baseTree, workspace.inside.baseTree, fun _ _ => rfl⟩

theorem Workspace.sameOutside
    (workspace : Workspace here output before base directory number disk) :
    SameOutside [stagingPlace output number directory] base disk := fun place beside =>
  workspace.inside.outside place (beside _ List.mem_cons_self)

/-- The directory of the output is found where it was when only the staging directory changed. -/
theorem Workspace.leads_after (workspace : Workspace here output before base directory number disk)
    (absolute : output.isAbsolute = true) {other : Disk}
    (same : SameOutside [stagingPlace output number directory] base other) :
    other.Leads here output.parent directory := by
  have parentAbsolute : output.parent.isAbsolute = true := absolute
  refine workspace.inside.leads.keep parentAbsolute fun place node found _ => ?_
  refine (same place fun top member => ?_).trans found
  rw [List.mem_singleton.mp member]
  rintro ⟨rest, rfl⟩
  rw [stagingPlace, workspace.inside.baseTree.get?_under workspace.inside.free rest] at found
  cases found

/-- What touches only the staging directory keeps the workspace. -/
theorem Workspace.step (workspace : Workspace here output before base directory number disk)
    {after : Disk} (isTree : after.IsTree)
    (same : SameOutside [stagingPlace output number directory] disk after) :
    Workspace here output before base directory number after := by
  refine ⟨workspace.built, workspace.inside.leads, workspace.inside.free, isTree,
    workspace.inside.baseTree, fun place beside => ?_⟩
  rw [← workspace.inside.outside place beside]
  refine same place fun top member => ?_
  rw [List.mem_singleton.mp member]
  exact beside

/-- The staging directory, as the place where a package is made. -/
def stagingGround (here : Place) (base : Disk) (directory : Place) (number : Nat)
    (absolute : output.isAbsolute = true) : Disk.Ground :=
  Disk.Private.ground base here output.parent directory (stagingName output number) absolute
    (isName_stagingName output number)

/-! ### The compiler -/

/-- The staging directory is prepared for a command, also after records were logged. -/
theorem Ready.prepared {staged machine : Machine} (place : staged.host.here = here)
    (absolute : output.isAbsolute = true)
    (workspace : Workspace here output before base directory number staged.disk)
    (ready : Ready output number directory Disk.directoryMode staged)
    (logged : staged.Logged machine) :
    Workspace here output before base directory number machine.disk ∧
      Prepared machine (stagingPath output number) (stagingPlace output number directory) := by
  rw [← logged.disk] at workspace
  have empty := ready.empty
  rw [← logged.disk] at empty
  refine ⟨workspace, workspace.inside.isTree, ?_, empty⟩
  rw [logged.follows.host, place]
  exact (workspace.leadsNow absolute).down (isName_stagingName output number) ready.fits.2
    ⟨_, empty.1⟩

/-- Running the compiler is running the command, after which records are logged at most. -/
theorem compile_ran (run : Runner) (compiler : Compiler) (command : List String)
    (machine : Machine) :
    (compile run compiler command).Meets machine fun result after =>
      ∃ outcome ran, (run command).on machine = (outcome, ran) ∧ ran.Logged after ∧
        (result = .ok () → ∃ ended, outcome = .ok ended ∧ ended.status = 0) := by
  unfold compile
  refine (Action.meets_on (run command) machine).outcome_bind fun outcome ran ranIt => ?_
  split
  next ended =>
    dsimp only
    split
    next => exact ⟨_, ran, ranIt, .refl ran, fun impossible => by cases impossible⟩
    next succeeded =>
      have done : ended.status = 0 := not_not.mp succeeded
      split
      next =>
        refine (Action.log_logged _ _ ran).mono ?_
        rintro result after ⟨rfl, logged, -⟩
        exact ⟨_, ran, ranIt, logged, fun _ => ⟨ended, rfl, done⟩⟩
      next => exact ⟨_, ran, ranIt, .refl ran, fun _ => ⟨ended, rfl, done⟩⟩
  next => exact ⟨_, ran, ranIt, .refl ran, fun impossible => by cases impossible⟩
  next => exact ⟨_, ran, ranIt, .refl ran, fun impossible => by cases impossible⟩

/-- Running the compiler leaves the disk as the command leaves it. -/
theorem compile_leaves {run : Runner} {compiler : Compiler} {command : List String}
    {machine : Machine} (condition : Disk → Prop)
    (left : (run command).Meets machine fun _ after => condition after.disk) :
    (compile run compiler command).Meets machine fun _ after => condition after.disk := by
  refine (compile_ran run compiler command machine).mono ?_
  rintro result after ⟨outcome, ran, ranIt, logged, -⟩
  rw [logged.disk]
  exact left.of_on ranIt

theorem compile_meets {run : Runner} {compiler : Compiler} {command : List String}
    {machine : Machine}
    (workspace : Workspace here output before base directory number machine.disk)
    (prepared : Prepared machine (stagingPath output number)
      (stagingPlace output number directory))
    (contained : Contained run command (stagingPath output number)) :
    (compile run compiler command).Meets machine fun result after =>
      machine.Follows after ∧
        Workspace here output before base directory number after.disk ∧
          (result = .ok () → Emitted run command (stagingPath output number)
            (after.disk.tree (stagingPlace output number directory))) := by
  refine (compile_ran run compiler command machine).mono ?_
  rintro result after ⟨outcome, ran, ranIt, logged, ended⟩
  obtain ⟨follows, isTree, same⟩ := (contained machine _ prepared).of_on ranIt
  rw [logged.disk]
  refine ⟨follows.trans logged.follows, workspace.step isTree same, fun succeeded => ?_⟩
  obtain ⟨value, rfl, done⟩ := ended succeeded
  exact ⟨machine, _, value, ran, prepared, ranIt, done, rfl⟩

/-! ### Making the package -/

/-- Making the package of a run is making a package, but for what failures are called. -/
theorem finish_ran (staging : Path) (schemas : List String) (policy : Policy)
    (machine : Machine) :
    (finish staging output schemas policy).Meets machine fun result after =>
      ∃ outcome, (finalize staging schemas policy).on machine = (outcome, after) ∧
        ∀ modules, result = .ok modules → outcome = .ok modules := by
  unfold finish
  refine (Action.meets_on _ machine).outcome_bind fun outcome ran ranIt => ?_
  split
  next => exact ⟨_, ranIt, fun _ same => same⟩
  next =>
    split
    next => exact ⟨_, ranIt, fun _ impossible => by cases impossible⟩
    next => exact ⟨_, ranIt, fun _ impossible => by cases impossible⟩
  next => exact ⟨_, ranIt, fun _ impossible => by cases impossible⟩

theorem finish_meets {machine : Machine} (place : machine.host.here = here)
    (absolute : output.isAbsolute = true)
    (workspace : Workspace here output before base directory number machine.disk)
    (linkless : machine.disk.Linkless (stagingPlace output number directory))
    (schemas : List String) (policy : Policy) :
    (finish (stagingPath output number) output schemas policy).Meets machine fun result after =>
      machine.Follows after ∧
        Workspace here output before base directory number after.disk ∧
          after.disk.Linkless (stagingPlace output number directory) ∧
            ∀ modules, result = .ok modules →
              after.disk.tree (stagingPlace output number directory) =
                Tree.finish (modulesOf schemas) policy
                  (machine.disk.tree (stagingPlace output number directory)) ∧
              ∀ name ∈ modulesOf schemas,
                (machine.disk.tree (stagingPlace output number directory)).HasModule name := by
  have untouched : (stagingGround here base directory number absolute).Untouched machine :=
    ⟨place, workspace.inside, linkless⟩
  refine (finish_ran _ schemas policy machine).mono ?_
  rintro result after ⟨outcome, finalized, ended⟩
  obtain ⟨follows, ⟨-, inside⟩, succeeded⟩ :=
    (Disk.Ground.reworks_finalize schemas policy machine untouched).of_on finalized
  exact ⟨follows, ⟨workspace.built, inside.toFenced⟩, inside.linkless,
    fun modules same => (succeeded modules (ended modules same)).symm⟩

/-! ### Removing what is left -/

/-- How removing what is left can go. -/
inductive Removal (staging : Path) (before : Machine) : Except Failure Unit → Machine → Prop
  /-- What the path leads to is withheld. -/
  | withheld (code : Errno) (withheld : Action.Withheld before staging code) :
    Removal staging before (.error (.system ⟨code, [staging.text]⟩)) before
  /-- There is no directory to remove. -/
  | nothing : Removal staging before (.ok ()) before
  /-- A directory is removed as far as the system lets it. -/
  | discarded (top : Place) (mode : Mode) (located : before.disk.locate before.host.here false
      staging = .ok (.found top (.directory mode))) :
    Removal staging before (.ok ()) (before.discarded top)

theorem cleanUp_removal (staging : Path) (machine : Machine) :
    (cleanUp staging).Meets machine (Removal staging machine) := by
  unfold cleanUp Action.Meets
  rw [Action.on_bind, Action.on_pathExists]
  cases answered : Action.answer machine staging with
  | error failure =>
    obtain ⟨code, rfl, withheld⟩ := Action.answer_fails answered
    exact .withheld code withheld
  | ok found =>
    cases found with
    | none => exact .nothing
    | some node =>
      simp only [Except.map, Option.isSome_some, if_true]
      rw [Action.on_discardTree, if_neg (Bool.eq_false_iff.mp (Action.look_of_answer answered).1)]
      split
      next => exact .nothing
      next =>
        split
        next top mode located => exact .discarded top mode located
        next => exact .nothing

theorem Removal.follows {staging : Path} {before after : Machine} {result : Except Failure Unit}
    (removal : Removal staging before result after) : before.Follows after := by
  cases removal with
  | withheld | nothing => exact .refl before
  | discarded top => exact before.follows_discarded top

/-- What is left of a staging directory was removed as far as the system let it. It stays if some of
it was refused. -/
structure Swept (top : Place) (before after : Machine) : Prop where
  follows : before.Follows after
  same : SameOutside [top] before.disk after.disk
  stays : before.Refused .discard after → after.disk.HasDirectory top

/-- Removing what is left touches only the staging directory, if its path leads nowhere else. -/
theorem cleanUp_swept {machine : Machine} (absolute : output.isAbsolute = true)
    (isTree : machine.disk.IsTree)
    (unique : ∀ found, machine.disk.Leads machine.host.here output.parent found →
      found = directory) :
    (cleanUp (stagingPath output number)).Meets machine fun _ after =>
      Swept (stagingPlace output number directory) machine after := by
  refine (cleanUp_removal _ machine).mono fun result after removal => ?_
  have follows := removal.follows
  have unchanged : Swept (stagingPlace output number directory) machine machine :=
    ⟨.refl machine, .refl _ _, fun refused =>
      absurd refused (Machine.Keeps.refl _ machine).not_refused⟩
  cases removal with
  | withheld | nothing => exact unchanged
  | discarded top mode located =>
    have parentAbsolute : output.parent.isAbsolute = true := absolute
    have start : machine.disk.HasDirectory (Disk.startOf machine.host.here output.parent) := by
      rw [Disk.startOf_of_isAbsolute parentAbsolute]
      exact machine.disk.hasDirectory_top
    obtain ⟨found, leads, rfl, there⟩ :=
      Disk.locate_down_found isTree start (isName_stagingName output number) located
    cases unique found leads
    exact ⟨follows, machine.sameOutside_discarded _, fun refused =>
      ⟨mode, (Machine.get?_discarded_of_refused refused).trans there⟩⟩

section

variable {machine : Machine}
  (leads : machine.disk.Leads machine.host.here output.parent directory)
  (path : UsablePath output number machine)

include leads path

/-- What lies at the path of the staging directory is answered, unless it is a link. -/
theorem answer_staging (plain : ∀ target,
    machine.disk.get? (stagingPlace output number directory) ≠ some (.link target)) :
    Action.answer machine (stagingPath output number) =
      .ok (machine.disk.get? (stagingPlace output number directory)) := by
  have named := isName_stagingName output number
  unfold Action.answer
  rw [path.usable, if_neg Bool.false_ne_true]
  cases there : machine.disk.get? (stagingPlace output number directory) with
  | none =>
    have located (last : Bool) : machine.disk.nodeAt machine.host.here last
        (stagingPath output number) = .error Errno.noEntry := by
      unfold Disk.nodeAt
      rw [stagingPath, leads.locate_vacant named path.fits there last]
    have notLink : machine.hasLink (stagingPath output number) = false := by
      rw [Machine.hasLink, located false]
      rfl
    rw [Action.look_of_shown path.shown true notLink, located true]
    rfl
  | some node =>
    have isPlain : node.isLink = false := by
      cases node with
      | file | directory => rfl
      | link target => exact absurd there (plain target)
    have located (last : Bool) : machine.disk.nodeAt machine.host.here last
        (stagingPath output number) = .ok node := by
      unfold Disk.nodeAt
      rw [stagingPath, leads.locate_entry named path.fits there (.inl isPlain)]
    have notLink : machine.hasLink (stagingPath output number) = false := by
      rw [Machine.hasLink, located false]
      exact isPlain
    rw [Action.look_of_shown path.shown true notLink, located true]

/-- What is left is removed without a failure as long as it is no link. -/
theorem cleanUp_ok (plain : ∀ target,
    machine.disk.get? (stagingPlace output number directory) ≠ some (.link target)) :
    (cleanUp (stagingPath output number)).Meets machine fun result _ => result = .ok () := by
  have answered := answer_staging leads path plain
  refine (cleanUp_removal _ machine).mono fun result after removal => ?_
  cases removal with
  | nothing | discarded => rfl
  | withheld code withheld =>
    cases answered.symm.trans (Action.answer_of_withheld path.usable withheld)

/-- Nothing is left of a staging directory that was published, and that is no failure. -/
theorem cleanUp_on_gone
    (gone : machine.disk.get? (stagingPlace output number directory) = none) :
    (cleanUp (stagingPath output number)).on machine = (.ok (), machine) := by
  have nowhere : Action.answer machine (stagingPath output number) = .ok none :=
    (answer_staging leads path fun target found => by cases gone.symm.trans found).trans
      (congrArg _ gone)
  unfold cleanUp
  rw [Action.on_bind, Action.on_pathExists, nowhere]
  rfl

/-- What is left of a staging directory is gone, unless some of it is refused. -/
theorem cleanUp_removes
    (removable : machine.disk.Removable (stagingPlace output number directory)) :
    (cleanUp (stagingPath output number)).Meets machine fun _ after =>
      ¬ machine.Refused .discard after →
        after.disk.get? (stagingPlace output number directory) = none := by
  rcases removable with gone | ⟨mode, there⟩
  · unfold Action.Meets
    rw [cleanUp_on_gone leads path gone]
    exact fun _ => gone
  · have answered := answer_staging leads path fun target found => by
      cases there.symm.trans found
    have located := leads.locate_entry (isName_stagingName output number) path.fits there
      (.inr rfl : _ ∨ false = false)
    have ran : (cleanUp (stagingPath output number)).on machine =
        (.ok (), machine.discarded (stagingPlace output number directory)) := by
      unfold cleanUp
      rw [Action.on_bind, Action.on_pathExists, answered, there]
      simp only [Except.map, Option.isSome_some, if_true]
      rw [Action.on_discardTree, path.usable, path.shown, stagingPath, located]
      rfl
    unfold Action.Meets
    rw [ran]
    exact Machine.get?_discarded_of_not_refused (stagingPlace_ne_nil _ _ _)

end

end Generation

end Bindery
