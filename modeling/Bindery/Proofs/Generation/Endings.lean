/-
This file lists the ways in which a run of the compiler can end.

Whatever the compiler does in the directory that it is to write to, and whichever calls fail, a
run stops before the staging directory is ready, or before anything but that directory changed; or
it fails to publish and the output is where it was, or where it was moved aside; or it publishes.
Only what lies at the name for output that is moved aside can stand in the way of this.
-/

import Bindery.Proofs.Generation.Course
import Bindery.Proofs.Generation.Work

namespace Bindery

open Disk (Built SameOutside)
open Package

namespace Generation

/-- The command of a run that writes to a directory. -/
def commandTo (compiler : Compiler) (invocation : Invocation) (policy : Policy) (number : Nat) :
    List String :=
  compiler.commandLine invocation policy (stagingPath invocation.outputDirectory number)

/-- A compiler that touches nothing but the directory that it is to write to. -/
def ConfinedRunner (run : Runner) (invocation : Invocation) (policy : Policy) : Prop :=
  ∀ compiler number, Confined run (commandTo compiler invocation policy number)
    (stagingPath invocation.outputDirectory number)

/-- How a run can end. The base is the disk after the directories on the way to the output were
made. -/
inductive Ending (run : Runner) (invocation : Invocation) (policy : Policy) (before : Machine) :
    Except Failure Unit → Machine → Prop
  /-- At most directories on the way to the output were made. -/
  | early (failure : Failure) (after : Machine)
    (built : Built before.host.here invocation.outputDirectory.parent before.disk after.disk) :
    Ending run invocation policy before (.error failure) after
  /-- Nothing but the staging directory was touched. -/
  | kept {base : Disk} {directory : Place} {number : Nat} (failure : Failure) (after : Machine)
    (workspace : Workspace before.host.here invocation.outputDirectory before.disk base directory
      number base)
    (same : SameOutside [stagingPlace invocation.outputDirectory number directory] base
      after.disk) :
    Ending run invocation policy before (.error failure) after
  /-- The way to the output went through the name that it was to be moved aside to. -/
  | obstructed {base : Disk} {directory : Place} {number : Nat} (result : Except Failure Unit)
    (after : Machine)
    (workspace : Workspace before.host.here invocation.outputDirectory before.disk base directory
      number base)
    (taken : after.nextTemporary = number + 1)
    (occupied : (base.entryAt before.host.here invocation.outputDirectory).isSome = true)
    (obstacle : ¬ Clear before.host.here invocation.outputDirectory number directory base) :
    Ending run invocation policy before result after
  /-- The output is where it was, perhaps after it had been moved aside. -/
  | putBack {base : Disk} {directory : Place} {number : Nat} (failure : Failure) (after : Machine)
    (workspace : Workspace before.host.here invocation.outputDirectory before.disk base directory
      number base)
    (taken : after.nextTemporary = number + 1)
    (same : SameOutside [stagingPlace invocation.outputDirectory number directory,
      previousPlace invocation.outputDirectory number directory] base after.disk)
    (leads : after.disk.Leads before.host.here invocation.outputDirectory.parent directory) :
    Ending run invocation policy before (.error failure) after
  /-- The output is where it was moved aside, and a record says so. -/
  | stranded {base : Disk} {directory : Place} {number : Nat} (failure : Failure) (after : Machine)
    (workspace : Workspace before.host.here invocation.outputDirectory before.disk base directory
      number base)
    (taken : after.nextTemporary = number + 1)
    (same : SameOutside (places invocation.outputDirectory number directory) base after.disk)
    (moved : after.disk.tree (previousPlace invocation.outputDirectory number directory) =
      base.tree (outputPlace invocation.outputDirectory directory))
    (gone : after.disk.get? (outputPlace invocation.outputDirectory directory) = none)
    (occupied : (base.entryAt before.host.here invocation.outputDirectory).isSome = true)
    (fits : Disk.Fits (besidePath invocation.outputDirectory number)
      (previousName invocation.outputDirectory number))
    (renames : after.calls .rename = before.calls .rename + 3)
    (recorded : before.host.level.deciding ≤ Log.Level.error → .logged Log.Level.error
      (.text (strandedMessage invocation.outputDirectory number)) ∈ after.journal) :
    Ending run invocation policy before (.error failure) after
  /-- The output is what the compiler emitted, made into a package. -/
  | published {base : Disk} {directory : Place} {number : Nat} (after : Machine)
    (workspace : Workspace before.host.here invocation.outputDirectory before.disk base directory
      number base)
    (taken : after.nextTemporary = number + 1)
    (same : SameOutside (places invocation.outputDirectory number directory) base after.disk)
    (leads : after.disk.Leads before.host.here invocation.outputDirectory.parent directory)
    (named : invocation.outputDirectory.IsNamed)
    (entry : after.disk.entryAt before.host.here invocation.outputDirectory =
      some (after.disk.tree (outputPlace invocation.outputDirectory directory)))
    (isTree : after.disk.IsTree)
    (linkless : ∀ place target, outputPlace invocation.outputDirectory directory <+: place →
      after.disk.get? place ≠ some (.link target))
    (schemas : List String) (listed : invocation.virtualPaths = .ok schemas)
    (compiler : Compiler) (emission : Tree)
    (emitted : Emitted run (commandTo compiler invocation policy number)
      (stagingPath invocation.outputDirectory number) emission)
    (tree_eq : after.disk.tree (outputPlace invocation.outputDirectory directory) =
      Tree.finish (modulesOf schemas) policy emission)
    (complete : ∀ name ∈ modulesOf schemas, emission.HasModule name) :
    Ending run invocation policy before (.ok ()) after

variable {run : Runner} {invocation : Invocation} {policy : Policy} {before : Machine}

/-- What changes neither the disk nor the calls that were counted keeps an ending. -/
theorem Ending.follow {result : Except Failure Unit} {between after : Machine}
    (ending : Ending run invocation policy before result between)
    (follows : between.Follows after) (same : after.disk = between.disk) :
    Ending run invocation policy before result after := by
  cases ending with
  | early failure _ built => exact .early failure after (same ▸ built)
  | kept failure _ workspace kept => exact .kept failure after workspace (same ▸ kept)
  | obstructed _ _ workspace taken occupied obstacle =>
    exact .obstructed _ after workspace (follows.temporary.trans taken) occupied obstacle
  | putBack failure _ workspace taken kept leads =>
    exact .putBack failure after workspace (follows.temporary.trans taken) (same ▸ kept)
      (same ▸ leads)
  | stranded failure _ workspace taken kept moved gone occupied fits renames recorded =>
    exact .stranded failure after workspace (follows.temporary.trans taken) (same ▸ kept)
      (same ▸ moved) (same ▸ gone) occupied fits (follows.renames.trans renames)
      fun high => follows.journal.subset (recorded high)
  | published _ workspace taken kept leads named entry isTree linkless schemas listed compiler
      emission emitted tree_eq complete =>
    exact .published after workspace (follows.temporary.trans taken) (same ▸ kept) (same ▸ leads)
      named (same ▸ entry) (same ▸ isTree) (same ▸ linkless) schemas listed compiler emission
      emitted (same ▸ tree_eq) complete

/-! ### From the staging directory to the publication -/

/-- What a run has come to when only what is left is to be removed: it stopped before the
publication, or the publication of what was emitted ended in some way. -/
inductive Worked (run : Runner) (invocation : Invocation) (policy : Policy) (schemas : List String)
    (compiler : Compiler) (here : Place) (before base : Disk) (directory : Place) (number : Nat)
    (staged : Machine) : Except Failure (List String) → Machine → Prop
  | stopped (failure : Failure) (after : Machine) (follows : staged.Follows after)
    (workspace : Workspace here invocation.outputDirectory before base directory number
      after.disk) :
    Worked run invocation policy schemas compiler here before base directory number staged
      (.error failure) after
  | attempted (between : Machine) (follows : staged.Follows between)
    (workspace : Workspace here invocation.outputDirectory before base directory number
      between.disk)
    (emission : Tree) (emitted : Emitted run (commandTo compiler invocation policy number)
      (stagingPath invocation.outputDirectory number) emission)
    (tree_eq : between.disk.tree (stagingPlace invocation.outputDirectory number directory) =
      Tree.finish (modulesOf schemas) policy emission)
    (modules : List String) (result : Except Failure Unit) (after : Machine)
    (ran : (publish (stagingPath invocation.outputDirectory number)
      invocation.outputDirectory).on between = (result, after))
    (linkless : between.disk.Linkless (stagingPlace invocation.outputDirectory number directory))
    (complete : ∀ name ∈ modulesOf schemas, emission.HasModule name) :
    Worked run invocation policy schemas compiler here before base directory number staged
      (result.map fun _ => modules) after

/-- Compiling in a staging directory that is ready touches nothing else and leaves no links there.
If it succeeds, what the command emitted lies there. -/
theorem Ready.compile_meets (compiler : Compiler) {here directory : Place} {base disk : Disk}
    {number : Nat} {staged logged : Machine}
    (ready : Ready invocation.outputDirectory number directory Disk.directoryMode staged)
    (place : staged.host.here = here) (absolute : invocation.outputDirectory.isAbsolute = true)
    (workspace : Workspace here invocation.outputDirectory disk base directory number staged.disk)
    (confined : ConfinedRunner run invocation policy) (records : staged.Logged logged) :
    (compile run compiler (commandTo compiler invocation policy number)).Meets logged
      fun result compiled => staged.Follows compiled ∧ compiled.host.here = here ∧
        Workspace here invocation.outputDirectory disk base directory number compiled.disk ∧
          compiled.disk.Linkless (stagingPlace invocation.outputDirectory number directory) ∧
            (result = .ok () → Emitted run (commandTo compiler invocation policy number)
              (stagingPath invocation.outputDirectory number) (compiled.disk.tree
                (stagingPlace invocation.outputDirectory number directory))) := by
  have follows := records.follows
  obtain ⟨workspaceLogged, prepared⟩ := ready.prepared place absolute workspace records
  obtain ⟨contained, noLinks⟩ := confined_iff.mp (confined compiler number)
  refine ((Generation.compile_meets workspaceLogged prepared contained).and
    (compile_leaves (Disk.Linkless · _) (noLinks logged _ prepared))).mono ?_
  rintro result compiled ⟨⟨followsCompile, workspaceCompiled, emitted⟩, linkless⟩
  exact ⟨follows.trans followsCompile, by rw [followsCompile.host, follows.host, place],
    workspaceCompiled, linkless, emitted⟩

/-- Whatever the work comes to, it stopped before the publication or attempted it. -/
theorem Effort.worked {schemas : List String} {compiler : Compiler} {here directory : Place}
    {base disk : Disk} {number : Nat} {staged after : Machine}
    {result : Except Failure (List String)}
    (effort : Effort run invocation policy schemas compiler
      (stagingPath invocation.outputDirectory number) staged result after)
    (place : staged.host.here = here) (absolute : invocation.outputDirectory.isAbsolute = true)
    (workspace : Workspace here invocation.outputDirectory disk base directory number staged.disk)
    (ready : Ready invocation.outputDirectory number directory Disk.directoryMode staged)
    (confined : ConfinedRunner run invocation policy) :
    Worked run invocation policy schemas compiler here disk base directory number staged result
      after := by
  have compiling : ∀ {logged}, staged.Logged logged → _ := fun records =>
    ready.compile_meets compiler place absolute workspace confined records
  cases effort with
  | uncompiled logged records failure _ ran =>
    obtain ⟨follows, -, workspaceAfter, -, -⟩ := (compiling records).of_on ran
    exact .stopped failure after follows workspaceAfter
  | unfinished logged compiled records compiledIt failure _ ran =>
    obtain ⟨follows, placeCompiled, workspaceCompiled, linkless, -⟩ :=
      (compiling records).of_on compiledIt
    obtain ⟨followsFinish, workspaceAfter, -⟩ :=
      (finish_meets placeCompiled absolute workspaceCompiled linkless schemas policy).of_on ran
    exact .stopped failure after (follows.trans followsFinish) workspaceAfter
  | attempted logged compiled finished records compiledIt modules finishedIt result _ ran =>
    obtain ⟨follows, placeCompiled, workspaceCompiled, linkless, emitted⟩ :=
      (compiling records).of_on compiledIt
    obtain ⟨followsFinish, workspaceFinished, stillLinkless, tree_eq⟩ :=
      (finish_meets placeCompiled absolute workspaceCompiled linkless schemas policy).of_on
        finishedIt
    obtain ⟨isFinished, complete⟩ := tree_eq modules rfl
    exact .attempted finished (follows.trans followsFinish) workspaceFinished _ (emitted rfl)
      isFinished modules result after ran stillLinkless complete

/-! ### Removing what is left -/

/-- A run ended in one of the ways, on a later state of the machine. -/
def Settled (run : Runner) (invocation : Invocation) (policy : Policy) (before : Machine)
    (result : Except Failure Unit) (after : Machine) : Prop :=
  before.Onward after ∧ Ending run invocation policy before result after

/-- Records that are logged last keep an ending. -/
theorem Settled.log {result : Except Failure Unit} {between after : Machine}
    (settled : Settled run invocation policy before result between)
    (logged : between.Logged after) : Settled run invocation policy before result after :=
  ⟨settled.1.trans logged.follows.toOnward, settled.2.follow logged.follows logged.disk⟩

/-- The directory of the output is found where it was while the output stays. -/
theorem Workspace.leads_of_sameOutside {here directory : Place} {output : Path} {number : Nat}
    {disk base now other : Disk}
    (workspace : Workspace here output disk base directory number now)
    (absolute : output.isAbsolute = true) (clear : Clear here output number directory base)
    (same : SameOutside [stagingPlace output number directory,
      previousPlace output number directory] now other) :
    other.Leads here output.parent directory := by
  obtain ⟨apartStaging, apartPrevious, -⟩ := places_apart output number directory
  have sameAll : SameOutside (places output number directory) now other :=
    same.mono (by simp [places])
  refine (workspace.carry absolute clear (.refl _ _) sameAll (fun rest node there => ?_)
    (workspace.leadsNow absolute)).2
  have inNow := workspace.inside.keeps _ _ there
  have tree_eq : other.tree (outputPlace output directory) =
      now.tree (outputPlace output directory) := by
    refine same.tree_eq fun top member => ?_
    simp only [List.mem_cons, List.not_mem_nil, or_false] at member
    rcases member with rfl | rfl
    · exact apartStaging.symm
    · exact apartPrevious.symm
  exact .inr ⟨inNow, (congrFun tree_eq rest).trans inNow⟩

section Settling

variable {schemas : List String} {compiler : Compiler} {base : Disk} {directory : Place}
  {number : Nat} {staged between : Machine}

/-- A run that fails whatever becomes of what is left, with its own failure or with that of the
removal. -/
theorem settle_failed {final : Except Failure Unit} {last : Machine}
    (settled : ∀ failure, Settled run invocation policy before (.error failure) last)
    (failure : Failure) :
    match final with
    | .ok () => Settled run invocation policy before (.error failure) last
    | .error failure => Settled run invocation policy before (.error failure) last := by
  cases final with
  | ok _ => exact settled failure
  | error failure => exact settled failure

/-- A run that stopped with nothing touched but the staging directory. -/
theorem settle_stopped (absolute : invocation.outputDirectory.isAbsolute = true)
    (onward : before.Onward between)
    (workspace : Workspace before.host.here invocation.outputDirectory before.disk base directory
      number between.disk) (failure : Failure) :
    (cleanUp (stagingPath invocation.outputDirectory number)).Meets between fun final after =>
      match final with
      | .ok () => Settled run invocation policy before (.error failure) after
      | .error failure => Settled run invocation policy before (.error failure) after := by
  have here : between.host.here = before.host.here := by rw [onward.host]
  have unique : ∀ found,
      between.disk.Leads between.host.here invocation.outputDirectory.parent found →
        found = directory := by
    intro found leads
    rw [here] at leads
    exact (workspace.leadsNow absolute).unique leads
  refine (cleanUp_swept absolute workspace.inside.isTree unique).mono ?_
  rintro final after ⟨follows, same, -⟩
  exact settle_failed (fun failure => ⟨onward.trans follows.toOnward,
    .kept failure after workspace.atBase (workspace.sameOutside.trans same)⟩) failure

/-- A run whose output stayed, or was put back. -/
theorem settle_kept {after : Machine}
    (absolute : invocation.outputDirectory.isAbsolute = true)
    (onward : before.Onward after) (taken : after.nextTemporary = number + 1)
    (workspace : Workspace before.host.here invocation.outputDirectory before.disk base directory
      number between.disk)
    (clear : Clear before.host.here invocation.outputDirectory number directory base)
    (isTree : after.disk.IsTree)
    (same : SameOutside [previousPlace invocation.outputDirectory number directory] between.disk
      after.disk) (failure : Failure) :
    (cleanUp (stagingPath invocation.outputDirectory number)).Meets after fun final last =>
      match final with
      | .ok () => Settled run invocation policy before (.error failure) last
      | .error failure => Settled run invocation policy before (.error failure) last := by
  have here : after.host.here = before.host.here := by rw [onward.host]
  have sameBoth : SameOutside [stagingPlace invocation.outputDirectory number directory,
      previousPlace invocation.outputDirectory number directory] between.disk after.disk :=
    same.mono (by simp)
  have unique : ∀ found,
      after.disk.Leads after.host.here invocation.outputDirectory.parent found →
        found = directory := by
    intro found leads
    rw [here] at leads
    exact (workspace.leads_of_sameOutside absolute clear sameBoth).unique leads
  refine (cleanUp_swept absolute isTree unique).mono ?_
  rintro final last ⟨follows, sameLast, -⟩
  have sameNow := sameBoth.trans (sameLast.mono (by simp))
  exact settle_failed (fun failure => ⟨onward.trans follows.toOnward,
    .putBack failure last workspace.atBase (follows.temporary.trans taken)
      ((workspace.sameOutside.mono (by simp)).trans sameNow)
      (workspace.leads_of_sameOutside absolute clear sameNow)⟩) failure

/-- Nothing outside the staging directory was changed before the publication. -/
theorem Workspace.tree_output {here directory : Place} {output : Path} {number : Nat}
    {disk base now : Disk} (workspace : Workspace here output disk base directory number now) :
    now.tree (outputPlace output directory) = base.tree (outputPlace output directory) := by
  refine workspace.sameOutside.tree_eq fun top member => ?_
  rw [List.mem_singleton.mp member]
  exact (places_apart output number directory).1.symm

/-- A run whose output could not be put back. -/
theorem settle_stranded {after : Machine}
    (absolute : invocation.outputDirectory.isAbsolute = true)
    (onward : before.Onward between) (onwardAfter : between.Onward after)
    (renames : between.calls .rename = before.calls .rename)
    (taken : after.nextTemporary = number + 1)
    (workspace : Workspace before.host.here invocation.outputDirectory before.disk base directory
      number between.disk)
    (clear : Clear before.host.here invocation.outputDirectory number directory base)
    (aside : after.disk = asideDisk invocation.outputDirectory number directory between.disk)
    (occupied : (base.entryAt before.host.here invocation.outputDirectory).isSome = true)
    (fits : Disk.Fits (besidePath invocation.outputDirectory number)
      (previousName invocation.outputDirectory number))
    (strandedRenames : after.calls .rename = between.calls .rename + 3)
    (recorded : between.host.level.deciding ≤ Log.Level.error →
      .logged Log.Level.error
        (.text (strandedMessage invocation.outputDirectory number)) ∈ after.journal)
    (failure : Failure) :
    (cleanUp (stagingPath invocation.outputDirectory number)).Meets after fun final last =>
      match final with
      | .ok () => Settled run invocation policy before (.error failure) last
      | .error failure => Settled run invocation policy before (.error failure) last := by
  have here : after.host.here = before.host.here := by rw [onwardAfter.host, onward.host]
  obtain ⟨apartStaging, -, apartBoth⟩ := places_apart invocation.outputDirectory number directory
  have unique : ∀ found,
      after.disk.Leads after.host.here invocation.outputDirectory.parent found →
        found = directory := by
    intro found leads
    rw [here, aside] at leads
    exact (workspace.leads_aside absolute clear leads).1
  have isTree : after.disk.IsTree := by
    rw [aside]
    exact workspace.isTree_aside absolute
  refine (cleanUp_swept absolute isTree unique).mono ?_
  rintro final last ⟨follows, sameLast, -⟩
  have fromBase :
      SameOutside (places invocation.outputDirectory number directory) base last.disk := by
    refine (workspace.sameOutside.mono (by simp [places])).trans ?_
    refine SameOutside.trans ?_ (sameLast.mono (by simp [places]))
    rw [aside]
    exact asideDisk_sameOutside invocation.outputDirectory number directory between.disk
  have moved : last.disk.tree (previousPlace invocation.outputDirectory number directory) =
      base.tree (outputPlace invocation.outputDirectory directory) := by
    rw [sameLast.tree_eq fun top member => by rw [List.mem_singleton.mp member]; exact apartBoth,
      aside, asideDisk, Disk.tree_moveTree _ (outputPlace_ne_nil _ _) (previousPlace_ne_nil _ _ _),
      workspace.tree_output]
  have gone : last.disk.get? (outputPlace invocation.outputDirectory directory) = none := by
    rw [sameLast _ fun top member => by rw [List.mem_singleton.mp member]; exact apartStaging.2,
      aside, get?_asideDisk_output]
  refine settle_failed (fun failure => ⟨onward.trans (onwardAfter.trans follows.toOnward),
    .stranded failure last workspace.atBase (follows.temporary.trans taken) fromBase moved gone
      occupied fits ?_ fun high => ?_⟩) failure
  · rw [follows.renames, strandedRenames, renames]
  · rw [← onward.host] at high
    exact follows.journal.subset (recorded high)

/-- A run that published. -/
theorem settle_published {after : Machine}
    (named : invocation.outputDirectory.IsNamed)
    (listed : invocation.virtualPaths = .ok schemas)
    (onward : before.Onward after) (taken : after.nextTemporary = number + 1)
    (path : UsablePath invocation.outputDirectory number after)
    (workspace : Workspace before.host.here invocation.outputDirectory before.disk base directory
      number between.disk)
    (noLinks : between.disk.Linkless (stagingPlace invocation.outputDirectory number directory))
    {emission : Tree} (emitted : Emitted run (commandTo compiler invocation policy number)
      (stagingPath invocation.outputDirectory number) emission)
    (finished : between.disk.tree (stagingPlace invocation.outputDirectory number directory) =
      Tree.finish (modulesOf schemas) policy emission)
    (complete : ∀ name ∈ modulesOf schemas, emission.HasModule name)
    (isTree : after.disk.IsTree)
    (same : SameOutside (places invocation.outputDirectory number directory) between.disk
      after.disk)
    (tree_eq : after.disk.tree (outputPlace invocation.outputDirectory directory) =
      between.disk.tree (stagingPlace invocation.outputDirectory number directory))
    (gone : after.disk.get? (stagingPlace invocation.outputDirectory number directory) = none)
    (leads : after.disk.Leads before.host.here invocation.outputDirectory.parent directory)
    (entry : after.disk.entryAt before.host.here invocation.outputDirectory =
      some (after.disk.tree (outputPlace invocation.outputDirectory directory))) :
    (cleanUp (stagingPath invocation.outputDirectory number)).Meets after fun final last =>
      final = .ok () ∧ Settled run invocation policy before (.ok ()) last := by
  have here : after.host.here = before.host.here := by rw [onward.host]
  have leadsHere :
      after.disk.Leads after.host.here invocation.outputDirectory.parent directory := by
    rw [here]
    exact leads
  have linkless : ∀ place target, outputPlace invocation.outputDirectory directory <+: place →
      after.disk.get? place ≠ some (.link target) := by
    rintro place target ⟨rest, rfl⟩ found
    have moved := congrFun tree_eq rest
    rw [Disk.tree, Disk.tree, found] at moved
    exact noLinks _ target (List.prefix_append _ _) moved.symm
  unfold Action.Meets
  rw [cleanUp_on_gone leadsHere path gone]
  exact ⟨rfl, onward, .published after workspace.atBase taken
    ((workspace.sameOutside.mono (by simp [places])).trans same) leads named entry isTree linkless
    schemas listed compiler emission emitted (tree_eq.trans finished) complete⟩

/-- Whatever a run has come to when what is left is removed, it ends in one of the ways. -/
theorem Worked.settle {result : Except Failure (List String)} {after : Machine}
    (worked : Worked run invocation policy schemas compiler before.host.here before.disk base
      directory number staged result after)
    (regular : invocation.outputDirectory.IsRegular)
    (absolute : invocation.outputDirectory.isAbsolute = true)
    (listed : invocation.virtualPaths = .ok schemas) (onward : before.Onward staged)
    (renames : staged.calls .rename = before.calls .rename)
    (ready : Ready invocation.outputDirectory number directory Disk.directoryMode staged) :
    (cleanUp (stagingPath invocation.outputDirectory number)).Meets after fun final last =>
      match final with
      | .ok () => Settled run invocation policy before (result.map fun _ => ()) last
      | .error failure => Settled run invocation policy before (.error failure) last := by
  cases worked with
  | stopped failure _ follows workspace =>
    exact settle_stopped absolute (onward.trans follows.toOnward) workspace failure
  | attempted between follows workspace emission emitted tree_eq modules result _ ran linkless
      complete =>
    have onwardBetween := onward.trans follows.toOnward
    have renamesBetween := follows.renames.trans renames
    have here : between.host.here = before.host.here := by rw [onwardBetween.host]
    obtain ⟨onwardAfter, temporary, -⟩ := (steady_publish _ _ between).of_on ran
    have taken : after.nextTemporary = number + 1 :=
      temporary.trans (follows.temporary.trans ready.temporary)
    have onwardAll := onwardBetween.trans onwardAfter
    rw [← here] at workspace
    rcases workspace.publish_ends regular absolute ready.usable ran with
      ⟨failure, rfl, same⟩ | ⟨named, ⟨occupied, obstacle⟩ | ⟨clear, published⟩⟩
    · rw [here, ← same] at workspace
      exact settle_stopped absolute onwardAll workspace failure
    · rw [here] at workspace occupied obstacle
      refine (cleanUp_removal _ after).mono fun final last removal => ?_
      have follows := removal.follows
      have settled : ∀ result, Settled run invocation policy before result last := fun result =>
        ⟨onwardAll.trans follows.toOnward,
          .obstructed result last workspace.atBase (follows.temporary.trans taken) occupied
            obstacle⟩
      cases final with
      | ok _ => exact settled _
      | error failure => exact settled _
    · have isOccupied := workspace.entryAt_isSome absolute (regular.isName named) named.1
      rw [here] at workspace clear isOccupied
      cases published with
      | unchanged failure _ same =>
        rw [← same] at workspace
        exact settle_stopped absolute onwardAll workspace failure
      | restored failure _ isTree occupied same =>
        exact settle_kept absolute onwardAll taken workspace (clear (isOccupied occupied)) isTree
          same failure
      | stranded code _ aside occupied fits strandedRenames recorded =>
        exact settle_stranded absolute onwardBetween onwardAfter renamesBetween taken workspace
          (clear (isOccupied occupied)) aside (isOccupied occupied) fits strandedRenames
          recorded _
      | published _ isTree same published_eq gone leads entry =>
        rw [here] at leads entry
        have path := ready.toUsablePath.onward (follows.toOnward.trans onwardAfter)
        refine (settle_published named listed onwardAll taken path workspace linkless emitted
          tree_eq complete isTree same published_eq gone leads entry).mono ?_
        rintro final last ⟨rfl, settled⟩
        exact settled

end Settling

/-! ### The whole run -/

theorem resolve_meets {override : Option String} {lookup : Compiler.Lookup} (quiet : Quiet lookup)
    (machine : Machine) :
    (Compiler.resolve override lookup Compiler.bundled).Meets machine fun _ after =>
      machine.Follows after ∧ after.disk = machine.disk := by
  refine (Compiler.resolve_searched override lookup machine).mono fun result after searched => ?_
  cases searched with
  | named _ _ logged => exact ⟨logged.follows, logged.disk⟩
  | unanswered _ _ asked | missing _ _ asked => exact (quiet _ machine).of_on asked
  | found _ _ asked _ _ logged =>
    obtain ⟨follows, same⟩ := (quiet _ machine).of_on asked
    exact ⟨follows.trans logged.follows, logged.disk.trans same⟩

theorem Resolved.follows {lookup : Compiler.Lookup} {compiler : Compiler} {after : Machine}
    (quiet : Quiet lookup) (resolved : Resolved lookup invocation before compiler after) :
    before.Follows after ∧ after.disk = before.disk := by
  obtain ⟨between, ran, logged⟩ := resolved
  obtain ⟨follows, same⟩ := (resolve_meets quiet before).of_on ran
  exact ⟨follows.trans logged.follows, logged.disk.trans same⟩

/-- Every run ends in one of the ways. -/
theorem generate_meets {lookup : Compiler.Lookup} (quiet : Quiet lookup)
    (confined : ConfinedRunner run invocation policy)
    (regular : invocation.outputDirectory.IsRegular)
    (absolute : invocation.outputDirectory.isAbsolute = true) (isTree : before.disk.IsTree) :
    (generate lookup run invocation policy).Meets before
      (Settled run invocation policy before) := by
  refine (generate_course before).mono fun result after course => ?_
  cases course with
  | unresolved failure resolved _ ran logged =>
    obtain ⟨follows, same⟩ := (resolve_meets quiet before).of_on ran
    exact ⟨(follows.trans logged.follows).toOnward,
      .early failure after (logged.disk.trans same ▸ .same)⟩
  | unlisted compiler error _ resolved =>
    obtain ⟨follows, same⟩ := resolved.follows quiet
    exact ⟨follows.toOnward, .early _ after (same ▸ .same)⟩
  | unstaged compiler ready resolved failure stopped _ ran logged =>
    obtain ⟨follows, same⟩ := resolved.follows quiet
    have here : ready.host.here = before.host.here := by rw [follows.host]
    obtain ⟨onward, -, -, unprepared⟩ :=
      (stage_meets regular absolute ready (same ▸ isTree)).of_on ran
    refine ⟨follows.toOnward.trans (onward.trans logged.follows.toOnward), ?_⟩
    cases unprepared with
    | unmade built =>
      rw [same, here, ← logged.disk] at built
      exact .early failure after built
    | left base directory number workspace =>
      rw [same, here, ← logged.disk] at workspace
      exact .kept failure after workspace.atBase workspace.sameOutside
  | worked compiler schemas ready resolved listed staging staged stagedIt result left effort final
      cleaned _ ran logged =>
    obtain ⟨follows, same⟩ := resolved.follows quiet
    have here : ready.host.here = before.host.here := by rw [follows.host]
    obtain ⟨onward, renames, -, base, directory, number, rfl, isReady, workspace, -⟩ :=
      (stage_meets regular absolute ready (same ▸ isTree)).of_on stagedIt
    rw [same, here] at workspace
    have worked := effort.worked (by rw [onward.host, here]) absolute workspace isReady confined
    have settled := (worked.settle regular absolute listed (follows.toOnward.trans onward)
      (renames.trans follows.renames) isReady).of_on ran
    cases final with
    | ok _ => exact settled.log logged
    | error failure => exact settled.log logged

/-! ### What stands in the way -/

/-- The number of the temporary name that was taken last. -/
def lastNumber (machine : Machine) : Nat := machine.nextTemporary - 1

theorem lastNumber_eq {number : Nat} {after : Machine} (taken : after.nextTemporary = number + 1) :
    lastNumber after = number := by
  rw [lastNumber, taken, Nat.add_sub_cancel]

/-- If there is output, the way to it does not go through the name that it is moved aside to. -/
def Unobstructed (here : Place) (output : Path) (number : Nat) (disk : Disk) : Prop :=
  (disk.entryAt here output).isSome = true → ∀ directory, disk.Leads here output.parent directory →
    Clear here output number directory disk

/-- The same, whatever directories are made on the way to the output. -/
def OpenWay (before : Machine) (output : Path) (number : Nat) : Prop :=
  ∀ base, Built before.host.here output.parent before.disk base →
    Unobstructed before.host.here output number base

theorem Workspace.clear_of_openWay {output : Path} {directory : Place} {number : Nat}
    {base now : Disk} {after : Machine}
    (workspace : Workspace before.host.here output before.disk base directory number now)
    (openWay : OpenWay before output (lastNumber after))
    (taken : after.nextTemporary = number + 1)
    (occupied : (base.entryAt before.host.here output).isSome = true) :
    Clear before.host.here output number directory base := by
  rw [lastNumber_eq taken] at openWay
  exact openWay base workspace.built occupied directory workspace.inside.leads

/-! ### What is published -/

/-- The output lies at a place. It is what the compiler emitted, with every module, made into a
package. -/
structure Publishes (run : Runner) (invocation : Invocation) (policy : Policy)
    (schemas : List String) (before after : Machine) (emission : Tree) (place : Place) : Prop where
  emitted : ∃ compiler, Emitted run (commandTo compiler invocation policy (lastNumber after))
    (stagingPath invocation.outputDirectory (lastNumber after)) emission
  complete : ∀ name ∈ modulesOf schemas, emission.HasModule name
  isTree : after.disk.IsTree
  entry : after.disk.entryAt before.host.here invocation.outputDirectory =
    some (after.disk.tree place)
  tree_eq : after.disk.tree place = Tree.finish (modulesOf schemas) policy emission

/-- A run that succeeds publishes a package, if nothing is in the way. -/
theorem exists_published {lookup : Compiler.Lookup} {after : Machine} (quiet : Quiet lookup)
    (confined : ConfinedRunner run invocation policy)
    (regular : invocation.outputDirectory.IsRegular)
    (absolute : invocation.outputDirectory.isAbsolute = true) (isTree : before.disk.IsTree)
    (openWay : OpenWay before invocation.outputDirectory (lastNumber after))
    {schemas : List String} (listed : invocation.virtualPaths = .ok schemas)
    (ran : (generate lookup run invocation policy).on before = (.ok (), after)) :
    ∃ emission place, Publishes run invocation policy schemas before after emission place := by
  have ending := ((generate_meets quiet confined regular absolute isTree).of_on ran).2
  cases ending with
  | obstructed _ _ workspace taken occupied obstacle =>
    exact absurd (workspace.clear_of_openWay openWay taken occupied) obstacle
  | published _ _ taken _ _ _ entry isTreeAfter _ schemas' listed' compiler emission emitted tree_eq
      complete =>
    cases listed.symm.trans listed'
    rw [← lastNumber_eq taken] at emitted
    exact ⟨emission, _, ⟨compiler, emitted⟩, complete, isTreeAfter, entry, tree_eq⟩

end Generation

end Bindery
