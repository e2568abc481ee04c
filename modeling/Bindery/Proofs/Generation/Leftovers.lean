/-
This file proves what a run leaves beside the output.

The staging directory is made before the work begins, and what is left of it is removed after the
work, whatever fails. It stays in two cases only. Between the two lies one call, the one that
changes its permission bits, and when that is refused nothing is removed. And what is removed is
removed as far as the system lets it: when it refuses to remove an entry, that is passed over, and
the directory stays with what it holds. Output that was moved aside is removed or put back, or a
record names the path that it lies at.

The compiler may leave anything in the staging directory, links too. Making a package then writes
wherever the links lead; but it writes files, so that paths lead to the same directories as before.
All this holds if the way to the output goes neither through the output itself nor through the name
that it is moved aside to, both of which give way during a publication.
-/

import Bindery.Proofs.Generation.Endings
import Bindery.Proofs.Generation.Writer
import Bindery.Proofs.Package.Texts

namespace Bindery.Generation

open Disk (Built FilesWritten SameOutside)

variable {lookup : Compiler.Lookup} {run : Runner} {invocation : Invocation} {policy : Policy}
  {schemas : List String} {compiler : Compiler} {here directory : Place} {output : Path}
  {number : Nat} {disk base middle : Disk} {noLinks : Prop}

/-! ### The work -/

/-- A condition on commands that are to write to a directory holds of all commands of a run. -/
def ForCommands (condition : Runner → List String → Path → Prop) (run : Runner)
    (invocation : Invocation) (policy : Policy) : Prop :=
  ∀ compiler number, condition run (commandTo compiler invocation policy number)
    (stagingPath invocation.outputDirectory number)

/-- A disk on which a run is at work. The middle is the disk without the staging directory. It
differs from the base by files that were written through links that the compiler left, if any. -/
structure AtWork (here : Place) (output : Path) (base : Disk) (directory : Place) (number : Nat)
    (noLinks : Prop) (middle disk : Disk) : Prop where
  workspace : Workspace here output middle middle directory number disk
  removable : disk.Removable (stagingPlace output number directory)
  written : FilesWritten base middle
  same : noLinks → ∀ place, middle.get? place = base.get? place

/-- Making a package discards no tree. -/
theorem spares_finish (staging : Path) (schemas : List String) (policy : Policy) :
    (finish staging output schemas policy).Spares .discard := by
  intro machine
  have keeps : (Package.finalize staging schemas policy).KeepsTo fun _ => True :=
    Package.keepsTo_finalize fun _ _ => trivial
  refine (finish_ran staging schemas policy machine).mono ?_
  rintro result after ⟨outcome, finalized, -⟩
  exact ((keeps.kept machine).of_on finalized).keeps

/-- Running the compiler discards what the command does. -/
theorem spares_compile {command : List String} (spares : (run command).Spares .discard) :
    (compile run compiler command).Spares .discard := by
  intro machine
  refine (compile_ran run compiler command machine).mono ?_
  rintro result after ⟨outcome, ran, ranIt, logged, -⟩
  exact ((spares machine).of_on ranIt).trans (logged.keeps _)

/-- Making a package writes files outside the staging directory at most, and leaves the directory
there if it was there. -/
theorem finish_atWork {machine : Machine} (atHere : machine.host.here = here)
    (absolute : output.isAbsolute = true)
    (workspace : Workspace here output disk base directory number machine.disk)
    (removable : machine.disk.Removable (stagingPlace output number directory))
    (usable : Action.holdsNull (stagingPath output number) = false)
    (fits : Disk.Fits (stagingPath output number) (stagingName output number))
    (usableSchemas : ∀ schema ∈ schemas, '\x00' ∉ schema.toList)
    (linkless : noLinks → machine.disk.Linkless (stagingPlace output number directory)) :
    (finish (stagingPath output number) output schemas policy).Meets machine fun _ after =>
      machine.Follows after ∧
        ∃ middle, AtWork here output base directory number noLinks middle after.disk := by
  have inside := workspace.inside
  have named := stagingPlace_ne_nil output number directory
  have bare : ∀ place, stagingPlace output number directory <+: place →
      base.get? place = none := by
    rintro place ⟨rest, rfl⟩
    exact inside.baseTree.get?_under inside.free rest
  refine ((finish_ran _ schemas policy machine).and (Action.meets_on _ machine)).mono ?_
  rintro result after ⟨⟨outcome, finalized, -⟩, finished⟩
  have added := (Package.addsOnlyTexts_finalize (Action.holdsNull_eq_false_iff.mp usable)
    usableSchemas policy machine).of_on finalized
  have below := added.written absolute inside.isTree
  rw [atHere] at below
  have written : FilesWritten base
      (after.disk.eraseTree (stagingPlace output number directory)) := by
    intro place
    have erased : (machine.disk.eraseTree (stagingPlace output number directory)).get? place =
        base.get? place := by
      by_cases under : stagingPlace output number directory <+: place
      · rw [Disk.get?_eraseTree_of_under _ named under, bare place under]
      · rw [Disk.get?_eraseTree_of_not_under _ under, inside.outside place under]
    rw [← erased]
    exact below.written.eraseTree _ place
  refine ⟨added.follows, after.disk.eraseTree (stagingPlace output number directory),
    ⟨.same, written.leads absolute inside.leads,
      Disk.get?_eraseTree_of_under _ named List.prefix_rfl, below.isTree,
      below.isTree.eraseTree named, fun place beside =>
        (Disk.get?_eraseTree_of_not_under _ beside).symm⟩, ?_, written, fun none place => ?_⟩
  · rcases removable with gone | ⟨mode, there⟩
    · rcases below.reached with ⟨found, leads⟩ | same
      · obtain ⟨mode, located⟩ := leads.locate_found fits.1
        have vacant := (workspace.leadsNow absolute).locate_vacant
          (isName_stagingName output number) fits gone true
        cases located.symm.trans vacant
      · rw [same]
        exact .inl gone
    · exact .inr ⟨mode, below.written.keeps there rfl⟩
  · by_cases under : stagingPlace output number directory <+: place
    · rw [Disk.get?_eraseTree_of_under _ named under, bare place under]
    · obtain ⟨-, workspaceAfter, -⟩ :=
        (finish_meets atHere absolute workspace (linkless none) schemas policy).of_on finished
      rw [Disk.get?_eraseTree_of_not_under _ under]
      exact workspaceAfter.inside.outside place under

/-- The work stops, or a publication is attempted in the end. -/
theorem Effort.atWork {staged left : Machine} {result : Except Failure (List String)}
    (effort : Effort run invocation policy schemas compiler
      (stagingPath invocation.outputDirectory number) staged result left)
    (atHere : staged.host.here = here) (absolute : invocation.outputDirectory.isAbsolute = true)
    (workspace : Workspace here invocation.outputDirectory disk base directory number staged.disk)
    (ready : Ready invocation.outputDirectory number directory Disk.directoryMode staged)
    (contained : ForCommands Contained run invocation policy)
    (leaves : ForCommands LeavesDirectory run invocation policy)
    (spares : ∀ command, (run command).Spares .discard)
    (usableSchemas : ∀ schema ∈ schemas, '\x00' ∉ schema.toList) :
    ∃ between middle, staged.Follows between ∧ staged.Keeps .discard between ∧
      AtWork here invocation.outputDirectory base directory number
        (ForCommands LeavesNoLinks run invocation policy) middle between.disk ∧
      (left = between ∨ ∃ published, (publish (stagingPath invocation.outputDirectory number)
        invocation.outputDirectory).on between = (published, left)) := by
  have compiling : ∀ {logged}, staged.Logged logged →
      (compile run compiler (commandTo compiler invocation policy number)).Meets logged
        fun _ compiled => staged.Follows compiled ∧ staged.Keeps .discard compiled ∧
          Workspace here invocation.outputDirectory disk base directory number compiled.disk ∧
            compiled.disk.Removable (stagingPlace invocation.outputDirectory number directory) ∧
              (ForCommands LeavesNoLinks run invocation policy → compiled.disk.Linkless
                (stagingPlace invocation.outputDirectory number directory)) := by
    intro logged records
    obtain ⟨workspaceLogged, prepared⟩ := ready.prepared atHere absolute workspace records
    refine (((compile_meets workspaceLogged prepared (contained compiler number)).and
      (compile_leaves (Disk.Removable · _) (leaves compiler number logged _ prepared))).and
      (Action.meets_on _ logged)).mono ?_
    rintro result compiled ⟨⟨⟨followsCompile, workspaceCompiled, -⟩, removable⟩, ran⟩
    have keeps := (records.keeps .discard).trans ((spares_compile (spares _) logged).of_on ran)
    refine ⟨records.follows.trans followsCompile, keeps, workspaceCompiled, removable,
      fun none => ?_⟩
    exact (compile_leaves (Disk.Linkless · _) (none compiler number logged _ prepared)).of_on ran
  have finishing : ∀ {logged compiled outcome}, staged.Logged logged →
      (compile run compiler (commandTo compiler invocation policy number)).on logged =
        (outcome, compiled) →
      (finish (stagingPath invocation.outputDirectory number) invocation.outputDirectory schemas
        policy).Meets compiled fun _ finished =>
          staged.Follows finished ∧ staged.Keeps .discard finished ∧ ∃ middle,
            AtWork here invocation.outputDirectory base directory number
              (ForCommands LeavesNoLinks run invocation policy) middle finished.disk := by
    intro logged compiled outcome records ran
    obtain ⟨follows, keeps, workspaceCompiled, removable, linkless⟩ :=
      (compiling records).of_on ran
    refine ((finish_atWork (by rw [follows.host, atHere]) absolute workspaceCompiled removable
      ready.usable ready.fits usableSchemas linkless).and (spares_finish _ _ _ compiled)).mono ?_
    rintro result finished ⟨⟨followsFinish, atWork⟩, keepsFinish⟩
    exact ⟨follows.trans followsFinish, keeps.trans keepsFinish, atWork⟩
  cases effort with
  | uncompiled logged records failure _ ran =>
    obtain ⟨follows, keeps, workspaceAfter, removable, -⟩ := (compiling records).of_on ran
    exact ⟨left, base, follows, keeps, ⟨⟨.same, workspaceAfter.inside⟩, removable, .refl base,
      fun _ _ => rfl⟩, .inl rfl⟩
  | unfinished logged compiled records compiledIt failure _ ran =>
    obtain ⟨follows, keeps, middle, atWork⟩ := (finishing records compiledIt).of_on ran
    exact ⟨left, middle, follows, keeps, atWork, .inl rfl⟩
  | attempted logged compiled finished records compiledIt modules finishedIt published _ ran =>
    obtain ⟨follows, keeps, middle, atWork⟩ := (finishing records compiledIt).of_on finishedIt
    exact ⟨finished, middle, follows, keeps, atWork, .inr ⟨published, ran⟩⟩

/-- The way to the output does not go through the name that output is moved aside to, if there is
output, or if some may be written through links that the compiler left. -/
def Passable (here : Place) (output : Path) (number : Nat) (directory : Place) (noLinks : Prop)
    (disk : Disk) : Prop :=
  (disk.entryAt here output).isSome = true ∨ ¬ noLinks → Clear here output number directory disk

theorem AtWork.clear (atWork : AtWork here output base directory number noLinks middle disk)
    (regular : output.IsRegular) (absolute : output.isAbsolute = true) (named : output.IsNamed)
    (passable : Passable here output number directory noLinks base)
    (occupied : (middle.entryAt here output).isSome = true) :
    Clear here output number directory base ∧ Clear here output number directory middle := by
  have clear : Clear here output number directory base := by
    refine passable ?_
    by_cases none : noLinks
    · have same := atWork.same none
      have leads := atWork.workspace.inside.leads
      have leadsBase : base.Leads here output.parent directory :=
        leads.keep absolute fun place node found _ => (same place).symm.trans found
      have entries := leadsBase.entryAt_eq leads (regular.isName named)
        (funext fun rest => same _)
      rw [output.down_parent named.1] at entries
      exact .inl (entries ▸ occupied)
    · exact .inr none
  exact ⟨clear, (atWork.written.eraseTree _).leads absolute clear⟩

/-! ### Removing what is left -/

/-- A record names the path that the output was moved aside to, unless its level is too low. -/
def Recorded (output : Path) (number : Nat) (before after : Machine) : Prop :=
  WarnedOf (besidePath output number) before after ∨
    (before.host.level.deciding ≤ Log.Level.error →
      .logged Log.Level.error (.text (strandedMessage output number)) ∈ after.journal)

theorem Recorded.mono {first before after last : Machine}
    (recorded : Recorded output number before after) (start : first.Onward before)
    (onward : after.Onward last) : Recorded output number first last := by
  refine recorded.imp (fun warned high => ?_) fun logged high => ?_
  · rw [← start.host] at high
    obtain ⟨reason, found⟩ := warned high
    exact ⟨reason, onward.journal.subset found⟩
  · rw [← start.host] at high
    exact onward.journal.subset (logged high)

/-- The way to the directory of the output does not go through the output. -/
def Apart (here : Place) (output : Path) (directory : Place) (disk : Disk) : Prop :=
  (disk.eraseTree (outputPlace output directory)).Leads here output.parent directory

/-- What has become of the names beside the output when what was left was removed. -/
structure Cleared (here : Place) (output : Path) (base : Disk) (directory : Place) (number : Nat)
    (noLinks : Prop) (before after : Machine) : Prop where
  same : ∃ middle, FilesWritten base middle ∧
    (noLinks → ∀ place, middle.get? place = base.get? place) ∧
      SameOutside (places output number directory) middle after.disk
  staging : Apart here output directory base → ¬ before.Refused .discard after →
    after.disk.get? (stagingPlace output number directory) = none
  stays : before.Refused .discard after →
    after.disk.HasDirectory (stagingPlace output number directory)
  previous : noLinks → base.get? (previousPlace output number directory) = none →
    after.disk.get? (previousPlace output number directory) = none ∨
      Recorded output number before after

/-- Records that were logged earlier or later matter to nothing but what is recorded. -/
theorem Cleared.carry {first before after last : Machine}
    (cleared : Cleared here output base directory number noLinks before after)
    (start : first.Onward before) (keeps : first.Keeps .discard before)
    (logged : after.Logged last) :
    Cleared here output base directory number noLinks first last := by
  obtain ⟨same, staging, stays, previous⟩ := cleared
  rw [← logged.disk] at same staging stays previous
  rw [← Machine.Refused.carry_iff keeps (logged.keeps _)] at staging stays
  exact ⟨same, staging, stays, fun none free => (previous none free).imp_right fun recorded =>
    recorded.mono start logged.follows.toOnward⟩

section

variable {before after : Machine}

/-- Changes of a publication, and of what is removed after it, are changes since the middle. -/
theorem AtWork.sameMiddle (atWork : AtWork here output base directory number noLinks middle disk)
    {other : Disk} (same : SameOutside (places output number directory) disk other) :
    ∃ middle, FilesWritten base middle ∧
      (noLinks → ∀ place, middle.get? place = base.get? place) ∧
        SameOutside (places output number directory) middle other :=
  ⟨middle, atWork.written, atWork.same,
    (atWork.workspace.sameOutside.mono (by simp [places])).trans same⟩

/-- Nothing lies at the name that output is moved aside to as long as nothing is moved there. -/
theorem AtWork.previous_free
    (atWork : AtWork here output base directory number noLinks middle disk) (none : noLinks)
    (free : base.get? (previousPlace output number directory) = .none) :
    disk.get? (previousPlace output number directory) = .none := by
  rw [atWork.workspace.sameOutside _ fun top member => ?_, atWork.same none, free]
  rw [List.mem_singleton.mp member]
  exact (places_apart output number directory).2.2.1

/-- What becomes of the staging directory when what is left is removed, if the path above leads to
its directory and nowhere else. -/
theorem swept_cleared (keeps : before.Keeps .discard after)
    (absolute : output.isAbsolute = true) (isTree : after.disk.IsTree)
    (unique : ∀ found, after.disk.Leads after.host.here output.parent found → found = directory)
    (path : UsablePath output number after)
    (removable : after.disk.Removable (stagingPlace output number directory))
    (leads : Apart here output directory base →
      after.disk.Leads after.host.here output.parent directory)
    (same : ∃ middle, FilesWritten base middle ∧
      (noLinks → ∀ place, middle.get? place = base.get? place) ∧
        SameOutside (places output number directory) middle after.disk)
    (previous : noLinks → base.get? (previousPlace output number directory) = none →
      after.disk.get? (previousPlace output number directory) = none ∨
        Recorded output number before after) :
    (cleanUp (stagingPath output number)).Meets after fun _ last =>
      Cleared here output base directory number noLinks before last := by
  refine ((cleanUp_swept absolute isTree unique).and (Action.meets_on _ after)).mono ?_
  rintro result last ⟨swept, cleaned⟩
  have refused_iff : before.Refused .discard last ↔ after.Refused .discard last :=
    Machine.Refused.carry_iff keeps (.refl _ last)
  obtain ⟨middle, written, sameMiddle, sameAfter⟩ := same
  refine ⟨⟨middle, written, sameMiddle, sameAfter.trans (swept.same.mono (by simp [places]))⟩,
    fun apart spared => ?_, fun refused => swept.stays (refused_iff.mp refused),
    fun none free => ?_⟩
  · rw [refused_iff] at spared
    exact (cleanUp_removes (leads apart) path removable).of_on cleaned spared
  · have beside : last.disk.get? (previousPlace output number directory) =
        after.disk.get? (previousPlace output number directory) := by
      refine swept.same _ fun top member => ?_
      rw [List.mem_singleton.mp member]
      exact (places_apart output number directory).2.2.1
    rw [beside]
    exact (previous none free).imp_right fun recorded =>
      recorded.mono (.refl before) swept.follows.toOnward

/-- Nothing but the staging directory was touched before what is left is removed. -/
theorem AtWork.stopped (atHere : after.host.here = here) (absolute : output.isAbsolute = true)
    (atWork : AtWork here output base directory number noLinks middle after.disk)
    (keeps : before.Keeps .discard after) (path : UsablePath output number after) :
    (cleanUp (stagingPath output number)).Meets after fun _ last =>
      Cleared here output base directory number noLinks before last := by
  have leads := atWork.workspace.leadsNow absolute
  rw [← atHere] at leads
  exact swept_cleared keeps absolute atWork.workspace.inside.isTree (fun _ => leads.unique) path
    atWork.removable (fun _ => leads) (atWork.sameMiddle (.refl _ _))
    fun none free => .inl (atWork.previous_free none free)

/-- The output was moved aside and back before what is left is removed. -/
theorem AtWork.restored (atHere : after.host.here = here) (absolute : output.isAbsolute = true)
    (atWork : AtWork here output base directory number noLinks middle disk)
    (clear : Clear here output number directory middle)
    (keeps : before.Keeps .discard after) (path : UsablePath output number after)
    (isTree : after.disk.IsTree)
    (same : SameOutside [previousPlace output number directory] disk after.disk)
    (dropped : after.disk.get? (previousPlace output number directory) = none) :
    (cleanUp (stagingPath output number)).Meets after fun _ last =>
      Cleared here output base directory number noLinks before last := by
  have leads := atWork.workspace.leads_of_sameOutside absolute clear
    (same.mono (by simp) : SameOutside [stagingPlace output number directory,
      previousPlace output number directory] disk after.disk)
  rw [← atHere] at leads
  have removable : after.disk.Removable (stagingPlace output number directory) :=
    atWork.removable.of_eq <| same _ fun top member => by
      rw [List.mem_singleton.mp member]
      exact (places_apart output number directory).2.2.2
  exact swept_cleared keeps absolute isTree (fun _ => leads.unique) path removable (fun _ => leads)
    (atWork.sameMiddle (same.mono (by simp [places]))) fun _ _ => .inl dropped

/-- The output was moved aside, and stays there, before what is left is removed. -/
theorem AtWork.stranded (atHere : after.host.here = here) (absolute : output.isAbsolute = true)
    (atWork : AtWork here output base directory number noLinks middle disk)
    (clear : Clear here output number directory middle)
    (keeps : before.Keeps .discard after) (path : UsablePath output number after)
    (aside : after.disk = asideDisk output number directory disk)
    (recorded : Recorded output number before after) :
    (cleanUp (stagingPath output number)).Meets after fun _ last =>
      Cleared here output base directory number noLinks before last := by
  have workspace := atWork.workspace
  have sameAside := aside ▸ asideDisk_sameOutside output number directory disk
  have unique : ∀ found, after.disk.Leads after.host.here output.parent found →
      found = directory := by
    intro found leads
    rw [atHere, aside] at leads
    exact (workspace.leads_aside absolute clear leads).1
  have isTree : after.disk.IsTree := by
    rw [aside]
    exact workspace.isTree_aside absolute
  have removable : after.disk.Removable (stagingPlace output number directory) := by
    refine atWork.removable.of_eq ?_
    have top := congrFun (tree_asideDisk_staging output number directory disk) []
    rw [Disk.tree, Disk.tree, List.append_nil] at top
    rw [aside, top]
  refine swept_cleared keeps absolute isTree unique path removable (fun apart => ?_)
    (atWork.sameMiddle sameAside) fun _ _ => .inr recorded
  have apartMiddle : Apart here output directory middle :=
    (atWork.written.eraseTree _).leads absolute apart
  rw [atHere]
  exact workspace.leads_beside absolute clear apartMiddle
    ((workspace.sameOutside.mono (by simp [places])).trans sameAside)

/-- The staging directory was put in the place of the output, so that nothing is left of it. -/
theorem AtWork.published (atHere : after.host.here = here)
    (atWork : AtWork here output base directory number noLinks middle disk)
    (keeps : before.Keeps .discard after) (path : UsablePath output number after)
    (leads : after.disk.Leads here output.parent directory)
    (same : SameOutside (places output number directory) disk after.disk)
    (gone : after.disk.get? (stagingPlace output number directory) = none)
    (dropped : disk.get? (previousPlace output number directory) = none →
      after.disk.get? (previousPlace output number directory) = none ∨
        Recorded output number before after) :
    (cleanUp (stagingPath output number)).Meets after fun _ last =>
      Cleared here output base directory number noLinks before last := by
  rw [← atHere] at leads
  unfold Action.Meets
  rw [cleanUp_on_gone leads path gone]
  exact ⟨atWork.sameMiddle same, fun _ _ => gone, fun refused => absurd refused keeps.not_refused,
    fun none free => dropped (atWork.previous_free none free)⟩

end

/-- A publication was attempted before what is left is removed. -/
theorem AtWork.publish {machine after : Machine} {result : Except Failure Unit}
    (atHere : machine.host.here = here) (regular : output.IsRegular)
    (absolute : output.isAbsolute = true)
    (atWork : AtWork here output base directory number noLinks middle machine.disk)
    (path : UsablePath output number machine)
    (passable : Passable here output number directory noLinks base)
    (ran : (publish (stagingPath output number) output).on machine = (result, after)) :
    (cleanUp (stagingPath output number)).Meets after fun _ last =>
      Cleared here output base directory number noLinks machine last := by
  subst atHere
  obtain ⟨onward, -, keeps⟩ := (steady_publish _ _ machine).of_on ran
  have pathAfter := path.onward onward
  have atHereAfter : after.host.here = machine.host.here := by rw [onward.host]
  have stopped : after.disk = machine.disk →
      (cleanUp (stagingPath output number)).Meets after fun _ last =>
        Cleared machine.host.here output base directory number noLinks machine last := fun same =>
    (same.symm ▸ atWork).stopped atHereAfter absolute keeps pathAfter
  have clearing := fun named => atWork.clear regular absolute named passable
  rcases atWork.workspace.publish_ends regular absolute path.usable ran with
    ⟨failure, rfl, unchanged⟩ | ⟨named, ⟨occupied, obstacle⟩ | ⟨-, published⟩⟩
  · exact stopped unchanged
  · exact absurd (clearing named occupied).2 obstacle
  · have isOccupied := atWork.workspace.entryAt_isSome absolute (regular.isName named) named.1
    cases published with
    | unchanged failure _ unchanged => exact stopped unchanged
    | restored failure _ isTree occupied same dropped =>
      exact atWork.restored atHereAfter absolute (clearing named (isOccupied occupied)).2 keeps
        pathAfter isTree same dropped
    | stranded code _ aside occupied _ _ recorded =>
      exact atWork.stranded atHereAfter absolute (clearing named (isOccupied occupied)).2 keeps
        pathAfter aside (.inr recorded)
    | published _ _ same _ gone leads _ dropped =>
      exact atWork.published atHereAfter keeps pathAfter leads same gone
        fun free => (dropped free).imp_right .inl

/-! ### The whole run -/

variable {before after : Machine} {result : Except Failure Unit}

theorem ModesRefused.carry {first last : Machine} (refused : ModesRefused before after)
    (start : first.Keeps .chmod before) (rest : after.Keeps .chmod last) :
    ModesRefused first last := by
  unfold ModesRefused at refused ⊢
  rwa [start.schedule, start.calls, ← rest.calls] at refused

theorem not_modesRefused (keeps : before.Keeps .chmod after) : ¬ ModesRefused before after := by
  rintro ⟨-, attempted⟩
  rw [keeps.calls] at attempted
  omega

/-- What a run leaves beside the output. The base is the disk after the directories on the way to
the output were made. -/
inductive Remains (run : Runner) (invocation : Invocation) (policy : Policy) (base : Disk)
    (before after : Machine) : Prop
  /-- The staging directory was not made. -/
  | nothing (same : after.disk = base) (notRefused : ¬ ModesRefused before after)
    (spared : ¬ before.Refused .discard after)
  /-- The staging directory was made, and its permission bits could not be changed. -/
  | staging (directory : Place) (number : Nat)
    (workspace : Workspace before.host.here invocation.outputDirectory before.disk base directory
      number after.disk)
    (there : after.disk.HasDirectory (stagingPlace invocation.outputDirectory number directory))
    (refused : ModesRefused before after)
  /-- The run got as far as to its work. -/
  | worked (directory : Place) (number : Nat)
    (leads : base.Leads before.host.here invocation.outputDirectory.parent directory)
    (free : base.get? (stagingPlace invocation.outputDirectory number directory) = none)
    (taken : after.nextTemporary = number + 1) (notRefused : ¬ ModesRefused before after)
    (cleared : Passable before.host.here invocation.outputDirectory number directory
        (ForCommands LeavesNoLinks run invocation policy) base →
      Cleared before.host.here invocation.outputDirectory base directory number
        (ForCommands LeavesNoLinks run invocation policy) before after)

/-- What a run leaves that got as far as to its work. -/
theorem Effort.cleared {staged left : Machine} {result : Except Failure (List String)}
    (effort : Effort run invocation policy schemas compiler
      (stagingPath invocation.outputDirectory number) staged result left)
    (atHere : staged.host.here = here) (regular : invocation.outputDirectory.IsRegular)
    (absolute : invocation.outputDirectory.isAbsolute = true)
    (workspace : Workspace here invocation.outputDirectory disk base directory number staged.disk)
    (ready : Ready invocation.outputDirectory number directory Disk.directoryMode staged)
    (contained : ForCommands Contained run invocation policy)
    (leaves : ForCommands LeavesDirectory run invocation policy)
    (spares : ∀ command, (run command).Spares .discard)
    (usableSchemas : ∀ schema ∈ schemas, '\x00' ∉ schema.toList) :
    (cleanUp (stagingPath invocation.outputDirectory number)).Meets left fun _ last =>
      last.nextTemporary = number + 1 ∧
        (Passable here invocation.outputDirectory number directory
            (ForCommands LeavesNoLinks run invocation policy) base →
          Cleared here invocation.outputDirectory base directory number
            (ForCommands LeavesNoLinks run invocation policy) staged last) := by
  obtain ⟨between, middle, follows, keeps, atWork, ended⟩ :=
    effort.atWork atHere absolute workspace ready contained leaves spares usableSchemas
  have atHereBetween : between.host.here = here := by rw [follows.host, atHere]
  have path := ready.toUsablePath.onward follows.toOnward
  have steady : left.nextTemporary = between.nextTemporary := by
    rcases ended with rfl | ⟨published, ran⟩
    · rfl
    · exact ((steady_publish _ _ between).of_on ran).2.1
  refine ((cleanUp_removal _ left).and (Action.meets_on _ left)).mono ?_
  rintro final last ⟨removal, cleaned⟩
  refine ⟨?_, fun passable => ?_⟩
  · rw [removal.follows.temporary, steady, follows.temporary, ready.temporary]
  · rcases ended with rfl | ⟨published, ran⟩
    · exact (atWork.stopped atHereBetween absolute keeps path).of_on cleaned
    · exact ((atWork.publish atHereBetween regular absolute path passable ran).of_on
        cleaned).carry follows.toOnward keeps (.refl last)

/-- Every run leaves nothing, or one of these. -/
theorem generate_remains (answering : Answering lookup)
    (contained : ForCommands Contained run invocation policy)
    (leaves : ForCommands LeavesDirectory run invocation policy)
    (spares : ∀ command, (run command).Spares .discard)
    (validated : invocation.Validated) (isTree : before.disk.IsTree) :
    (generate lookup run invocation policy).Meets before fun _ after =>
      ∃ base, Built before.host.here invocation.outputDirectory.parent before.disk base ∧
        Remains run invocation policy base before after := by
  have regular := validated.isRegular
  have absolute := validated.isAbsolute
  obtain ⟨listing, listedIt, usableSchemas⟩ := validated.virtualPaths
  have untouched : ∀ {after}, before.Logged after → ∃ base,
      Built before.host.here invocation.outputDirectory.parent before.disk base ∧
        Remains run invocation policy base before after := by
    intro after logged
    exact ⟨before.disk, .same, .nothing logged.disk (not_modesRefused (logged.keeps _))
      (logged.keeps _).not_refused⟩
  refine (generate_course before).mono fun result after course => ?_
  cases course with
  | unresolved failure resolved _ ran logged =>
    exact untouched (((resolve_answering answering before).of_on ran).1.trans logged)
  | unlisted compiler error _ resolved => exact untouched (resolved.logged answering)
  | unstaged compiler ready resolved failure stopped _ ran logged =>
    have logs := resolved.logged answering
    have atHere : ready.host.here = before.host.here := by rw [logs.follows.host]
    obtain ⟨-, -, keeps, unprepared⟩ :=
      (stage_meets regular absolute ready (logs.disk ▸ isTree)).of_on ran
    cases unprepared with
    | unmade built modes =>
      rw [logs.disk, atHere] at built
      exact ⟨stopped.disk, built, .nothing logged.disk
        (not_modesRefused ((logs.keeps _).trans (modes.trans (logged.keeps _))))
        ((logs.keeps _).trans (keeps.trans (logged.keeps _))).not_refused⟩
    | left base directory number workspace there refused =>
      rw [logs.disk, atHere, ← logged.disk] at workspace
      rw [← logged.disk] at there
      exact ⟨base, workspace.built, .staging directory number workspace there
        (refused.carry (logs.keeps _) (logged.keeps _))⟩
  | worked compiler schemas ready resolved listed staging staged stagedIt result left effort final
      cleaned _ ran logged =>
    rw [listedIt] at listed
    cases listed
    have logs := resolved.logged answering
    have atHere : ready.host.here = before.host.here := by rw [logs.follows.host]
    obtain ⟨onward, -, keeps, base, directory, number, rfl, isReady, workspace, notRefused⟩ :=
      (stage_meets regular absolute ready (logs.disk ▸ isTree)).of_on stagedIt
    rw [logs.disk, atHere] at workspace
    rw [(logs.keeps .chmod).schedule, (logs.keeps .chmod).calls] at notRefused
    have atHereStaged : staged.host.here = before.host.here := by rw [onward.host, atHere]
    obtain ⟨taken, cleared⟩ := (effort.cleared atHereStaged regular absolute workspace isReady
      contained leaves spares usableSchemas).of_on ran
    refine ⟨base, workspace.built, .worked directory number workspace.inside.leads
      workspace.inside.free (logged.follows.temporary.trans taken) ?_ fun passable =>
        (cleared passable).carry (logs.follows.toOnward.trans onward)
          ((logs.keeps _).trans keeps) logged⟩
    rintro ⟨⟨code, refused⟩, -⟩
    rw [notRefused] at refused
    cases refused

/-! ### What is left -/

/-- A directory lies where nothing lay. -/
def LeftDirectory (before after : Disk) (place : Place) : Prop :=
  before.get? place = none ∧ after.HasDirectory place

/-- An entry lies where nothing lay. -/
def LeftEntry (before after : Disk) (place : Place) : Prop :=
  before.get? place = none ∧ after.get? place ≠ none

/-- A name that is none of those that a publication is about lies beside them. -/
theorem not_under_places {name : String} (notStaging : name ≠ stagingName output number)
    (notOutput : name ≠ output.name) (notPrevious : name ≠ previousName output number) :
    ∀ top ∈ places output number directory, ¬ top <+: directory ++ [name] := by
  intro top member
  simp only [places, List.mem_cons, List.not_mem_nil, or_false] at member
  rcases member with rfl | rfl | rfl
  · exact Disk.not_prefix_of_ne notStaging.symm
  · exact Disk.not_prefix_of_ne notOutput.symm
  · exact Disk.not_prefix_of_ne notPrevious.symm

/-- A staging directory is left by a run that got as far as to its work only if some of it was
refused. -/
theorem Cleared.refused_of_leftDirectory
    (cleared : Cleared here output base directory number noLinks before after)
    (apart : Apart here output directory base) {other : Nat}
    (left : LeftDirectory base after.disk (stagingPlace output other directory)) :
    before.Refused .discard after := by
  obtain ⟨free, there⟩ := left
  by_cases same : stagingName output other = stagingName output number
  · by_contra spared
    have gone := cleared.staging apart spared
    rw [stagingPlace, ← same] at gone
    exact there.ne_none gone
  · obtain ⟨middle, written, -, sameAfter⟩ := cleared.same
    have beside : after.disk.get? (stagingPlace output other directory) =
        middle.get? (stagingPlace output other directory) :=
      sameAfter _ <| not_under_places same (names_ne output other).1.symm
        (stagingName_ne_previousName output other number)
    have thereBefore := there.of_eq beside.symm
    rw [written.get?_directory thereBefore, free] at beside
    exact absurd beside there.ne_none

theorem Cleared.recorded (cleared : Cleared here output base directory number noLinks before after)
    (none : noLinks) (other : Nat)
    (left : LeftEntry base after.disk (previousPlace output other directory)) :
    Recorded output other before after := by
  obtain ⟨free, there⟩ := left
  by_cases same : previousName output other = previousName output number
  · have recorded := cleared.previous none
    unfold previousPlace at free there recorded
    rw [← same] at recorded
    unfold Recorded strandedMessage besidePath at recorded ⊢
    rw [same]
    exact (recorded free).resolve_left there
  · obtain ⟨middle, -, sameMiddle, sameAfter⟩ := cleared.same
    have beside : after.disk.get? (previousPlace output other directory) =
        middle.get? (previousPlace output other directory) :=
      sameAfter _ <| not_under_places (stagingName_ne_previousName output number other).symm
        (names_ne output other).2.1.symm same
    rw [sameMiddle none] at beside
    exact absurd (beside.trans free) there

/-- What a run leaves beside the output is accounted for. The base is the disk after the directories
on the way to the output were made. -/
structure Accounted (run : Runner) (invocation : Invocation) (policy : Policy) (base : Disk)
    (directory : Place) (before after : Machine) : Prop where
  /-- A staging directory is left exactly when its permission bits could not be changed, or when
  some of it could not be removed, unless the way to the output goes through the output itself. -/
  staging : Apart before.host.here invocation.outputDirectory directory base →
    ((∃ number, LeftDirectory base after.disk
      (stagingPlace invocation.outputDirectory number directory)) ↔
        ModesRefused before after ∨ before.Refused .discard after)
  /-- Of output that was moved aside and is left a record tells, unless something was written
  through links that the compiler left. -/
  previous : ForCommands LeavesNoLinks run invocation policy → ∀ number,
    LeftEntry base after.disk (previousPlace invocation.outputDirectory number directory) →
      Recorded invocation.outputDirectory number before after

/-- Whatever a run leaves, nothing lies beside the output yet, or its directory is found. -/
theorem Remains.leads (remains : Remains run invocation policy base before after) :
    (after.disk = base ∧ ¬ ModesRefused before after ∧ ¬ before.Refused .discard after) ∨
      ∃ directory, base.Leads before.host.here invocation.outputDirectory.parent directory := by
  cases remains with
  | nothing same notRefused spared => exact .inl ⟨same, notRefused, spared⟩
  | staging directory number workspace => exact .inr ⟨directory, workspace.inside.leads⟩
  | worked directory number leads => exact .inr ⟨directory, leads⟩

theorem Remains.accounted (remains : Remains run invocation policy base before after)
    (leads : base.Leads before.host.here invocation.outputDirectory.parent directory)
    (passable : Passable before.host.here invocation.outputDirectory (lastNumber after) directory
      (ForCommands LeavesNoLinks run invocation policy) base) :
    Accounted run invocation policy base directory before after := by
  constructor
  · intro apart
    cases remains with
    | nothing same notRefused spared =>
      refine ⟨?_, fun refused => absurd refused (not_or.mpr ⟨notRefused, spared⟩)⟩
      rintro ⟨number, free, there⟩
      rw [same] at there
      exact absurd free there.ne_none
    | staging found number workspace there refused =>
      cases leads.unique workspace.inside.leads
      exact ⟨fun _ => .inl refused, fun _ => ⟨number, workspace.inside.free, there⟩⟩
    | worked found number leadsFound free taken notRefused cleared =>
      cases leads.unique leadsFound
      rw [lastNumber_eq taken] at passable
      constructor
      · rintro ⟨other, left⟩
        exact .inr ((cleared passable).refused_of_leftDirectory apart left)
      · exact fun refused =>
          ⟨number, free, (cleared passable).stays (refused.resolve_left notRefused)⟩
  · intro none other left
    cases remains with
    | nothing same =>
      rw [same] at left
      exact absurd left.1 left.2
    | staging found number workspace =>
      cases leads.unique workspace.inside.leads
      refine absurd ((workspace.sameOutside _ fun top member => ?_).trans left.1) left.2
      rw [List.mem_singleton.mp member]
      exact Disk.not_prefix_of_ne (stagingName_ne_previousName _ number other)
    | worked found number leadsFound _ taken _ cleared =>
      cases leads.unique leadsFound
      rw [lastNumber_eq taken] at passable
      exact (cleared passable).recorded none other left

theorem leftovers_accounted (answering : Answering lookup)
    (contained : ForCommands Contained run invocation policy)
    (leaves : ForCommands LeavesDirectory run invocation policy)
    (spares : ∀ command, (run command).Spares .discard)
    (validated : invocation.Validated) (isTree : before.disk.IsTree)
    (ran : (generate lookup run invocation policy).on before = (result, after)) :
    ∃ base, Built before.host.here invocation.outputDirectory.parent before.disk base ∧
      ((after.disk = base ∧ ¬ ModesRefused before after ∧ ¬ before.Refused .discard after) ∨
        ∃ directory, base.Leads before.host.here invocation.outputDirectory.parent directory ∧
          (Passable before.host.here invocation.outputDirectory (lastNumber after) directory
              (ForCommands LeavesNoLinks run invocation policy) base →
            Accounted run invocation policy base directory before after)) := by
  obtain ⟨base, built, remains⟩ :=
    (generate_remains answering contained leaves spares validated isTree).of_on ran
  rcases remains.leads with nothing | ⟨directory, leads⟩
  · exact ⟨base, built, .inl nothing⟩
  · exact ⟨base, built, .inr ⟨directory, leads, remains.accounted leads⟩⟩

/-- A machine on which permission bits cannot be changed at first. -/
def modesMachine : Machine :=
  { bare with
    schedule := fun kind count =>
      if kind = .chmod ∧ count = 1 then some Errno.accessDenied else none }

theorem staging_left_of_refused_mode :
    (generateOneSchema "/out" modesMachine).1.isOk = false ∧
      ∃ number, LeftDirectory modesMachine.disk (generateOneSchema "/out" modesMachine).2.disk
        (stagingPlace (Path.parse "/out") number []) := by
  refine ⟨by decide +kernel, ?_⟩
  have absolute : (oneSchema "/out").outputDirectory.isAbsolute = true := by decide +kernel
  have atTop : (oneSchema "/out").outputDirectory.parent.parts = [] := by decide +kernel
  have validated : (oneSchema "/out").Validated :=
    validated_oneSchema modesMachine rfl (by decide +kernel)
  have contained : ForCommands Contained (writesBindings "/out" .standard) (oneSchema "/out")
      .standard := fun compiler number =>
    (confined_iff.mp (confined_writesBindings absolute .standard compiler number)).1
  have leaves : ForCommands LeavesDirectory (writesBindings "/out" .standard) (oneSchema "/out")
      .standard := fun _ _ => leavesDirectory_writerTo absolute (by decide) "new\n"
  have ran : (generate foundInstalled (writesBindings "/out" .standard) (oneSchema "/out")
      .standard).on modesMachine = (_, (generateOneSchema "/out" modesMachine).2) :=
    Action.on_eq rfl
  have spares : ∀ command, (writesBindings "/out" .standard command).Spares .discard :=
    spares_writerTo _ _ _ _ _ _
  obtain ⟨base, built, outcome⟩ := leftovers_accounted (answering_pure _) contained leaves spares
    validated (Disk.isTree_of_entries (by decide +kernel)) ran
  have refused : ModesRefused modesMachine (generateOneSchema "/out" modesMachine).2 :=
    ⟨⟨Errno.accessDenied, by decide +kernel⟩, by decide +kernel⟩
  obtain ⟨directory, leads, accounted⟩ := outcome.resolve_left fun nothing => nothing.2.1 refused
  cases (leads_of_top absolute atTop base).unique leads
  obtain ⟨number, free, there⟩ := ((accounted fun _ => leads_of_top absolute atTop _).staging
    (leads_of_top absolute atTop _)).mpr (.inl refused)
  refine ⟨number, ?_, there⟩
  by_contra taken
  obtain ⟨node, found⟩ := Option.ne_none_iff_exists'.mp taken
  cases free.symm.trans (built.keeps validated.isRegular.parent _ node found)

/-- A machine on which nothing that the compiler wrote can be read, nor anything be removed that is
left of it. -/
def stuckMachine : Machine :=
  { bare with
    schedule := fun kind _ =>
      if kind = .read ∨ kind = .discard then some Errno.accessDenied else none }

example : (generateOneSchema "/out" stuckMachine).2.disk.HasDirectory
    [".out-staging-00000001"] := ⟨Disk.directoryMode, by decide +kernel⟩

end Bindery.Generation
