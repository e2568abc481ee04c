/-
This file proves that a run that fails leaves the output as it was.

The output is an entry with everything below it, or nothing at all; a failed run leaves the same
entry there, whatever failed and whatever the compiler did. There is one exception: when the output
was moved aside and neither the new bindings nor the old ones could be moved to its place, the old
ones lie beside it, and a record says where. All this holds if the way to the output does not go
through the name that it is moved aside to, where a link may lead back to the same directory: it
gives way to the output, and then the path leads elsewhere or nowhere.
-/

import Bindery.Proofs.Generation.Writer

namespace Bindery.Generation

open Disk (Built SameOutside)

variable {lookup : Compiler.Lookup} {run : Runner} {invocation : Invocation} {policy : Policy}
  {before after : Machine} {failure : Failure}

/-- The old output is not in its place but, complete, beside it. -/
structure Stranded (output : Path) (directory : Place) (before after : Machine) : Prop where
  leads : before.disk.Leads before.host.here output.parent directory
  entry : before.disk.entryAt before.host.here output =
    some (before.disk.tree (outputPlace output directory))
  moved : after.disk.tree (previousPlace output (lastNumber after) directory) =
    before.disk.tree (outputPlace output directory)
  gone : after.disk.get? (outputPlace output directory) = none
  /-- A path leads to it, unless the way to the output goes through the output itself. -/
  beside : (before.disk.eraseTree (outputPlace output directory)).Leads before.host.here
      output.parent directory →
    after.disk.entryAt before.host.here (besidePath output (lastNumber after)) =
      before.disk.entryAt before.host.here output
  /-- Three entries were to be moved: the old output aside, the new one in its place, and the old
  one back. -/
  renames : after.calls .rename = before.calls .rename + 3
  /-- A record names the path, unless errors are not logged. -/
  recorded : before.host.level.deciding ≤ Log.Level.error →
    .logged Log.Level.error (.text (strandedMessage output (lastNumber after))) ∈ after.journal

/-- The entry of the output is the same on two disks that lead to its directory and differ only
beside it. -/
theorem entryAt_eq_of_sameOutside {here directory : Place} {output : Path} {number : Nat}
    {base other : Disk} (named : IsName output.name) (some : output.parts ≠ [])
    (leads : base.Leads here output.parent directory)
    (leadsAfter : other.Leads here output.parent directory)
    (same : SameOutside [stagingPlace output number directory,
      previousPlace output number directory] base other) :
    other.entryAt here output = base.entryAt here output := by
  obtain ⟨apartStaging, apartPrevious, -⟩ := places_apart output number directory
  have entries := leads.entryAt_eq leadsAfter named <| same.tree_eq fun top member => by
    simp only [List.mem_cons, List.not_mem_nil, or_false] at member
    rcases member with rfl | rfl
    · exact apartStaging.symm
    · exact apartPrevious.symm
  rwa [output.down_parent some] at entries

/-- Where an entry lies to which there is a path, the path leads to it wherever it is moved. -/
theorem entryAt_beside {here directory : Place} {output : Path} {number : Nat} {disk other : Disk}
    (leads : other.Leads here output.parent directory)
    (fits : Disk.Fits (besidePath output number) (previousName output number))
    (moved : other.tree (previousPlace output number directory) =
      disk.tree (outputPlace output directory))
    (there : disk.get? (outputPlace output directory) ≠ none) :
    other.entryAt here (besidePath output number) =
      some (disk.tree (outputPlace output directory)) := by
  have found := leads.entryAt (isName_previousName output number)
  have thereNow : other.get? (directory ++ [previousName output number]) ≠ none :=
    ne_none_of_tree_eq moved there
  rw [besidePath, found, if_neg, ← moved]
  · rfl
  · rintro (long | long | absent)
    · exact fits.1 long
    · rw [fits.2] at long
      cases long
    · exact thereNow absent

/-- A run that could not move the output back strands it. -/
theorem Workspace.stranded {output : Path} {directory : Place} {number : Nat} {now : Disk}
    (workspace : Workspace before.host.here output before.disk before.disk directory number now)
    (absolute : output.isAbsolute = true) (named : IsName output.name) (notTop : output.parts ≠ [])
    (clear : Clear before.host.here output number directory before.disk)
    (taken : after.nextTemporary = number + 1)
    (same : SameOutside (places output number directory) before.disk after.disk)
    (moved : after.disk.tree (previousPlace output number directory) =
      before.disk.tree (outputPlace output directory))
    (gone : after.disk.get? (outputPlace output directory) = none)
    (occupied : (before.disk.entryAt before.host.here output).isSome = true)
    (fits : Disk.Fits (besidePath output number) (previousName output number))
    (renames : after.calls .rename = before.calls .rename + 3)
    (recorded : before.host.level.deciding ≤ Log.Level.error →
      .logged Log.Level.error (.text (strandedMessage output number)) ∈ after.journal) :
    Stranded output directory before after := by
  have leads := workspace.inside.leads
  have found := leads.entryAt named
  rw [output.down_parent notTop] at found
  have there : before.disk.get? (outputPlace output directory) ≠ none := by
    intro absent
    rw [found, if_pos (.inr (.inr absent))] at occupied
    cases occupied
  have entry : before.disk.entryAt before.host.here output =
      some (before.disk.tree (outputPlace output directory)) := by
    rw [found] at occupied ⊢
    split at occupied
    next => cases occupied
    next notAbsent => rw [if_neg notAbsent]; rfl
  refine ⟨leads, entry, ?_, gone, fun apart => ?_, renames, ?_⟩
  · rw [lastNumber_eq taken]
    exact moved
  · rw [lastNumber_eq taken, entry]
    exact entryAt_beside (workspace.leads_beside absolute clear apart same) fits moved there
  · rw [lastNumber_eq taken]
    exact recorded

theorem output_kept_of_failed (quiet : Quiet lookup)
    (confined : ConfinedRunner run invocation policy) (validated : invocation.Validated)
    (noWayUp : ".." ∉ invocation.outputDirectory.parts)
    (notTop : invocation.outputDirectory.parts ≠ []) (isTree : before.disk.IsTree)
    (failed : (generate lookup run invocation policy).on before = (.error failure, after))
    (unobstructed : Unobstructed before.host.here invocation.outputDirectory (lastNumber after)
      before.disk) :
    after.disk.entryAt before.host.here invocation.outputDirectory =
        before.disk.entryAt before.host.here invocation.outputDirectory ∨
      ∃ directory, Stranded invocation.outputDirectory directory before after := by
  have absolute := validated.isAbsolute
  have regular := validated.isRegular
  have plain : invocation.outputDirectory.IsPlain := fun part member =>
    ⟨(regular part member).1, (regular part member).2, fun up => noWayUp (up ▸ member)⟩
  have named : IsName invocation.outputDirectory.name := plain _ (Path.name_mem notTop)
  -- Making directories matters only where there was no output.
  have atBase : ∀ {base : Disk}, Built before.host.here invocation.outputDirectory.parent
      before.disk base → (base.entryAt before.host.here invocation.outputDirectory).isSome = true →
        base = before.disk := by
    intro base built occupied
    rcases built.eq_or_absent isTree absolute plain notTop with same | ⟨absent, -⟩
    · exact same
    · rw [absent] at occupied
      cases occupied
  have entry_eq : ∀ {base : Disk}, Built before.host.here invocation.outputDirectory.parent
      before.disk base → base.entryAt before.host.here invocation.outputDirectory =
        before.disk.entryAt before.host.here invocation.outputDirectory := by
    intro base built
    rcases built.eq_or_absent isTree absolute plain notTop with same | ⟨absent, absentBefore⟩
    · rw [same]
    · rw [absent, absentBefore]
  have ending := ((generate_meets quiet confined regular absolute isTree).of_on failed).2
  cases ending with
  | early _ _ built => exact .inl (entry_eq built)
  | @kept base directory number _ _ workspace same =>
    have sameBoth : SameOutside [stagingPlace invocation.outputDirectory number directory,
        previousPlace invocation.outputDirectory number directory] base after.disk :=
      same.mono (by simp)
    exact .inl <| (entryAt_eq_of_sameOutside named notTop workspace.inside.leads
      (workspace.leads_after absolute same) sameBoth).trans (entry_eq workspace.built)
  | obstructed _ _ workspace taken occupied obstacle =>
    cases atBase workspace.built occupied
    rw [lastNumber_eq taken] at unobstructed
    exact absurd (unobstructed occupied _ workspace.inside.leads) obstacle
  | putBack _ _ workspace taken same leads =>
    exact .inl <| (entryAt_eq_of_sameOutside named notTop workspace.inside.leads leads same).trans
      (entry_eq workspace.built)
  | @stranded base directory number _ _ workspace taken same moved gone occupied fits renames
      recorded =>
    have unchanged := atBase workspace.built occupied
    subst unchanged
    rw [lastNumber_eq taken] at unobstructed
    have clear := unobstructed occupied _ workspace.inside.leads
    exact .inr ⟨directory, workspace.stranded absolute named notTop clear taken same moved gone
      occupied fits renames recorded⟩

/-- A machine with output on which the new bindings cannot be moved to its place. -/
def refusingMachine : Machine :=
  machineWith
    [(["out"], .directory Disk.directoryMode), (["out", "old.py"], .file [] Disk.fileMode)]
    [2] Log.Level.info

theorem output_kept_of_refused_rename :
    (generateOneSchema "/out" refusingMachine).1.isOk = false ∧
      ((generateOneSchema "/out" refusingMachine).2.disk.entryAt [] (Path.parse "/out") =
          refusingMachine.disk.entryAt [] (Path.parse "/out") ∨
        ∃ directory, Stranded (Path.parse "/out") directory refusingMachine
          (generateOneSchema "/out" refusingMachine).2) := by
  have refused : (generateOneSchema "/out" refusingMachine).1.isOk = false := by decide +kernel
  refine ⟨refused, ?_⟩
  cases ended : (generateOneSchema "/out" refusingMachine).1 with
  | ok _ =>
    rw [ended] at refused
    cases refused
  | error failure =>
    have absolute : (oneSchema "/out").outputDirectory.isAbsolute = true := by decide +kernel
    have kept := output_kept_of_failed quiet_foundInstalled (confined_writesBindings absolute _)
      (validated_oneSchema refusingMachine rfl (by decide +kernel)) (by decide +kernel)
      (by decide +kernel) (Disk.isTree_of_entries (by decide +kernel)) (Action.on_eq ended)
      (unobstructed_of_top absolute (by decide +kernel) _)
    exact kept

/-! ### Runs after which the output is neither kept nor to be found -/

/-- The output is as it was, or a path leads to it and a record names the path. -/
def KeptOrRecorded (output : Path) (before after : Machine) : Prop :=
  after.disk.entryAt before.host.here output = before.disk.entryAt before.host.here output ∨
    after.disk.entryAt before.host.here (besidePath output (lastNumber after)) =
        before.disk.entryAt before.host.here output ∧
      .logged Log.Level.error (.text (strandedMessage output (lastNumber after))) ∈ after.journal

/-- A run for one schema fails, and the output is not kept. -/
structure Loses (output : String) (before : Machine) : Prop where
  confined : ConfinedRunner (writesBindings output .standard) (oneSchema output) .standard
  validated : (oneSchema output).Validated
  noWayUp : ".." ∉ (oneSchema output).outputDirectory.parts
  notTop : (oneSchema output).outputDirectory.parts ≠ []
  isTree : before.disk.IsTree
  failed : (generateOneSchema output before).1.isOk = false
  lost : ¬ KeptOrRecorded (oneSchema output).outputDirectory before
    (generateOneSchema output before).2

/-- What a disk holds where a path leads to. -/
def topAt (disk : Disk) (here : Place) (path : Path) : Option Node :=
  (disk.entryAt here path).bind fun tree => tree []

/-- A run that fails and leaves something else at the output, and neither the old output beside it
nor a record. -/
theorem loses_of_run {output : String} {before : Machine}
    (absolute : (oneSchema output).outputDirectory.isAbsolute = true)
    (noWayUp : ".." ∉ (oneSchema output).outputDirectory.parts)
    (notTop : (oneSchema output).outputDirectory.parts ≠ [])
    (validated : (oneSchema output).Validated) (isTree : before.disk.IsTree)
    (ran : (generateOneSchema output before).1.isOk = false ∧
      topAt (generateOneSchema output before).2.disk before.host.here (Path.parse output) ≠
          topAt before.disk before.host.here (Path.parse output) ∧
        (topAt (generateOneSchema output before).2.disk before.host.here
            (besidePath (Path.parse output) (lastNumber (generateOneSchema output before).2)) ≠
              topAt before.disk before.host.here (Path.parse output) ∨
          .logged Log.Level.error (.text (strandedMessage (Path.parse output)
            (lastNumber (generateOneSchema output before).2))) ∉
              (generateOneSchema output before).2.journal)) :
    Loses output before := by
  obtain ⟨failed, changed, notBeside⟩ := ran
  refine ⟨confined_writesBindings absolute _, validated, noWayUp, notTop, isTree, failed, ?_⟩
  rintro (same | ⟨same, recorded⟩)
  · exact changed (congrArg (fun entry => entry.bind fun tree => tree []) same)
  · rcases notBeside with other | unrecorded
    · exact other (congrArg (fun entry => entry.bind fun tree => tree []) same)
    · exact unrecorded recorded

/-- The way to the output goes through the name that it is moved aside to. -/
def roundabout : Machine :=
  machineWith [(["a"], .directory Disk.directoryMode), (["a", "out"], .link "../b"),
    (["a", ".out-previous-00000001"], .link "."), (["b"], .directory Disk.directoryMode),
    (["b", "out"], .directory Disk.directoryMode)] [] Log.Level.info

/-- The way to the output goes through the output. -/
def circular : Machine :=
  machineWith [(["out"], .directory Disk.directoryMode), (["out", "up"], .link "..")] []
    Log.Level.info

/-- Errors are not logged, and neither the new output nor the old one can be moved. -/
def silent : Machine :=
  machineWith [(["out"], .directory Disk.directoryMode)] [2, 3] Log.Level.critical

theorem loses_beyond_exception :
    Loses "/a/.out-previous-00000001/out" roundabout ∧ Loses "/out/up/out" circular ∧
      Loses "/out" silent := by
  refine ⟨?_, ?_, ?_⟩
  · exact loses_of_run (by decide +kernel) (by decide +kernel) (by decide +kernel)
      (validated_oneSchema roundabout rfl (by decide +kernel))
      (Disk.isTree_of_entries (by decide +kernel)) (by decide +kernel)
  · exact loses_of_run (by decide +kernel) (by decide +kernel) (by decide +kernel)
      (validated_oneSchema circular rfl (by decide +kernel))
      (Disk.isTree_of_entries (by decide +kernel)) (by decide +kernel)
  · exact loses_of_run (by decide +kernel) (by decide +kernel) (by decide +kernel)
      (validated_oneSchema silent rfl (by decide +kernel))
      (Disk.isTree_of_entries (by decide +kernel)) (by decide +kernel)

end Bindery.Generation
