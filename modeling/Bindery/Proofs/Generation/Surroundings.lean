/-
This file proves that a run touches nothing that was there, except the output.

A run makes directories, works in a directory beside the output, and moves the output aside. None
of this meets an entry that was there before: the names that it works under were free, or lie in a
directory that it has made itself. For the name that the output is moved aside to this is not
checked, so it is asked that no name beside the output has the digits of the temporary name in it.
-/

import Bindery.Proofs.Generation.Writer

namespace Bindery.Generation

open Disk (Built SameOutside)

variable {lookup : Compiler.Lookup} {run : Runner} {invocation : Invocation} {policy : Policy}
  {before after : Machine} {here directory place : Place} {output : Path} {number : Nat}
  {base disk now : Disk} {node : Node} {result : Except Failure Unit}

/-! ### Names beside the output -/

/-- No entry beside the output has the digits of a number in its name. -/
def FreshBeside (here : Place) (output : Path) (number : Nat) (disk : Disk) : Prop :=
  ∀ directory name, disk.Leads here output.parent directory →
    disk.get? (directory ++ [name]) ≠ none →
      ¬ (Action.temporaryDigits number).toList <:+: name.toList

theorem freshBeside_of_entries
    (unmarked : ∀ entry ∈ disk.entries,
      ¬ (Action.temporaryDigits number).toList <:+: (entry.1.getLastD "").toList) :
    FreshBeside here output number disk := by
  intro directory name _ there
  obtain ⟨node, listed⟩ := Option.ne_none_iff_exists'.mp there
  have free := unmarked (directory ++ [name], node) (Disk.mem_entries_of_get? (by simp) listed)
  rwa [List.getLastD_concat] at free

/-- A place is neither that of the output nor below it, wherever its path leads. -/
def OffOutput (here : Place) (output : Path) (disk : Disk) (place : Place) : Prop :=
  ∀ directory, disk.Leads here output.parent directory → ¬ outputPlace output directory <+: place

/-- The name that output is moved aside to ends with the digits of the staging directory. -/
theorem digits_infix_previousName (output : Path) (number : Nat) :
    (Action.temporaryDigits number).toList <:+: (previousName output number).toList := by
  obtain ⟨front, back, names⟩ := exists_marks output
  rw [(names number).2, ← List.append_assoc]
  exact (List.suffix_append _ _).isInfix

section

variable (isTree : disk.IsTree) (absolute : output.isAbsolute = true) (plain : output.IsPlain)
  (workspace : Workspace here output disk base directory number now)

include isTree absolute plain workspace

/-- Either no directory was made, or the output and its neighbours lie in a new one. -/
theorem Workspace.eq_or_new : base = disk ∨ disk.get? directory = none ∧
    ∀ rest, rest ≠ [] → base.get? (directory ++ rest) = none := by
  have parentAbsolute : output.parent.isAbsolute = true := absolute
  exact workspace.built.eq_or_new isTree parentAbsolute plain.parent workspace.inside.leads

theorem Workspace.previous_free (fresh : FreshBeside here output number disk) :
    base.get? (previousPlace output number directory) = none := by
  rcases workspace.eq_or_new isTree absolute plain with rfl | ⟨-, bare⟩
  · by_contra taken
    exact fresh directory _ workspace.inside.leads taken (digits_infix_previousName output number)
  · exact bare [previousName output number] (by simp)

theorem Workspace.offOutput (found : base.get? place = some node)
    (off : OffOutput here output disk place) : ¬ outputPlace output directory <+: place := by
  rcases workspace.eq_or_new isTree absolute plain with rfl | ⟨-, bare⟩
  · exact off directory workspace.inside.leads
  · exact workspace.inside.baseTree.not_under (bare [output.name] (by simp)) found

end

/-- Nothing is in the way when the name that output is moved aside to is free. -/
theorem Workspace.clear_of_free
    (workspace : Workspace here output disk base directory number now)
    (absolute : output.isAbsolute = true)
    (free : base.get? (previousPlace output number directory) = none) :
    Clear here output number directory base := by
  refine workspace.inside.leads.keep absolute fun place node found _ => ?_
  rw [Disk.get?_eraseTree_of_not_under _ (workspace.inside.baseTree.not_under free found), found]

/-! ### Runs without a temporary name -/

/-- Until the publication has ended no temporary name is taken but that of the staging directory. -/
theorem Worked.temporary {schemas : List String} {compiler : Compiler} {staged left : Machine}
    {ended : Except Failure (List String)}
    (worked : Worked run invocation policy schemas compiler here disk base directory number staged
      ended left) : left.nextTemporary = staged.nextTemporary := by
  cases worked with
  | stopped _ _ follows => exact follows.temporary
  | attempted between follows _ _ _ _ _ _ _ ran =>
    exact ((steady_publish _ _ between).of_on ran).2.1.trans follows.temporary

/-- A run that takes no temporary name keeps all entries. -/
theorem generate_keeps_or_takes (quiet : Quiet lookup)
    (confined : ConfinedRunner run invocation policy)
    (regular : invocation.outputDirectory.IsRegular)
    (absolute : invocation.outputDirectory.isAbsolute = true) (isTree : before.disk.IsTree) :
    (generate lookup run invocation policy).Meets before fun _ after =>
      before.disk.Keeps after.disk ∨ before.nextTemporary < after.nextTemporary := by
  have kept : ∀ {after : Machine}, after.disk = before.disk → before.disk.Keeps after.disk := by
    intro after same place node found
    rw [same, found]
  refine (generate_course before).mono fun result after course => ?_
  cases course with
  | unresolved failure resolved _ ran logged =>
    exact .inl (kept (logged.disk.trans ((resolve_meets quiet before).of_on ran).2))
  | unlisted compiler error _ resolved => exact .inl (kept (resolved.follows quiet).2)
  | unstaged compiler ready resolved failure stopped _ ran logged =>
    obtain ⟨-, same⟩ := resolved.follows quiet
    obtain ⟨-, -, -, unprepared⟩ := (stage_meets regular absolute ready (same ▸ isTree)).of_on ran
    refine .inl ?_
    rw [logged.disk, ← same]
    cases unprepared with
    | unmade built => exact built.keeps regular.parent
    | left base directory number workspace =>
      exact (workspace.built.keeps regular.parent).trans workspace.inside.keeps
  | worked compiler schemas ready resolved listed staging staged stagedIt ended left effort final
      cleaned _ ran logged =>
    obtain ⟨follows, same⟩ := resolved.follows quiet
    have taken := (stage_takes regular absolute ready).of_on stagedIt staging rfl
    obtain ⟨onward, -, -, base, directory, number, rfl, isReady, workspace, -⟩ :=
      (stage_meets regular absolute ready (same ▸ isTree)).of_on stagedIt
    have worked := effort.worked (by rw [onward.host]) absolute workspace isReady confined
    have cleanedFollows := ((cleanUp_removal _ left).of_on ran).follows
    rw [follows.temporary, ← worked.temporary, ← cleanedFollows.temporary,
      ← logged.follows.temporary] at taken
    exact .inr taken

/-! ### What is kept -/

/-- What was on the disk, and not at the output, is kept wherever a run changes only the places
that it is about. -/
theorem Workspace.keeps_of_sameOutside {other : Disk}
    (workspace : Workspace here output disk base directory number now) (isTree : disk.IsTree)
    (absolute : output.isAbsolute = true) (plain : output.IsPlain)
    (fresh : FreshBeside here output number disk)
    (same : SameOutside (places output number directory) base other)
    (there : disk.get? place = some node) (off : OffOutput here output disk place) :
    other.get? place = some node := by
  have baseTree := workspace.inside.baseTree
  have found := workspace.built.keeps plain.isRegular.parent place node there
  refine (same place fun top member => ?_).trans found
  simp only [places, List.mem_cons, List.not_mem_nil, or_false] at member
  rcases member with rfl | rfl | rfl
  · exact baseTree.not_under workspace.inside.free found
  · exact workspace.offOutput isTree absolute plain found off
  · exact baseTree.not_under (workspace.previous_free isTree absolute plain fresh) found

theorem surroundings_kept (quiet : Quiet lookup)
    (confined : ConfinedRunner run invocation policy) (validated : invocation.Validated)
    (noWayUp : ".." ∉ invocation.outputDirectory.parts) (isTree : before.disk.IsTree)
    (ran : (generate lookup run invocation policy).on before = (result, after))
    (fresh : before.nextTemporary < after.nextTemporary →
      FreshBeside before.host.here invocation.outputDirectory (lastNumber after) before.disk)
    (there : before.disk.get? place = some node)
    (off : OffOutput before.host.here invocation.outputDirectory before.disk place) :
    after.disk.get? place = some node := by
  have absolute := validated.isAbsolute
  have regular := validated.isRegular
  have plain : invocation.outputDirectory.IsPlain := fun part member =>
    ⟨(regular part member).1, (regular part member).2, fun up => noWayUp (up ▸ member)⟩
  rcases (generate_keeps_or_takes quiet confined regular absolute isTree).of_on ran with
    keeps | takes
  · exact keeps place node there
  have unmarked := fresh takes
  have ending := ((generate_meets quiet confined regular absolute isTree).of_on ran).2
  cases ending with
  | early _ _ built => exact built.keeps regular.parent place node there
  | kept _ _ workspace same =>
    have found := workspace.built.keeps regular.parent place node there
    refine (same place fun top member => ?_).trans found
    rw [List.mem_singleton.mp member]
    exact workspace.inside.baseTree.not_under workspace.inside.free found
  | obstructed _ _ workspace taken occupied obstacle =>
    rw [lastNumber_eq taken] at unmarked
    exact absurd (workspace.clear_of_free absolute
      (workspace.previous_free isTree absolute plain unmarked)) obstacle
  | putBack _ _ workspace taken same =>
    rw [lastNumber_eq taken] at unmarked
    exact workspace.keeps_of_sameOutside isTree absolute plain unmarked
      (same.mono (by simp [places])) there off
  | stranded _ _ workspace taken same =>
    rw [lastNumber_eq taken] at unmarked
    exact workspace.keeps_of_sameOutside isTree absolute plain unmarked same there off
  | published _ workspace taken same =>
    rw [lastNumber_eq taken] at unmarked
    exact workspace.keeps_of_sameOutside isTree absolute plain unmarked same there off

/-- A machine on which the output is a link, beside which lies what an earlier run left. -/
def linked : Machine :=
  machineWith [(["out"], .link "held"), (["held"], .directory Disk.directoryMode),
    (["held", "kept.py"], .file [] Disk.fileMode),
    ([".out-previous-00000007"], .directory Disk.directoryMode),
    ([".out-previous-00000007", "kept.py"], .file [] Disk.fileMode)] [] Log.Level.info

theorem link_target_kept :
    (generateOneSchema "/out" linked).1 = .ok () ∧
      ∀ top ∈ ["held", ".out-previous-00000007"],
        (generateOneSchema "/out" linked).2.disk.get? [top, "kept.py"] =
          some (.file [] Disk.fileMode) := by
  have ran : (generateOneSchema "/out" linked).1 = .ok () ∧
      lastNumber (generateOneSchema "/out" linked).2 = 1 := by decide +kernel
  obtain ⟨succeeded, last⟩ := ran
  refine ⟨succeeded, fun top member => ?_⟩
  have absolute : (oneSchema "/out").outputDirectory.isAbsolute = true := by decide +kernel
  refine surroundings_kept quiet_foundInstalled (confined_writesBindings absolute .standard)
    (validated_oneSchema linked rfl (by decide +kernel)) (by decide +kernel)
    (Disk.isTree_of_entries (by decide +kernel)) (Action.on_eq succeeded) (fun _ => ?_) ?_ ?_
  · rw [last]
    exact freshBeside_of_entries (by decide +kernel)
  · revert top
    decide +kernel
  · intro directory leads
    cases (leads_of_top absolute (by decide +kernel) _).unique leads
    revert top
    decide +kernel

end Bindery.Generation
