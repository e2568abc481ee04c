/-
This file tells when the making of a package stops as if a file were missing.

A refusal names the file of the task that it stops. It says that nothing is there for two reasons
only: a call that reads or writes was due to fail so, or the source of a module was not written.
Nothing else is ever missing: a stub is asked for before it is read, and whatever is written goes to
a directory that holds, or lies on the way to, a source that was read before.
-/

import Bindery.Proofs.Machine.Failures
import Bindery.Proofs.Package.Settled

namespace Bindery

open Text

/-- A call that reads or writes a file is due to fail as if nothing were there. -/
def Schedule.FeignsAbsence (schedule : Schedule) : Prop :=
  ∃ kind, (kind = .read ∨ kind = .write) ∧ ∃ count, schedule kind count = some Errno.noEntry

namespace Package

open Bindery.Action

variable {root : Path} {generated modules schemas : List String} {policy : Policy}
  {machine after : Machine} {task : Task} {fault : SystemFault}

/-! ### Refusals of single tasks -/

/-- The disk refuses a task as if nothing were there. -/
def Task.IsLost (disk : Disk) (here : Place) (root : Path) : Task → Prop
  | source _ place => disk.readFile here (root.down place) = .error Errno.noEntry
  | stub _ _ => False
  | mark package => ∃ bytes,
    disk.writeFile here (root.down (package ++ [initName])) bytes = .error Errno.noEntry
  | write place _ => ∃ bytes, disk.writeFile here (root.down place) bytes = .error Errno.noEntry

/-- A refusal is about a file, and it says that nothing is there only for a reason. -/
def Accounts (file : Path) (schedule : Schedule) (lost : Prop) (fault : SystemFault) : Prop :=
  fault.paths = [file.text] ∧ (fault.code = Errno.noEntry → schedule.FeignsAbsence ∨ lost)

theorem writeText_accounts (path : Path) (text : String) (machine : Machine) :
    (writeText path text).Meets machine fun result _ => ∀ fault, result = .error (.system fault) →
      Accounts path machine.schedule
        (machine.disk.writeFile machine.host.here path (bytesOf text) = .error Errno.noEntry)
        fault := by
  refine (writeText_refused path text machine).mono fun result _ ended fault same => ?_
  obtain ⟨about, cause⟩ := ended fault same
  refine ⟨about, fun absent => ?_⟩
  have missing := cause_of_noEntry absent cause
  rw [absent] at missing
  exact missing.imp_left fun scheduled => ⟨.write, .inr rfl, _, scheduled⟩

/-- What was read can be written again. -/
theorem writeFile_ne_noEntry_of_readFile {disk : Disk} {here : Place} {path : Path}
    {bytes : List UInt8} (read : disk.readFile here path = .ok bytes) (other : List UInt8) :
    disk.writeFile here path other ≠ .error Errno.noEntry := by
  obtain ⟨place, mode, located⟩ := Disk.locate_of_readFile read
  unfold Disk.writeFile
  rw [located]
  intro impossible
  cases impossible

theorem rewriteFile_accounts (depth : Nat) (path : Path) (machine : Machine) :
    (rewriteFile generated depth path).Meets machine fun result _ =>
      ∀ fault, result = .error (.system fault) → Accounts path machine.schedule
        (machine.disk.readFile machine.host.here path = .error Errno.noEntry) fault := by
  unfold rewriteFile
  refine ((readText_meets path machine).and (readText_refused path machine)).bind ?_ ?_
  · rintro _ between ⟨⟨rfl, read⟩, -⟩
    cases read with
    | read bytes source _ there =>
      refine (writeText_accounts path _ _).mono fun result _ ended fault same => ?_
      obtain ⟨about, cause⟩ := ended fault same
      refine ⟨about, fun code => .inl ?_⟩
      rcases cause code with feigned | refused
      · exact feigned
      · exact absurd refused (writeFile_ne_noEntry_of_readFile there _)
  · rintro failure between ⟨⟨-, read⟩, cause⟩ fault same
    cases same
    cases read with
    | refused code =>
      refine ⟨rfl, fun absent => ?_⟩
      replace absent : code = Errno.noEntry := absent
      subst absent
      exact (cause_of_noEntry rfl (cause _ rfl)).imp_left fun scheduled =>
        ⟨.read, .inl rfl, _, scheduled⟩

/-- A question about a path is never refused as if nothing were there. -/
theorem answer_accounts {path : Path} {failure : Failure}
    (failed : answer machine path = .error failure) (same : failure = .system fault) (lost : Prop) :
    Accounts path machine.schedule lost fault := by
  obtain ⟨code, rfl, withheld⟩ := answer_fails failed
  cases same
  exact ⟨rfl, fun absent => absurd absent withheld.ne_noEntry⟩

theorem act_accounts (task : Task) (machine : Machine) :
    (task.act root generated).Meets machine fun result _ =>
      ∀ fault, result = .error (.system fault) → Accounts (root.down task.place) machine.schedule
        (task.IsLost machine.disk machine.host.here root) fault := by
  cases task with
  | source depth place => exact rewriteFile_accounts depth _ machine
  | stub depth place =>
    unfold Task.act Meets
    rw [on_bind, on_pathExists]
    cases answered : answer machine (root.down place) with
    | error failure => exact fun fault same => answer_accounts answered (Except.error.inj same) _
    | ok found =>
      cases found with
      | none => exact fun fault impossible => by cases impossible
      | some node =>
        intro fault same
        obtain ⟨about, cause⟩ := rewriteFile_accounts depth (root.down place) machine fault same
        refine ⟨about, fun code => .inl ((cause code).resolve_right fun refused => ?_)⟩
        obtain ⟨found, located⟩ := locate_of_answer answered
        unfold Disk.readFile Disk.nodeAt at refused
        rw [located] at refused
        cases node with
        | file => cases refused
        | directory | link => exact absurd (Except.error.inj refused) (by decide)
  | mark package =>
    unfold Task.act Meets
    rw [on_bind, on_pathExists]
    cases answered : answer machine (root.down (package ++ [initName])) with
    | error failure => exact fun fault same => answer_accounts answered (Except.error.inj same) _
    | ok found =>
      cases found with
      | some node => exact fun fault impossible => by cases impossible
      | none =>
        intro fault same
        obtain ⟨about, cause⟩ := writeText_accounts _ header machine fault same
        exact ⟨about, fun code => (cause code).imp_right fun refused => ⟨_, refused⟩⟩
  | write place text =>
    refine (writeText_accounts _ text machine).mono fun result _ ended fault same => ?_
    obtain ⟨about, cause⟩ := ended fault same
    exact ⟨about, fun code => (cause code).imp_right fun refused => ⟨_, refused⟩⟩

/-! ### Calls that are due to fail, over runs of tasks -/

theorem keepsSchedule_runTasks (tasks : List Task) :
    KeepsSchedule (runTasks root generated tasks) := by
  have keeps : (runTasks root generated tasks).KeepsTo fun _ => True :=
    keepsTo_runTasks fun _ _ => trivial
  exact fun machine => (keeps.kept machine).mono fun _ _ kept => kept.keeps.schedule

/-! ### What was done before a task -/

/-- The task for the source of a module. -/
def sourceTask (name : String) : Task := .source (depth name) (fileOf name sourceSuffix)

/-- A place in a list that is made of pieces lies in one of the pieces, or in what follows them. -/
theorem flatMap_split {α β : Type} {pieces : α → List β} {whole : List α} {last front back : List β}
    {item : β} (shape : whole.flatMap pieces ++ last = front ++ item :: back) :
    (∃ first piece others own final, whole = first ++ piece :: others ∧
        front = first.flatMap pieces ++ own ∧ pieces piece = own ++ item :: final) ∨
      ∃ own, front = whole.flatMap pieces ++ own ∧ last = own ++ item :: back := by
  induction whole generalizing front with
  | nil => exact .inr ⟨front, rfl, shape⟩
  | cons each rest inductionHypothesis =>
    rw [List.flatMap_cons, List.append_assoc] at shape
    have later : ∀ more, front = pieces each ++ more →
        rest.flatMap pieces ++ last = more ++ item :: back →
        (∃ first piece others own final, each :: rest = first ++ piece :: others ∧
            front = first.flatMap pieces ++ own ∧ pieces piece = own ++ item :: final) ∨
          ∃ own, front = (each :: rest).flatMap pieces ++ own ∧ last = own ++ item :: back := by
      rintro more rfl shape
      rcases inductionHypothesis shape with
        ⟨first, piece, others, own, final, rfl, rfl, inPiece⟩ | ⟨own, rfl, inLast⟩
      · exact .inl ⟨each :: first, piece, others, own, final, rfl, by simp, inPiece⟩
      · exact .inr ⟨own, by simp, inLast⟩
    rcases List.append_eq_append_iff.mp shape with ⟨more, split, shape⟩ | ⟨more, split, shape⟩
    · exact later more split shape
    · cases more with
      | nil => exact later [] (by simpa using split.symm) shape.symm
      | cons other more =>
        obtain ⟨rfl, -⟩ := List.cons.inj shape
        exact .inl ⟨[], each, rest, front, more, rfl, rfl, split⟩

/-- A task is about the source of a module, or it comes after that of its module, or after those of
all modules. -/
theorem sourceTask_before {front back : List Task}
    (shape : tasksOf modules policy = front ++ task :: back) :
    (∃ name ∈ modules, task = sourceTask name) ∨
      (∃ name ∈ modules, sourceTask name ∈ front ∧
        ((∃ depth place, task = .stub depth place) ∨ ∃ package ∈ packagesOf name,
          task = .mark package)) ∨
        task ∈ lastTasks modules policy ∧ ∀ name ∈ modules, sourceTask name ∈ front := by
  rcases flatMap_split shape with
    ⟨first, name, rest, own, others, rfl, rfl, inModule⟩ | ⟨own, rfl, inLast⟩
  · have isModule : name ∈ first ++ name :: rest := List.mem_append_right _ List.mem_cons_self
    cases own with
    | nil => exact .inl ⟨name, isModule, (List.cons.inj inModule).1.symm⟩
    | cons source own =>
      obtain ⟨rfl, later⟩ := List.cons.inj inModule
      refine .inr (.inl ⟨name, isModule, List.mem_append_right _ List.mem_cons_self, ?_⟩)
      have member : task ∈ .stub (depth name) (fileOf name stubSuffix) ::
          (packagesOf name).map .mark := later ▸ List.mem_append_right _ List.mem_cons_self
      rcases List.mem_cons.mp member with rfl | marked
      · exact .inl ⟨_, _, rfl⟩
      · obtain ⟨package, isPackage, rfl⟩ := List.mem_map.mp marked
        exact .inr ⟨package, isPackage, rfl⟩
  · refine .inr (.inr ⟨?_, fun name isModule => ?_⟩)
    · rw [inLast]
      exact List.mem_append_right _ List.mem_cons_self
    · exact List.mem_append_left _ (List.mem_flatMap.mpr ⟨name, isModule, List.mem_cons_self⟩)

section Grounds

variable {ground : Disk.Ground} {front : List Task} {between : Machine} {name : String}

/-- A source that was read is there, and its path is short enough. -/
theorem source_of_front (named : ∀ task ∈ front, task.IsNamed)
    (usable : ∀ task ∈ front, holdsNull (ground.root.down task.place) = false)
    (untouched : ground.Untouched machine)
    (ran : (runTasks ground.root generated front).on machine = (.ok (), between))
    (member : sourceTask name ∈ front) :
    between.disk.tree ground.top (fileOf name sourceSuffix) ≠ none ∧
      Disk.FitsBelow ground.root (fileOf name sourceSuffix) := by
  obtain ⟨before, later, rfl⟩ := List.append_of_mem member
  obtain ⟨some, namedSource⟩ := named _ member
  obtain ⟨reading, next, ranBefore, ranSource⟩ := runTasks_ok ran rfl
  obtain ⟨⟨here, stands⟩, changed⟩ := untouched_of_runTasks untouched
    (fun task inside => named task (List.mem_append_left _ inside))
    (fun task inside => usable task (List.mem_append_left _ inside)) ranBefore
  obtain ⟨-, changedAll⟩ := untouched_of_runTasks untouched named usable ran
  obtain ⟨usableSource, fits⟩ := reachable_of_rewriteFile namedSource ranSource
  refine ⟨?_, fits⟩
  have there : reading.disk.tree ground.top (fileOf name sourceSuffix) ≠ none := by
    have read : (rewriteFile generated (depth name)
        (ground.root.down (fileOf name sourceSuffix))).Meets reading fun result _ =>
          result = .ok () →
            reading.disk.tree ground.top (fileOf name sourceSuffix) ≠ none := by
      unfold rewriteFile
      refine (readText_meets _ reading).bind ?_ ?_
      · rintro text written ⟨-, read⟩
        cases read with
        | read bytes source _ found =>
          rw [here] at found
          obtain ⟨mode, isFile⟩ := Disk.Ground.readFile stands some namedSource found
          intro _ absent
          have present := isFile.symm.trans absent
          cases present
      · intro failure written _ impossible
        cases impossible
    exact read.of_on ranSource rfl
  rw [changed] at there
  rw [changedAll, changes_append]
  exact changes_ne_none there

/-- Why the file of a task is said to be missing. -/
inductive Missing (modules : List String) (tree : Tree) (schedule : Schedule) : Task → Prop
  /-- The source of a module was not written. -/
  | unwritten (name : String) (isModule : name ∈ modules)
    (absent : tree (fileOf name sourceSuffix) = none) :
    Missing modules tree schedule (sourceTask name)
  /-- A call is due to fail as if nothing were there. -/
  | feigned (task : Task) (feigns : schedule.FeignsAbsence) : Missing modules tree schedule task

/-- A refusal that stops the tasks is about one of their files, and it says that nothing is there
only if a source was not written or a call was due to fail so. -/
theorem missing_of_runTasks (untouched : ground.Untouched machine)
    (rooted : ∀ {disk : Disk}, ground.Stands disk → disk.HasDirectory ground.top →
      Disk.Rooted ground.here ground.root ground.top disk)
    (written : modules ≠ []) (usable : ∀ task ∈ tasksOf modules policy,
      holdsNull (ground.root.down task.place) = false)
    (ran : (runTasks ground.root modules (tasksOf modules policy)).on machine =
      (.error (.system fault), after)) :
    ∃ task ∈ tasksOf modules policy, fault.paths = [(ground.root.down task.place).text] ∧
      (fault.code = Errno.noEntry →
        Missing modules (machine.disk.tree ground.top) machine.schedule task) := by
  obtain ⟨front, task, back, between, shape, ranFront, failed⟩ := runTasks_error ran
  have among : ∀ each ∈ front, each ∈ tasksOf modules policy := fun each inside =>
    shape ▸ List.mem_append_left _ inside
  have member : task ∈ tasksOf modules policy :=
    shape ▸ List.mem_append_right _ List.mem_cons_self
  have namedFront : ∀ each ∈ front, each.IsNamed := fun each inside =>
    isNamed_of_mem_tasksOf (among each inside)
  have usableFront : ∀ each ∈ front, holdsNull (ground.root.down each.place) = false :=
    fun each inside => usable each (among each inside)
  obtain ⟨⟨here, stands⟩, changed⟩ :=
    untouched_of_runTasks untouched namedFront usableFront ranFront
  have schedule := (keepsSchedule_runTasks front machine).of_on ranFront
  obtain ⟨about, cause⟩ := (act_accounts task between).of_on failed fault rfl
  refine ⟨task, member, about, fun code => ?_⟩
  rcases cause code with feigns | lost
  · exact .feigned task (schedule ▸ feigns)
  rw [here] at lost
  -- A directory on the way to a source that was read before is there.
  have found : ∀ {name : String} (package : Place) {final : String} {bytes : List UInt8},
      sourceTask name ∈ front → package <+: (pieces name).dropLast →
      (∀ part ∈ package ++ [final], IsName part) →
        between.disk.writeFile ground.here (ground.root.down (package ++ [final])) bytes ≠
          .error Errno.noEntry := by
    rintro name package final bytes before ⟨rest, split⟩ named
    obtain ⟨there, fits⟩ := source_of_front namedFront usableFront untouched ranFront before
    rw [fileOf, ← split, List.append_assoc] at there fits
    have below := List.append_ne_nil_of_right_ne_nil rest
      (List.cons_ne_nil ((pieces name).getLastD "" ++ sourceSuffix) [])
    have top := (ground.isTree stands).hasDirectory_above (package ++ _)
      (List.append_ne_nil_of_right_ne_nil _ below) there
    rw [Disk.tree, ← List.append_assoc] at there
    exact (rooted stands top).writeFile_ne_noEntry named
      (fun part isPart => fits.2 part (List.mem_append_left _ isPart))
      ((ground.isTree stands).hasDirectory_above _ below there) bytes
  obtain ⟨some, named⟩ := isNamed_of_mem_tasksOf member
  rcases sourceTask_before shape with
    ⟨name, isModule, rfl⟩ | ⟨name, isModule, before, inModule⟩ | ⟨isLast, before⟩
  · refine .unwritten name isModule (Decidable.byContradiction fun there => ?_)
    refine Disk.Ground.readFile_ne_noEntry stands some named ?_ lost
    rw [changed]
    exact changes_ne_none there
  · rcases inModule with ⟨depth, place, rfl⟩ | ⟨package, isPackage, rfl⟩
    · exact lost.elim
    · obtain ⟨bytes, refused⟩ := lost
      exact absurd refused (found package before (mem_packagesOf.mp isPackage).2 named)
  · obtain ⟨name, isModule⟩ := List.exists_mem_of_ne_nil _ written
    rcases mem_lastTasks.mp isLast with ⟨-, rfl⟩ | rfl
    · obtain ⟨bytes, refused⟩ := lost
      exact absurd refused (found [] (before name isModule) List.nil_prefix named)
    · obtain ⟨bytes, refused⟩ := lost
      exact absurd refused (found [] (before name isModule) List.nil_prefix named)

end Grounds

end Package

end Bindery
