/-
This file proves place by place what making a package changes.

The files of modules have their imports made relative, directories between the root and a module
that are no packages become ones, and the support module and the package's own module are written.
No task disturbs what another one produced: two tasks are about one file only if they are the same,
and then the second one changes nothing. So every other place is as it was, and all tasks leave the
finished tree as it is.
-/

import Bindery.Proofs.Disk.Below
import Bindery.Proofs.Package.Tasks

namespace Bindery

open Text

namespace Package

variable {generated modules schemas : List String} {policy : Policy} {tree : Tree} {place : Place}

/-! ### Tasks about other places -/

theorem Task.change_apply_of_ne {task : Task} (different : task.place ≠ place) :
    task.change generated tree place = tree place := by
  cases task with
  | source | stub => exact Tree.rewrite_apply.trans (if_neg (Ne.symm different))
  | mark => exact Tree.mark_apply_of_ne (Ne.symm different)
  | write => exact Tree.write_apply_of_ne (Ne.symm different)

/-- Tasks change no place that none of them is about. -/
theorem changes_apply_of_ne {tasks : List Task} (different : ∀ task ∈ tasks, task.place ≠ place) :
    changes generated tasks tree place = tree place := by
  induction tasks generalizing tree with
  | nil => rfl
  | cons task rest inductionHypothesis =>
    have others : ∀ each ∈ rest, each.place ≠ place := fun each member =>
      different each (List.mem_cons_of_mem _ member)
    exact (inductionHypothesis others).trans
      (Task.change_apply_of_ne (different task List.mem_cons_self))

/-- The module of a package that is marked is the one that was there, or else a header. -/
def marked (node : Option Node) : Option Node :=
  node.or (some (.file (bytesOf header) Disk.fileMode))

theorem mark_apply_self (package : Place) :
    Tree.mark tree package (package ++ [initName]) = marked (tree (package ++ [initName])) := by
  unfold Tree.mark marked
  cases found : tree (package ++ [initName]) with
  | some node => exact found
  | none =>
    rw [if_neg (by simp), Tree.write, if_pos rfl, found]
    rfl

theorem marked_marked (node : Option Node) : marked (marked node) = marked node := by
  cases node <;> rfl

/-- However often a directory is marked, the module that is there in the end is the first one. -/
theorem changes_apply_mark {tasks : List Task} {package : Place}
    (marks : ∀ task ∈ tasks, task.place = package ++ [initName] → task = .mark package)
    (some : .mark package ∈ tasks) :
    changes generated tasks tree (package ++ [initName]) =
      marked (tree (package ++ [initName])) := by
  induction tasks generalizing tree with
  | nil => cases some
  | cons task rest inductionHypothesis =>
    have restMarks : ∀ each ∈ rest, each.place = package ++ [initName] → each = .mark package :=
      fun each member => marks each (List.mem_cons_of_mem _ member)
    have rest_eq : ∀ other : Tree, .mark package ∉ rest →
        changes generated rest other (package ++ [initName]) = other (package ++ [initName]) :=
      fun other none => changes_apply_of_ne fun each member same =>
        none (restMarks each member same ▸ member)
    have inTurn : changes generated (task :: rest) tree =
        changes generated rest (task.change generated tree) := rfl
    rw [inTurn]
    by_cases same : task.place = package ++ [initName]
    · cases marks task List.mem_cons_self same
      have first : (Task.mark package).change generated tree (package ++ [initName]) =
          marked (tree (package ++ [initName])) := mark_apply_self package
      by_cases more : .mark package ∈ rest
      · rw [inductionHypothesis restMarks more, first, marked_marked]
      · rw [rest_eq _ more, first]
    · have later : .mark package ∈ rest := by
        rcases List.mem_cons.mp some with first | later
        · exact absurd (congrArg Task.place first.symm) same
        · exact later
      rw [inductionHypothesis restMarks later, Task.change_apply_of_ne same]

/-! ### Tasks and the files that they are about -/

theorem ne_nil_of_mem_packagesOf {name : String} {package : Place}
    (isPackage : package ∈ packagesOf name) : package ≠ [] := (mem_packagesOf.mp isPackage).1

/-- No task for a module is about a file that the package has besides. -/
theorem place_ne_beside {name other : String} (isModule : name ∈ modulesOf schemas)
    (beside : other ∈ besideNames) {task : Task} (member : task ∈ moduleTasks name) :
    task.place ≠ [other] := by
  rcases mem_moduleTasks.mp member with rfl | rfl | ⟨package, isPackage, rfl⟩
  · exact fileOf_ne isModule (by decide) beside []
  · exact fileOf_ne isModule (by decide) beside []
  · intro same
    have atTop : package ++ [initName] = [] ++ [other] := same
    exact ne_nil_of_mem_packagesOf isPackage (List.append_inj' atTop rfl).1

theorem place_ne_beside_of_mem {other : String} (beside : other ∈ besideNames) {task : Task}
    (member : task ∈ (modulesOf schemas).flatMap moduleTasks) : task.place ≠ [other] := by
  obtain ⟨name, isModule, inModule⟩ := List.mem_flatMap.mp member
  exact place_ne_beside isModule beside inModule

/-- A directory above a module is made a package by nothing but marking it. -/
theorem eq_mark_of_place_eq {package : Place} (some : package ≠ []) {task : Task}
    (member : task ∈ tasksOf (modulesOf schemas) policy)
    (same : task.place = package ++ [initName]) : task = .mark package := by
  rcases mem_tasksOf.mp member with ⟨name, isModule, inModule⟩ | last
  · rcases mem_moduleTasks.mp inModule with rfl | rfl | ⟨other, -, rfl⟩
    · exact absurd same (fileOf_ne isModule (by decide) List.mem_cons_self package)
    · exact absurd same (fileOf_ne isModule (by decide) List.mem_cons_self package)
    · rw [(List.append_inj' same rfl).1]
  · have single : ∀ other : String, [other] ≠ package ++ [initName] := by
      intro other shape
      have atTop : [] ++ [other] = package ++ [initName] := shape
      exact some (List.append_inj' atTop rfl).1.symm
    rcases mem_lastTasks.mp last with ⟨-, rfl⟩ | rfl
    · exact absurd same (single _)
    · exact absurd same (single _)

theorem mark_mem_tasksOf {name : String} {package : Place} (isModule : name ∈ modules)
    (isPackage : package ∈ packagesOf name) : .mark package ∈ tasksOf modules policy :=
  mem_tasksOf.mpr (.inl ⟨name, isModule,
    mem_moduleTasks.mpr (.inr (.inr ⟨package, isPackage, rfl⟩))⟩)

/-! ### What every place holds in the end -/

/-- The file that the package's own module or the support module becomes. -/
theorem write_apply_self (tree : Tree) (place : Place) (bytes : List UInt8) :
    tree.write place bytes place = some (.file bytes (writtenMode (tree place))) := if_pos rfl

theorem finish_mark {name : String} {package : Place} (isModule : name ∈ modulesOf schemas)
    (isPackage : package ∈ packagesOf name) :
    Tree.finish (modulesOf schemas) policy tree (package ++ [initName]) =
      marked (tree (package ++ [initName])) := by
  rw [← changes_tasksOf]
  exact changes_apply_mark (fun task member same =>
    eq_mark_of_place_eq (ne_nil_of_mem_packagesOf isPackage) member same)
    (mark_mem_tasksOf isModule isPackage)

/-- What a package has besides the files of its modules is not about them. -/
theorem foldl_finishModule_beside {other : String} (beside : other ∈ besideNames) :
    (modulesOf schemas).foldl (Tree.finishModule generated) tree [other] = tree [other] := by
  rw [← changes_flatMap_moduleTasks]
  exact changes_apply_of_ne fun task member => place_ne_beside_of_mem beside member

theorem finish_init : Tree.finish (modulesOf schemas) policy tree [initName] =
    some (.file (bytesOf (initText (modulesOf schemas) policy))
      (writtenMode (tree [initName]))) := by
  have supported : ∀ other : Tree, Tree.support policy other [initName] = other [initName] := by
    intro other
    unfold Tree.support
    split
    next => exact Tree.write_apply_of_ne (by decide)
    next => rfl
  rw [Tree.finish, write_apply_self, supported, foldl_finishModule_beside List.mem_cons_self]

theorem finish_buffers (asked : policy.zeroCopyBuffers = true) :
    Tree.finish (modulesOf schemas) policy tree Tree.buffersPlace =
      some (.file (bytesOf buffersText) (writtenMode (tree Tree.buffersPlace))) := by
  rw [Tree.finish, Tree.write_apply_of_ne (by decide), Tree.support, if_pos asked,
    write_apply_self, Tree.buffersPlace, foldl_finishModule_beside (by decide)]

/-- How a finished package differs from what the compiler wrote. -/
structure Effect (modules : List String) (policy : Policy) (before after : Tree) : Prop where
  /-- The source of each module, and its stub if there is one, has its imports made relative. -/
  rewritten : ∀ name ∈ modules, ∀ suffix ∈ moduleSuffixes,
    suffix = sourceSuffix ∨ before (fileOf name suffix) ≠ none →
      ∃ bytes mode source, before (fileOf name suffix) = some (.file bytes mode) ∧
        textOf bytes = .ok source ∧
        after (fileOf name suffix) = some (.file (bytesOf
          (relativeImports (depth name) modules (withUnixLines source))) mode)
  /-- A directory between the root and a module that is no package becomes one. -/
  packages : ∀ name ∈ modules, ∀ package, package ≠ [] → package <+: (pieces name).dropLast →
    after (package ++ [initName]) = (before (package ++ [initName])).or
      (some (.file (bytesOf header) Disk.fileMode))
  support : policy.zeroCopyBuffers = true → after Tree.buffersPlace =
    some (.file (bytesOf buffersText) (writtenMode (before Tree.buffersPlace)))
  top : after [initName] =
    some (.file (bytesOf (initText modules policy)) (writtenMode (before [initName])))
  /-- Every other place is as it was. -/
  kept : ∀ place,
    (∀ name ∈ modules, ∀ suffix ∈ moduleSuffixes,
      place = fileOf name suffix → before place = none) →
    ¬ Tree.Added modules policy place → after place = before place

/-- Making a package has this effect if the compiler wrote every module. -/
theorem effect_finish (full : ∀ name ∈ modulesOf schemas, IsFull name)
    (written : ∀ name ∈ modulesOf schemas, tree.HasModule name) :
    Effect (modulesOf schemas) policy tree (Tree.finish (modulesOf schemas) policy tree) := by
  refine ⟨fun name isModule suffix isSuffix there => ?_, fun name isModule package some above =>
    finish_mark isModule (mem_packagesOf.mpr ⟨some, above⟩), finish_buffers, finish_init,
    fun place noFile notAdded => ?_⟩
  · refine Tree.finish_text full policy isModule (written name isModule) isSuffix ?_
    rcases there with rfl | there
    · obtain ⟨node, found, -⟩ := (written name isModule).1
      rw [found]
      exact Option.some_ne_none _
    · exact there
  · by_cases isFile : ∃ name ∈ modulesOf schemas, ∃ suffix ∈ moduleSuffixes,
        place = fileOf name suffix
    · obtain ⟨name, isModule, suffix, isSuffix, same⟩ := isFile
      have absent := noFile name isModule suffix isSuffix same
      rw [same] at absent ⊢
      rw [Tree.finish_file full policy isModule isSuffix, absent]
      rfl
    · rw [← changes_tasksOf]
      refine changes_apply_of_ne fun task member same => ?_
      rcases mem_tasksOf.mp member with ⟨name, isModule, inModule⟩ | last
      · rcases mem_moduleTasks.mp inModule with rfl | rfl | ⟨package, isPackage, rfl⟩
        · exact isFile ⟨name, isModule, sourceSuffix, by decide, same.symm⟩
        · exact isFile ⟨name, isModule, stubSuffix, by decide, same.symm⟩
        · exact notAdded (.inr (.inr ⟨name, isModule, package, isPackage, same.symm⟩))
      · rcases mem_lastTasks.mp last with ⟨asked, rfl⟩ | rfl
        · exact notAdded (.inr (.inl ⟨asked, same.symm⟩))
        · exact notAdded (.inl same.symm)

/-! ### Finished trees stay as they are -/

theorem write_eq_self {bytes : List UInt8} {mode : Mode}
    (there : tree place = some (.file bytes mode)) : tree.write place bytes = tree := by
  funext each
  unfold Tree.write
  split
  next same => rw [same, there]; rfl
  next => rfl

/-- No task changes a tree that was finished. -/
theorem change_finish (full : ∀ name ∈ modulesOf schemas, IsFull name) {task : Task}
    (member : task ∈ tasksOf (modulesOf schemas) policy) :
    task.change (modulesOf schemas) (Tree.finish (modulesOf schemas) policy tree) =
      Tree.finish (modulesOf schemas) policy tree := by
  have rewriteAgain : ∀ name ∈ modulesOf schemas, ∀ suffix ∈ moduleSuffixes,
      Tree.rewrite (modulesOf schemas) (depth name) (fileOf name suffix)
        (Tree.finish (modulesOf schemas) policy tree) =
          Tree.finish (modulesOf schemas) policy tree := by
    intro name isModule suffix isSuffix
    funext each
    rw [Tree.rewrite_apply]
    split
    next same =>
      rw [same, Tree.finish_file full policy isModule isSuffix, Option.map_map]
      exact congrArg (Option.map · _)
        (funext fun node => Node.rewrite_rewrite (undotted_of_isFull full))
    next => rfl
  rcases mem_tasksOf.mp member with ⟨name, isModule, inModule⟩ | last
  · rcases mem_moduleTasks.mp inModule with rfl | rfl | ⟨package, isPackage, rfl⟩
    · exact rewriteAgain name isModule _ (by decide)
    · exact rewriteAgain name isModule _ (by decide)
    · refine if_pos ?_
      rw [finish_mark isModule isPackage, marked, Option.isSome_or, Option.isSome_some,
        Bool.or_true]
  · rcases mem_lastTasks.mp last with ⟨asked, rfl⟩ | rfl
    · exact write_eq_self (finish_buffers asked)
    · exact write_eq_self finish_init

/-! ### Places outside of the root -/

section Outside

variable {α : Type} {here top : Place} {root : Path}

/-- An action on a machine where no links lie below the root leaves it so, and changes nothing
outside of the root. -/
def StaysInside (here : Place) (root : Path) (top : Place) (action : Action α) : Prop :=
  ∀ machine, (Disk.Rooted.ground here root top).Untouched machine →
    action.Meets machine fun _ after => (Disk.Rooted.ground here root top).Untouched after ∧
      Disk.SameOutside [top] machine.disk after.disk

/-- Writing by the paths of tasks changes nothing outside of the root. -/
theorem sameOutside_of_writtenBy {disk after : Disk} (rooted : Disk.Rooted here root top disk)
    (written : disk.WrittenBy
      (fun path => ∃ task : Task, task.IsNamed ∧ path = root.down task.place) here after) :
    Disk.Rooted here root top after ∧ Disk.SameOutside [top] disk after := by
  induction written with
  | same => exact ⟨rooted, .refl _ _⟩
  | @wrote between after _ _ isAllowed _ written inductionHypothesis =>
    obtain ⟨task, ⟨some, named⟩, rfl⟩ := isAllowed
    obtain ⟨rootedBetween, outside⟩ := inductionHypothesis
    have standing : (Disk.Rooted.ground here root top).Stands between := rootedBetween
    exact ⟨(Disk.Ground.writeFile standing some named written).1,
      outside.trans (Disk.Rooted.sameOutside_writeFile rootedBetween some named written)⟩

theorem staysInside_runTasks {tasks : List Task} (named : ∀ task ∈ tasks, task.IsNamed) :
    StaysInside here root top (runTasks root generated tasks) := by
  rintro machine ⟨atHere, rooted⟩
  have keeps : (runTasks root generated tasks).KeepsTo
      fun path => ∃ task : Task, task.IsNamed ∧ path = root.down task.place :=
    keepsTo_runTasks fun task member => ⟨task, named task member, rfl⟩
  refine (keeps.kept machine).mono fun result after kept => ?_
  have written := kept.written
  rw [show machine.host.here = here from atHere] at written
  obtain ⟨stands, outside⟩ := sameOutside_of_writtenBy rooted written
  refine ⟨⟨?_, stands⟩, outside⟩
  rw [kept.host]
  exact atHere

end Outside

end Package

end Bindery
