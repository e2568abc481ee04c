/-
This file describes the making of a package as a list of tasks.

A task is about one file below the root: a source or a stub has its imports made relative, a
directory is marked as a package, or a text is written. Making a package is running the tasks of its
modules, and then those of the support module and the package's own module, and it is about no paths
but those of their files. A run that succeeds has carried out every task, and one that fails has
stopped at a task; in both cases the tree below the root was changed by the tasks before it and by
nothing else.
-/

import Bindery.Proofs.Machine.Allowed
import Bindery.Proofs.Package.Rework

namespace Bindery

open Text

namespace Package

/-- A piece of the work on a package, about one file below its root. -/
inductive Task where
  /-- The source of a module has its imports made relative. -/
  | source (depth : Nat) (place : Place)
  /-- A typed stub has its imports made relative, if there is one. -/
  | stub (depth : Nat) (place : Place)
  /-- A directory becomes a package, unless it is one. -/
  | mark (package : Place)
  /-- A text is written. -/
  | write (place : Place) (text : String)

namespace Task

/-- The file that a task is about. -/
def place : Task → Place
  | source _ place => place
  | stub _ place => place
  | mark package => package ++ [initName]
  | write place _ => place

/-- What a task does. -/
def act (root : Path) (generated : List String) : Task → Action Unit
  | source depth place => rewriteFile generated depth (root.down place)
  | stub depth place => do
    if ← Action.pathExists (root.down place) then rewriteFile generated depth (root.down place)
  | mark package => do
    if !(← Action.pathExists (root.down (package ++ [initName]))) then
      Action.writeText (root.down (package ++ [initName])) header
  | write place text => Action.writeText (root.down place) text

/-- What a task makes of the tree below the root. -/
def change (generated : List String) : Task → Tree → Tree
  | source depth place, tree => Tree.rewrite generated depth place tree
  | stub depth place, tree => Tree.rewrite generated depth place tree
  | mark package, tree => Tree.mark tree package
  | write place text, tree => tree.write place (bytesOf text)

end Task

/-- Carries out tasks in turn. -/
def runTasks (root : Path) (generated : List String) : List Task → Action Unit
  | [] => pure ()
  | task :: rest => do
    task.act root generated
    runTasks root generated rest

/-- The tasks for a module. -/
def moduleTasks (name : String) : List Task :=
  .source (depth name) (fileOf name sourceSuffix) :: .stub (depth name) (fileOf name stubSuffix) ::
    (packagesOf name).map .mark

/-- The tasks for the support module, if the policy asks for it, and for the package's own. -/
def lastTasks (modules : List String) (policy : Policy) : List Task :=
  (if policy.zeroCopyBuffers then [.write Tree.buffersPlace buffersText] else []) ++
    [.write [initName] (initText modules policy)]

/-- The tasks for a package. -/
def tasksOf (modules : List String) (policy : Policy) : List Task :=
  modules.flatMap moduleTasks ++ lastTasks modules policy

/-! ### Making a package is running tasks -/

variable {root : Path} {generated modules schemas : List String} {policy : Policy}
  {machine after : Machine} {failure : Failure}

theorem runTasks_append (root : Path) (generated : List String) (first second : List Task) :
    runTasks root generated (first ++ second) =
      runTasks root generated first >>= fun _ => runTasks root generated second := by
  induction first with
  | nil => rw [List.nil_append, runTasks, pure_bind]
  | cons task rest inductionHypothesis =>
    rw [List.cons_append, runTasks, runTasks, inductionHypothesis, bind_assoc]

theorem runTasks_singleton (root : Path) (generated : List String) (task : Task) :
    runTasks root generated [task] = task.act root generated := bind_pure _

theorem markPackages_eq_runTasks (generated : List String) (packages : List Place) :
    markPackages (packages.map fun package => root.down package) =
      runTasks root generated (packages.map .mark) := by
  induction packages with
  | nil => rfl
  | cons package rest inductionHypothesis =>
    rw [Disk.Ground.markPackages_cons, inductionHypothesis]
    rfl

theorem finishModule_eq_runTasks {name : String} (named : IsModuleName name) :
    finishModule root generated name = runTasks root generated (moduleTasks name) := by
  rw [Disk.Ground.finishModule_eq root generated named, markPackages_eq_runTasks generated]
  rfl

theorem finishModules_eq_runTasks (named : ∀ name ∈ modules, IsModuleName name) :
    finishModules root generated modules =
      runTasks root generated (modules.flatMap moduleTasks) := by
  induction modules with
  | nil => rfl
  | cons name rest inductionHypothesis =>
    rw [finishModules, finishModule_eq_runTasks (named name List.mem_cons_self),
      inductionHypothesis fun each member => named each (List.mem_cons_of_mem _ member),
      List.flatMap_cons, runTasks_append]

/-- Making a package is running its tasks. -/
theorem finalize_eq_runTasks (root : Path) (schemas : List String) (policy : Policy) :
    finalize root schemas policy =
      runTasks root (modulesOf schemas) (tasksOf (modulesOf schemas) policy) >>= fun _ =>
        pure (modulesOf schemas) := by
  have support : (do
      if policy.zeroCopyBuffers then
        Action.writeText (root.down Tree.buffersPlace) buffersText : Action Unit) =
      runTasks root (modulesOf schemas)
        (if policy.zeroCopyBuffers then [.write Tree.buffersPlace buffersText] else []) := by
    cases policy.zeroCopyBuffers with
    | true =>
      rw [if_pos rfl, if_pos rfl, runTasks_singleton]
      rfl
    | false => rfl
  rw [Disk.Ground.finalize_eq,
    finishModules_eq_runTasks fun name member => isModuleName_of_mem_modulesOf member, support,
    tasksOf, lastTasks, runTasks_append, runTasks_append, runTasks_singleton, bind_assoc,
    bind_assoc]
  rfl

/-! ### Runs of tasks -/

/-- A run that succeeds has carried out every task after those before it. -/
theorem runTasks_ok {tasks : List Task}
    (ran : (runTasks root generated tasks).on machine = (.ok (), after)) {front back : List Task}
    {task : Task} (shape : tasks = front ++ task :: back) :
    ∃ between next, (runTasks root generated front).on machine = (.ok (), between) ∧
      (task.act root generated).on between = (.ok (), next) := by
  rw [shape, runTasks_append, Action.on_bind] at ran
  cases first : (runTasks root generated front).on machine with
  | mk result between =>
    rw [first] at ran
    cases result with
    | error failure => cases ran
    | ok value =>
      dsimp only at ran
      rw [runTasks, Action.on_bind] at ran
      cases second : (task.act root generated).on between with
      | mk result next =>
        rw [second] at ran
        cases result with
        | error failure => cases ran
        | ok value => exact ⟨between, next, rfl, second⟩

/-- A run that fails has stopped at a task, after it carried out those before it. -/
theorem runTasks_error {tasks : List Task}
    (ran : (runTasks root generated tasks).on machine = (.error failure, after)) :
    ∃ front task back between, tasks = front ++ task :: back ∧
      (runTasks root generated front).on machine = (.ok (), between) ∧
      (task.act root generated).on between = (.error failure, after) := by
  induction tasks generalizing machine with
  | nil => cases ran
  | cons task rest inductionHypothesis =>
    rw [runTasks, Action.on_bind] at ran
    cases first : (task.act root generated).on machine with
    | mk result between =>
      rw [first] at ran
      cases result with
      | error other =>
        cases ran
        exact ⟨[], task, rest, machine, rfl, rfl, first⟩
      | ok value =>
        obtain ⟨front, stopped, back, last, shape, before, failed⟩ := inductionHypothesis ran
        refine ⟨task :: front, stopped, back, last, by rw [shape, List.cons_append], ?_, failed⟩
        rw [runTasks, Action.on_bind, first]
        exact before

/-! ### Files of tasks -/

/-- A task is about a file that has a name of its own below the root. -/
def Task.IsNamed (task : Task) : Prop := task.place ≠ [] ∧ ∀ part ∈ task.place, IsName part

theorem mem_moduleTasks {name : String} {task : Task} : task ∈ moduleTasks name ↔
    task = .source (depth name) (fileOf name sourceSuffix) ∨
      task = .stub (depth name) (fileOf name stubSuffix) ∨
        ∃ package ∈ packagesOf name, task = .mark package := by
  simp only [moduleTasks, List.mem_cons, List.mem_map, eq_comm]

theorem mem_lastTasks {task : Task} : task ∈ lastTasks modules policy ↔
    policy.zeroCopyBuffers = true ∧ task = .write Tree.buffersPlace buffersText ∨
      task = .write [initName] (initText modules policy) := by
  unfold lastTasks
  cases policy.zeroCopyBuffers <;> simp

theorem mem_tasksOf {task : Task} : task ∈ tasksOf modules policy ↔
    (∃ name ∈ modules, task ∈ moduleTasks name) ∨ task ∈ lastTasks modules policy := by
  rw [tasksOf, List.mem_append, List.mem_flatMap]

theorem isNamed_of_mem_moduleTasks {name : String} {task : Task}
    (member : task ∈ moduleTasks name) : task.IsNamed := by
  rcases mem_moduleTasks.mp member with rfl | rfl | ⟨package, isPackage, rfl⟩
  · exact ⟨fileOf_ne_nil _ _, fun part inside => isName_of_mem_fileOf (by decide) inside⟩
  · exact ⟨fileOf_ne_nil _ _, fun part inside => isName_of_mem_fileOf (by decide) inside⟩
  · refine ⟨List.append_ne_nil_of_right_ne_nil _ (List.cons_ne_nil _ _), fun part inside => ?_⟩
    rcases List.mem_append.mp inside with front | final
    · exact Disk.Ground.isName_of_mem_packagesOf isPackage front
    · rw [List.mem_singleton.mp final]
      decide

theorem isNamed_of_mem_tasksOf {task : Task} (member : task ∈ tasksOf modules policy) :
    task.IsNamed := by
  rcases mem_tasksOf.mp member with ⟨name, -, inModule⟩ | last
  · exact isNamed_of_mem_moduleTasks inModule
  · rcases mem_lastTasks.mp last with ⟨-, rfl⟩ | rfl
    · exact ⟨List.cons_ne_nil _ _, by decide⟩
    · exact ⟨List.cons_ne_nil _ _, show ∀ part ∈ [initName], IsName part by decide⟩

/-- The names on the way to the file of a task hold no character that stands neither in the names of
the modules nor in a name that every package has. -/
theorem not_mem_of_mem_tasksOf {c : Char} (absent : ∀ name ∈ modules, c ∉ name.toList)
    (foreign : ∀ text ∈ [sourceSuffix, stubSuffix, initName, buffersName ++ sourceSuffix],
      c ∉ text.toList) {task : Task} (member : task ∈ tasksOf modules policy) {part : String}
    (inside : part ∈ task.place) : c ∉ part.toList := by
  simp only [List.forall_mem_cons, List.not_mem_nil, false_implies, implies_true, and_true]
    at foreign
  obtain ⟨notInSource, notInStub, notInInit, notInBuffers⟩ := foreign
  rcases mem_tasksOf.mp member with ⟨name, isModule, inModule⟩ | last
  · have notInFile : ∀ {suffix : String}, c ∉ suffix.toList →
        ∀ part ∈ fileOf name suffix, c ∉ part.toList := fun notInSuffix _ =>
      not_mem_of_mem_fileOf (absent name isModule) notInSuffix
    rcases mem_moduleTasks.mp inModule with rfl | rfl | ⟨package, isPackage, rfl⟩
    · exact notInFile notInSource part inside
    · exact notInFile notInStub part inside
    · rcases List.mem_append.mp inside with front | final
      · exact notInFile notInSource part
          (List.mem_append_left _ ((mem_packagesOf.mp isPackage).2.subset front))
      · rw [List.mem_singleton.mp final]
        exact notInInit
  · rcases mem_lastTasks.mp last with ⟨-, rfl⟩ | rfl
    · rw [List.mem_singleton.mp inside]
      exact notInBuffers
    · rw [List.mem_singleton.mp inside]
      exact notInInit

/-- The files of all tasks can be handed over if the root and the schemas can. -/
theorem usable_of_mem_tasksOf (usable : Action.holdsNull root = false)
    (usableSchemas : ∀ schema ∈ schemas, '\x00' ∉ schema.toList) {task : Task}
    (member : task ∈ tasksOf (modulesOf schemas) policy) :
    Action.holdsNull (root.down task.place) = false := by
  refine Action.holdsNull_down_eq_false_iff.mpr
    ⟨Action.holdsNull_eq_false_iff.mp usable, fun part inside => ?_⟩
  refine not_mem_of_mem_tasksOf (fun name isModule => ?_) (by decide) member inside
  obtain ⟨schema, inSchemas, rfl⟩ := mem_modulesOf.mp isModule
  exact null_not_mem_moduleName (usableSchemas schema inSchemas)

/-! ### Paths of tasks -/

section

variable {allowed : Path → Prop} {file : Path}

theorem keepsTo_rewriteFile (depth : Nat) (isAllowed : allowed file) :
    (rewriteFile generated depth file).KeepsTo allowed :=
  .bind (.readText isAllowed) fun _ => .writeText isAllowed _

/-- A task is about its file and no other one. -/
theorem keepsTo_act {task : Task} (isAllowed : allowed (root.down task.place)) :
    (task.act root generated).KeepsTo allowed := by
  cases task with
  | source depth place => exact keepsTo_rewriteFile depth isAllowed
  | stub depth place =>
    refine .bind (.pathExists isAllowed) fun there => ?_
    cases there with
    | true => exact keepsTo_rewriteFile depth isAllowed
    | false => exact .pure ()
  | mark package =>
    refine .bind (.pathExists isAllowed) fun there => ?_
    cases there with
    | true => exact .pure ()
    | false => exact .writeText isAllowed header
  | write place text => exact .writeText isAllowed text

theorem keepsTo_runTasks {tasks : List Task}
    (areAllowed : ∀ task ∈ tasks, allowed (root.down task.place)) :
    (runTasks root generated tasks).KeepsTo allowed := by
  induction tasks with
  | nil => exact .pure ()
  | cons task rest inductionHypothesis =>
    exact .bind (keepsTo_act (areAllowed task List.mem_cons_self)) fun _ =>
      inductionHypothesis fun each member => areAllowed each (List.mem_cons_of_mem _ member)

/-- Making a package is about the files of its tasks. -/
theorem keepsTo_finalize
    (areAllowed : ∀ task ∈ tasksOf (modulesOf schemas) policy, allowed (root.down task.place)) :
    (finalize root schemas policy).KeepsTo allowed := by
  rw [finalize_eq_runTasks]
  exact .bind (keepsTo_runTasks areAllowed) fun _ => .pure _

end

/-! ### Trees of tasks -/

/-- What tasks make of a tree. -/
def changes (generated : List String) (tasks : List Task) (tree : Tree) : Tree :=
  tasks.foldl (fun tree task => task.change generated tree) tree

theorem changes_append (first second : List Task) (tree : Tree) :
    changes generated (first ++ second) tree =
      changes generated second (changes generated first tree) := List.foldl_append

/-- Tasks take nothing away. -/
theorem Task.change_ne_none {task : Task} {tree : Tree} {place : Place}
    (there : tree place ≠ none) : task.change generated tree place ≠ none := by
  cases task with
  | source | stub => exact Tree.rewrite_ne_none_iff.mpr there
  | mark => exact Tree.mark_ne_none_iff.mpr (.inr there)
  | write => exact Tree.write_ne_none_iff.mpr (.inr there)

theorem changes_ne_none {tasks : List Task} {tree : Tree} {place : Place}
    (there : tree place ≠ none) : changes generated tasks tree place ≠ none := by
  induction tasks generalizing tree with
  | nil => exact there
  | cons task rest inductionHypothesis => exact inductionHypothesis (task.change_ne_none there)

theorem changes_moduleTasks (name : String) (tree : Tree) :
    changes generated (moduleTasks name) tree = Tree.finishModule generated tree name := by
  rw [changes, moduleTasks, List.foldl_cons, List.foldl_cons, List.foldl_map]
  rfl

theorem changes_flatMap_moduleTasks (names : List String) (tree : Tree) :
    changes generated (names.flatMap moduleTasks) tree =
      names.foldl (Tree.finishModule generated) tree := by
  induction names generalizing tree with
  | nil => rfl
  | cons name rest inductionHypothesis =>
    rw [List.flatMap_cons, changes_append, changes_moduleTasks, inductionHypothesis,
      List.foldl_cons]

/-- The tree of a finished package is what its tasks make of the tree. -/
theorem changes_tasksOf (tree : Tree) :
    changes modules (tasksOf modules policy) tree = Tree.finish modules policy tree := by
  rw [tasksOf, changes_append, changes_flatMap_moduleTasks, lastTasks, changes_append, Tree.finish,
    Tree.support]
  cases policy.zeroCopyBuffers <;> rfl

/-! ### Tasks on machines -/

section Reworks

variable {ground : Disk.Ground}

/-- A task changes the tree below the root. -/
theorem reworks_act {task : Task} (named : task.IsNamed)
    (usable : Action.holdsNull (ground.root.down task.place) = false) :
    ground.Reworks (task.act ground.root generated) (fun _ => True) (task.change generated) := by
  cases task with
  | source depth place =>
    exact (Disk.Ground.reworks_rewriteFile generated depth named.1 named.2).congr
      (fun _ _ => trivial) fun _ => rfl
  | stub depth place =>
    exact (Disk.Ground.reworks_stub generated depth named.1 named.2 usable).congr
      (fun _ _ => trivial) fun _ => rfl
  | mark package =>
    exact Disk.Ground.reworks_mark (fun part member => named.2 part (List.mem_append_left _ member))
      usable
  | write place text => exact Disk.Ground.reworks_writeText named.1 named.2 text

theorem reworks_runTasks {tasks : List Task} (named : ∀ task ∈ tasks, task.IsNamed)
    (usable : ∀ task ∈ tasks, Action.holdsNull (ground.root.down task.place) = false) :
    ground.Reworks (runTasks ground.root generated tasks) (fun _ => True)
      (changes generated tasks) := by
  induction tasks with
  | nil => exact Disk.Ground.reworks_pure ()
  | cons task rest inductionHypothesis =>
    have first : ground.Reworks (task.act ground.root generated) (fun _ => True)
        (task.change generated) :=
      reworks_act (named task List.mem_cons_self) (usable task List.mem_cons_self)
    have others := inductionHypothesis
      (fun each member => named each (List.mem_cons_of_mem _ member))
      fun each member => usable each (List.mem_cons_of_mem _ member)
    exact (first.bind fun _ _ _ _ => others).congr (fun _ _ => trivial) fun _ => rfl

/-- The machine on which a task is carried out, after those before it. -/
theorem untouched_of_runTasks {tasks : List Task} (untouched : ground.Untouched machine)
    (named : ∀ task ∈ tasks, task.IsNamed)
    (usable : ∀ task ∈ tasks, Action.holdsNull (ground.root.down task.place) = false)
    (ran : (runTasks ground.root generated tasks).on machine = (.ok (), after)) :
    ground.Untouched after ∧
      after.disk.tree ground.top = changes generated tasks (machine.disk.tree ground.top) := by
  have reworked := (reworks_runTasks named usable machine untouched).of_on ran
  exact ⟨reworked.untouched, (reworked.succeeded () rfl).2⟩

end Reworks

end Package

end Bindery
