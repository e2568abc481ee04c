/-
This file proves that a package which was made stays as it is when it is made again.

The first run shows that the paths of all tasks can be handed to the system, are short enough and
are not hidden from the process.
On the disk that it leaves, every task finds what it would write: sources and stubs have their
imports made relative already, and so does nothing but read and write the same again. Hence a second
run succeeds, unless a call is due to fail, and changes no place of the disk.
-/

import Bindery.Proofs.Package.Closure
import Bindery.Proofs.Package.Effect

namespace Bindery

open Text

/-! ### Runs that leave a disk as it is -/

/-- A machine shows the entries of a disk to a process that is where another process is and that is
denied no look that the other one may take, and no call that reads or writes is due to fail. -/
structure Machine.Shows (disk : Disk) (host : Host) (machine : Machine) : Prop where
  here : machine.host.here = host.here
  denied : ∀ follow path, machine.host.denies follow path = true → host.denies follow path = true
  same : machine.disk.get? = disk.get?
  quiet : ∀ count, machine.schedule .read count = none ∧ machine.schedule .write count = none

namespace Action

variable {α β : Type} {disk : Disk} {host : Host} {path : Path}

/-- An action gives a value and leaves the entries of a disk as they are. -/
def Leaves (disk : Disk) (host : Host) (action : Action α) (value : α) : Prop :=
  ∀ machine : Machine, machine.Shows disk host →
    action.Meets machine fun result after => result = .ok value ∧ after.Shows disk host

theorem leaves_pure (value : α) : Leaves disk host (pure value) value :=
  fun _ shows => ⟨rfl, shows⟩

theorem Leaves.bind {action : Action α} {next : α → Action β} {value : α} {last : β}
    (first : Leaves disk host action value) (rest : Leaves disk host (next value) last) :
    Leaves disk host (action >>= next) last := by
  intro machine shows
  refine (first machine shows).bind ?_ ?_
  · rintro other between ⟨same, showsBetween⟩
    cases same
    exact rest between showsBetween
  · rintro failure between ⟨impossible, -⟩
    cases impossible

/-- What is not hidden from the other process is shown. -/
theorem hides_of_shows {machine : Machine} (shows : machine.Shows disk host)
    (shown : host.denies false path.text = false) : machine.hides path = false := by
  by_contra hidden
  have denied := shows.denied false path.text (Bool.not_eq_false _ ▸ hidden)
  rw [shown] at denied
  cases denied

/-- The text of a file is read. -/
theorem leaves_readText (usable : holdsNull path = false)
    (shown : host.denies false path.text = false) {bytes : List UInt8} {source : String}
    (there : disk.readFile host.here path = .ok bytes) (decoded : textOf bytes = .ok source) :
    Leaves disk host (readText path) (withUnixLines source) := by
  intro machine shows
  have found : machine.disk.readFile machine.host.here path = .ok bytes := by
    rw [shows.here, Disk.readFile_congr shows.same, there]
  have still : (machine.counted .read).hides path = false :=
    show machine.hides path = false from hides_of_shows shows shown
  unfold readText Meets
  simp only [on_bind, on_due, (shows.quiet _).1, on_inspect, usable, still, Bool.false_eq_true,
    if_false, Machine.counted_disk, Machine.counted_host, found, Except.mapError, decoded]
  exact ⟨rfl, shows.here, shows.denied, shows.same, shows.quiet⟩

/-- What a file holds is written to it again. -/
theorem leaves_writeText (usable : holdsNull path = false)
    (shown : host.denies false path.text = false) {text : String} {place : Place} {mode : Mode}
    (located : disk.locate host.here true path = .ok (.found place (.file (bytesOf text) mode))) :
    Leaves disk host (writeText path text) () := by
  intro machine shows
  have found : machine.disk.locate machine.host.here true path =
      .ok (.found place (.file (bytesOf text) mode)) := by
    rw [shows.here, Disk.locate_congr shows.same, located]
  have held : machine.disk.get? place = some (.file (bytesOf text) mode) := by
    unfold Disk.locate at found
    split at found
    next => cases found
    next => exact (Disk.way_of_walk_eq found).get?_file
  have below : place ≠ [] := by
    rintro rfl
    rw [Disk.get?_top] at held
    cases held
  have kept : (machine.disk.put place (.file (bytesOf text) mode)).get? = disk.get? := by
    rw [← shows.same]
    funext each
    by_cases same : each = place
    · rw [same, Disk.get?_put_self _ below, held]
    · exact Disk.get?_put_of_ne _ same _
  have works : machine.disk.writeFile machine.host.here path (bytesOf text) =
      .ok (machine.disk.put place (.file (bytesOf text) mode)) := by
    unfold Disk.writeFile
    rw [found]
  have still : (machine.counted .write).hides path = false :=
    show machine.hides path = false from hides_of_shows shows shown
  unfold writeText Meets
  simp only [on_bind, on_due, (shows.quiet _).2, on_change, List.any_cons, List.any_nil, usable,
    still, Bool.or_false, Bool.false_eq_true, if_false, Machine.counted_disk, Machine.counted_host,
    works]
  exact ⟨trivial, shows.here, shows.denied, kept, shows.quiet⟩

/-- It is answered whether a path leads anywhere. -/
theorem leaves_pathExists {found : Option Node}
    (answered : ∀ machine : Machine, machine.Shows disk host → answer machine path = .ok found) :
    Leaves disk host (pathExists path) found.isSome := by
  intro machine shows
  unfold Meets
  rw [on_pathExists, answered machine shows]
  exact ⟨rfl, shows⟩

/-- What the disk holds is answered about a path that is not hidden and at which no link lies. -/
theorem answer_of_shows {machine : Machine} (shows : machine.Shows disk host)
    (usable : holdsNull path = false) (shown : host.denies false path.text = false)
    (plain : (disk.nodeAt host.here false path).toOption.any Node.isLink = false) :
    answer machine path =
      match disk.nodeAt host.here true path with
      | .ok node => .ok (some node)
      | .error code =>
        if leadsNowhere code then .ok none else .error (.system ⟨code, [path.text]⟩) := by
  have notLink : machine.hasLink path = false := by
    unfold Machine.hasLink
    rwa [shows.here, Disk.nodeAt_congr shows.same]
  have look : machine.look true path = disk.nodeAt host.here true path := by
    rw [look_of_shown (hides_of_shows shows shown) true notLink, shows.here,
      Disk.nodeAt_congr shows.same]
  unfold answer
  rw [usable, if_neg Bool.false_ne_true]
  cases there : disk.nodeAt host.here true path <;> simp only [look, there]

end Action

namespace Package

open Bindery.Action

variable {host : Host} {top : Place} {root : Path} {disk : Disk} {generated schemas : List String}
  {policy : Policy} {before after : Machine}

/-! ### Tasks that have nothing left to do -/

/-- A path below the root can be handed to the system, is short enough and is not hidden. -/
structure Reachable (host : Host) (root : Path) (place : Place) : Prop where
  usable : holdsNull (root.down place) = false
  fits : Disk.FitsBelow root place
  shown : host.denies false (root.down place).text = false

/-- A file that is a text, with its imports made relative already, is read and written again. -/
theorem leaves_rewriteFile {depth : Nat} {place : Place}
    (rooted : Disk.Rooted host.here root top disk) (some : place ≠ [])
    (named : ∀ part ∈ place, IsName part) (reachable : Reachable host root place)
    (readable : (disk.tree top).Readable place)
    (fixed : Tree.rewrite generated depth place (disk.tree top) = disk.tree top) :
    Leaves disk host (rewriteFile generated depth (root.down place)) () := by
  obtain ⟨_, there, bytes, mode, source, rfl, decoded⟩ := readable
  obtain ⟨usable, fits, shown⟩ := reachable
  have located := rooted.locate_present some named fits there
  have written : bytesOf (relativeImports depth generated (withUnixLines source)) = bytes := by
    have atPlace := congrFun fixed place
    rw [Tree.rewrite_apply, if_pos rfl, there, Option.map_some, Node.rewrite_of_text decoded]
      at atPlace
    exact (Node.file.inj (Option.some.inj atPlace)).1
  rw [← written] at located
  exact (leaves_readText usable shown (Disk.readFile_of_locate located)
    (written ▸ decoded)).bind (leaves_writeText usable shown located)

/-- What a task needs to find on a disk so that nothing is left to do. -/
structure Task.Done (host : Host) (root : Path) (generated : List String) (top : Place)
    (disk : Disk) (task : Task) : Prop where
  named : task.IsNamed
  reachable : Reachable host root task.place
  fixed : task.change generated (disk.tree top) = disk.tree top
  /-- Sources and stubs that are there are texts. -/
  readable : ∀ depth place, task = .source depth place ∨ task = .stub depth place →
    disk.tree top place ≠ none → (disk.tree top).Readable place
  /-- Only a stub may be missing, in a directory that is there. -/
  there : disk.tree top task.place ≠ none ∨
    (∃ depth place, task = .stub depth place) ∧ disk.HasDirectory (top ++ task.place).dropLast

theorem leaves_act {task : Task} (rooted : Disk.Rooted host.here root top disk)
    (done : task.Done host root generated top disk) :
    Leaves disk host (task.act root generated) () := by
  obtain ⟨⟨some, named⟩, reachable, fixed, readable, there⟩ := done
  have ⟨usable, fits, shown⟩ := reachable
  have found : ∀ {node}, disk.tree top task.place = .some node →
      ∀ machine : Machine, machine.Shows disk host →
        answer machine (root.down task.place) = .ok (.some node) := by
    intro node found machine shows
    rw [answer_of_shows shows usable shown (rooted.not_isLink some named), Disk.nodeAt,
      rooted.locate_present some named fits found]
  cases task with
  | source depth place =>
    have present : disk.tree top place ≠ none := by
      rcases there with there | ⟨⟨_, _, impossible⟩, -⟩
      · exact there
      · cases impossible
    exact leaves_rewriteFile rooted some named reachable (readable depth place (.inl rfl) present)
      fixed
  | stub depth place =>
    rcases there with there | ⟨-, inside⟩
    · obtain ⟨node, present⟩ := Option.ne_none_iff_exists'.mp there
      have rewrites := leaves_rewriteFile rooted some named reachable
        (readable depth place (.inr rfl) there) fixed
      exact (leaves_pathExists (found present)).bind rewrites
    · cases present : disk.tree top place with
      | some node =>
        have rewrites := leaves_rewriteFile rooted some named reachable
          (readable depth place (.inr rfl) (by rw [present]; exact Option.some_ne_none _)) fixed
        exact (leaves_pathExists (found present)).bind rewrites
      | none =>
        obtain ⟨front, name, shape⟩ : ∃ front name, place = front ++ [name] :=
          ⟨_, _, (List.dropLast_concat_getLast some).symm⟩
        have absent : ∀ machine : Machine, machine.Shows disk host →
            answer machine (root.down place) = .ok none := by
          intro machine shows
          subst shape
          have parent : disk.HasDirectory (top ++ front) := by
            have dropped : (top ++ (front ++ [name])).dropLast = top ++ front := by
              rw [← List.append_assoc, List.dropLast_concat]
            exact dropped ▸ inside
          refine (answer_of_shows shows usable shown (rooted.not_isLink some named)).trans ?_
          have free := rooted.locate_absent named fits parent present
          rw [Task.place, Disk.nodeAt, free]
          rfl
        exact (leaves_pathExists absent).bind (leaves_pure ())
  | mark package =>
    have present : disk.tree top (package ++ [initName]) ≠ none := by
      rcases there with there | ⟨⟨_, _, impossible⟩, -⟩
      · exact there
      · cases impossible
    obtain ⟨node, present⟩ := Option.ne_none_iff_exists'.mp present
    exact (leaves_pathExists (found present)).bind (leaves_pure ())
  | write place text =>
    have written : ∃ mode, disk.tree top place = .some (.file (bytesOf text) mode) :=
      ⟨_, (congrFun fixed place).symm.trans (write_apply_self _ _ _)⟩
    obtain ⟨mode, written⟩ := written
    exact leaves_writeText usable shown (rooted.locate_present some named fits written)

theorem leaves_runTasks {tasks : List Task} (rooted : Disk.Rooted host.here root top disk)
    (done : ∀ task ∈ tasks, task.Done host root generated top disk) :
    Leaves disk host (runTasks root generated tasks) () := by
  induction tasks with
  | nil => exact leaves_pure ()
  | cons task rest inductionHypothesis =>
    exact (leaves_act rooted (done task List.mem_cons_self)).bind
      (inductionHypothesis fun each member => done each (List.mem_cons_of_mem _ member))

/-! ### What a first run shows -/

theorem reachable_of_writeText {place : Place} {text : String}
    (named : ∀ part ∈ place, IsName part)
    (ran : (writeText (root.down place) text).on before = (.ok (), after)) :
    Reachable before.host root place := by
  have met := (attempt_meets .write _ _ before).of_on ran
  cases met with
  | done disk usable worked shown =>
    rw [List.any_cons, List.any_nil, Bool.or_false] at usable shown
    exact ⟨usable, Disk.fitsBelow_of_writeFile named worked, shown⟩

theorem reachable_of_rewriteFile {depth : Nat} {place : Place}
    (named : ∀ part ∈ place, IsName part)
    (ran : (rewriteFile generated depth (root.down place)).on before = (.ok (), after)) :
    Reachable before.host root place := by
  have met : (rewriteFile generated depth (root.down place)).Meets before fun result _ =>
      result = .ok () → Reachable before.host root place := by
    unfold rewriteFile
    refine (readText_meets _ before).bind ?_ ?_
    · rintro text between ⟨-, read⟩
      cases read with
      | read bytes source usable there decoded shown =>
        obtain ⟨found, mode, located⟩ := Disk.locate_of_readFile there
        exact fun _ => ⟨usable, Disk.fitsBelow_of_locate named located, shown⟩
    · intro failure between _ impossible
      cases impossible
  exact met.of_on ran rfl

/-- What is asked for and found has a path that is short enough. -/
theorem reachable_of_answer {place : Place} (named : ∀ part ∈ place, IsName part)
    (usable : holdsNull (root.down place) = false) {node : Node}
    (answered : answer before (root.down place) = .ok (some node)) :
    Reachable before.host root place := by
  obtain ⟨found, located⟩ := locate_of_answer answered
  exact ⟨usable, Disk.fitsBelow_of_locate named located, hides_of_answer usable answered⟩

theorem reachable_of_mark {package : Place} (named : (Task.mark package).IsNamed)
    (usable : holdsNull (root.down (package ++ [initName])) = false)
    (ran : ((Task.mark package).act root generated).on before = (.ok (), after)) :
    Reachable before.host root (package ++ [initName]) := by
  rw [Task.act, on_bind, on_pathExists] at ran
  cases answered : answer before (root.down (package ++ [initName])) with
  | error failure =>
    rw [answered] at ran
    cases ran
  | ok found =>
    cases found with
    | some node => exact reachable_of_answer named.2 usable answered
    | none =>
      rw [answered] at ran
      exact reachable_of_writeText named.2 ran

/-- A stub that is asked for beside its source has a path that is short enough, be it there or
not. -/
theorem reachable_of_stub {depth : Nat} {front : Place} {name : String}
    (rooted : Disk.Rooted before.host.here root top before.disk)
    (named : ∀ part ∈ front ++ [name], IsName part)
    (usable : holdsNull (root.down (front ++ [name])) = false)
    (short : ∀ part ∈ front, Disk.isLongName part = false)
    (inside : before.disk.HasDirectory (top ++ front))
    (ran : ((Task.stub depth (front ++ [name])).act root generated).on before = (.ok (), after)) :
    Reachable before.host root (front ++ [name]) := by
  rw [Task.act, on_bind, on_pathExists] at ran
  cases answered : answer before (root.down (front ++ [name])) with
  | error failure =>
    rw [answered] at ran
    cases ran
  | ok found =>
    cases found with
    | some node => exact reachable_of_answer named usable answered
    | none =>
      have shown := hides_of_answer usable answered
      have held := nodeAt_of_answer usable answered
      refine ⟨usable, rooted.fitsBelow_of_absent named short inside fun tooLong => ?_, shown⟩
      rw [tooLong] at held
      exact absurd held.2 (by decide)

/-- A run that made a package. -/
structure Made (root : Path) (top : Place) (schemas : List String) (policy : Policy)
    (before after : Machine) : Prop where
  rooted : Disk.Rooted before.host.here root top before.disk
  full : ∀ name ∈ modulesOf schemas, IsFull name
  ran : (runTasks root (modulesOf schemas) (tasksOf (modulesOf schemas) policy)).on before =
    (.ok (), after)

namespace Made

variable {task : Task} {name : String}

/-- Every task was carried out. -/
theorem acted (made : Made root top schemas policy before after)
    (member : task ∈ tasksOf (modulesOf schemas) policy) :
    ∃ front between next, (∀ each ∈ front, each ∈ tasksOf (modulesOf schemas) policy) ∧
      (runTasks root (modulesOf schemas) front).on before = (.ok (), between) ∧
      between.host = before.host ∧
      (task.act root (modulesOf schemas)).on between = (.ok (), next) := by
  obtain ⟨front, back, shape⟩ := List.append_of_mem member
  obtain ⟨between, next, ranFront, ranTask⟩ := runTasks_ok made.ran shape
  have keeps : (runTasks root (modulesOf schemas) front).KeepsTo fun _ => True :=
    keepsTo_runTasks fun _ _ => trivial
  exact ⟨front, between, next, fun each inside => shape ▸ List.mem_append_left _ inside, ranFront,
    ((keeps.kept before).of_on ranFront).host, ranTask⟩

theorem source_mem (isModule : name ∈ modulesOf schemas) :
    .source (depth name) (fileOf name sourceSuffix) ∈ tasksOf (modulesOf schemas) policy :=
  mem_tasksOf.mpr (.inl ⟨name, isModule, mem_moduleTasks.mpr (.inl rfl)⟩)

theorem reachable_source (made : Made root top schemas policy before after)
    (isModule : name ∈ modulesOf schemas) :
    Reachable before.host root (fileOf name sourceSuffix) := by
  obtain ⟨-, machine, next, -, -, host, ran⟩ := made.acted (source_mem isModule)
  rw [← host]
  exact reachable_of_rewriteFile (fun part inside => isName_of_mem_fileOf (by decide) inside) ran

/-- The path of every task can be handed to the system. -/
theorem usable (made : Made root top schemas policy before after)
    (member : task ∈ tasksOf (modulesOf schemas) policy) :
    holdsNull (root.down task.place) = false := by
  rcases mem_tasksOf.mp member with ⟨name, isModule, inModule⟩ | last
  · have source : holdsNull ((Disk.Rooted.ground before.host.here root top).root.down
        (fileOf name sourceSuffix)) = false := (made.reachable_source isModule).usable
    obtain ⟨stub, packages⟩ := Disk.Ground.stub_usable source
    rcases mem_moduleTasks.mp inModule with rfl | rfl | ⟨package, isPackage, rfl⟩
    · exact source
    · exact stub
    · exact packages package isPackage
  · obtain ⟨-, between, next, -, -, -, ran⟩ := made.acted member
    have named := isNamed_of_mem_tasksOf member
    rcases mem_lastTasks.mp last with ⟨-, rfl⟩ | rfl
    · exact (reachable_of_writeText named.2 ran).usable
    · exact (reachable_of_writeText named.2 ran).usable

theorem untouched (made : Made root top schemas policy before after) :
    (Disk.Rooted.ground before.host.here root top).Untouched before := ⟨rfl, made.rooted⟩

/-- The compiler wrote every module, and the tree was finished. -/
theorem finished (made : Made root top schemas policy before after) :
    Disk.Rooted before.host.here root top after.disk ∧
      (∀ name ∈ modulesOf schemas, (before.disk.tree top).HasModule name) ∧
      after.disk.tree top = Tree.finish (modulesOf schemas) policy (before.disk.tree top) := by
  have ran : (finalize root schemas policy).on before = (.ok (modulesOf schemas), after) := by
    rw [finalize_eq_runTasks, on_bind, made.ran]
    rfl
  have reworked := (Disk.Ground.reworks_finalize schemas policy before made.untouched).of_on ran
  exact ⟨reworked.untouched.2, reworked.succeeded _ rfl⟩

/-- The machine on which a task was carried out. -/
theorem between (made : Made root top schemas policy before after)
    (member : task ∈ tasksOf (modulesOf schemas) policy) :
    ∃ machine next, machine.host = before.host ∧
      Disk.Rooted machine.host.here root top machine.disk ∧
      (∀ place, before.disk.tree top place ≠ none → machine.disk.tree top place ≠ none) ∧
      (task.act root (modulesOf schemas)).on machine = (.ok (), next) := by
  obtain ⟨front, machine, next, among, ranFront, host, ranTask⟩ := made.acted member
  obtain ⟨⟨here, rooted⟩, changed⟩ := untouched_of_runTasks made.untouched
    (fun each inside => isNamed_of_mem_tasksOf (among each inside))
    (fun each inside => made.usable (among each inside)) ranFront
  replace here : machine.host.here = before.host.here := here
  replace changed : machine.disk.tree top =
      changes (modulesOf schemas) front (before.disk.tree top) := changed
  refine ⟨machine, next, host, here ▸ rooted, fun place there => ?_, ranTask⟩
  rw [changed]
  exact changes_ne_none there

theorem reachable (made : Made root top schemas policy before after)
    (member : task ∈ tasksOf (modulesOf schemas) policy) :
    Reachable before.host root task.place := by
  have usable := made.usable member
  have named := isNamed_of_mem_tasksOf member
  obtain ⟨machine, next, host, rooted, keeps, ran⟩ := made.between member
  rw [← host]
  rcases mem_tasksOf.mp member with ⟨name, isModule, inModule⟩ | last
  · rcases mem_moduleTasks.mp inModule with rfl | rfl | ⟨package, isPackage, rfl⟩
    · exact host ▸ made.reachable_source isModule
    · -- The source of the module lies in the same directory.
      have source := (made.reachable_source isModule).fits
      have there : machine.disk.get? (top ++ fileOf name sourceSuffix) ≠ none := by
        obtain ⟨node, found, -⟩ := (made.finished.2.1 name isModule).1
        exact keeps _ (by rw [found]; exact Option.some_ne_none _)
      have inside := rooted.isTree.hasDirectory_dropLast there
      rw [fileOf, ← List.append_assoc, List.dropLast_concat] at inside
      exact reachable_of_stub rooted named.2 usable
        (fun part front => source.2 part (List.mem_append_left _ front)) inside ran
    · exact reachable_of_mark named usable ran
  · rcases mem_lastTasks.mp last with ⟨-, rfl⟩ | rfl
    · exact reachable_of_writeText named.2 ran
    · exact reachable_of_writeText named.2 ran

/-- Every task has nothing left to do. -/
theorem done (made : Made root top schemas policy before after)
    (member : task ∈ tasksOf (modulesOf schemas) policy) :
    task.Done before.host root (modulesOf schemas) top after.disk := by
  obtain ⟨rooted, written, changed⟩ := made.finished
  have fixed : task.change (modulesOf schemas) (after.disk.tree top) = after.disk.tree top := by
    rw [changed]
    exact change_finish made.full member
  have keeps : ∀ place, before.disk.tree top place ≠ none → after.disk.tree top place ≠ none := by
    intro place there
    rw [changed]
    exact Tree.finish_ne_none_iff.mpr (.inr there)
  have added : ∀ place, Tree.Added (modulesOf schemas) policy place →
      after.disk.tree top place ≠ none := by
    intro place isAdded
    rw [changed]
    exact Tree.finish_ne_none_iff.mpr (.inl isAdded)
  have sourceThere : ∀ name ∈ modulesOf schemas,
      after.disk.tree top (fileOf name sourceSuffix) ≠ none := by
    intro name isModule
    obtain ⟨node, found, -⟩ := (written name isModule).1
    exact keeps _ (by rw [found]; exact Option.some_ne_none _)
  have readable : ∀ name ∈ modulesOf schemas, ∀ suffix ∈ moduleSuffixes,
      after.disk.tree top (fileOf name suffix) ≠ none →
        (after.disk.tree top).Readable (fileOf name suffix) := by
    intro name isModule suffix isSuffix there
    rw [changed, Tree.finish_file made.full policy isModule isSuffix] at there
    have thereBefore : before.disk.tree top (fileOf name suffix) ≠ none := fun absent =>
      there (by rw [absent]; rfl)
    obtain ⟨node, found, isText⟩ := (written name isModule).readable isSuffix thereBefore
    refine ⟨node.rewrite (modulesOf schemas) (depth name), ?_, Node.isText_rewrite_iff.mpr isText⟩
    rw [changed, Tree.finish_file made.full policy isModule isSuffix, found, Option.map_some]
  refine ⟨isNamed_of_mem_tasksOf member, made.reachable member, fixed, ?_, ?_⟩
  · rintro depth place isFile there
    rcases mem_tasksOf.mp member with ⟨name, isModule, inModule⟩ | last
    · rcases mem_moduleTasks.mp inModule with rfl | rfl | ⟨package, isPackage, rfl⟩
      · rcases isFile with same | same <;> cases same
        exact readable name isModule _ (by decide) there
      · rcases isFile with same | same <;> cases same
        exact readable name isModule _ (by decide) there
      · rcases isFile with same | same <;> cases same
    · rcases mem_lastTasks.mp last with ⟨-, rfl⟩ | rfl
      · rcases isFile with same | same <;> cases same
      · rcases isFile with same | same <;> cases same
  · rcases mem_tasksOf.mp member with ⟨name, isModule, inModule⟩ | last
    · rcases mem_moduleTasks.mp inModule with rfl | rfl | ⟨package, isPackage, rfl⟩
      · exact .inl (sourceThere name isModule)
      · refine .inr ⟨⟨_, _, rfl⟩, ?_⟩
        have inside := rooted.isTree.hasDirectory_dropLast (sourceThere name isModule)
        rw [fileOf, ← List.append_assoc, List.dropLast_concat] at inside
        rwa [Task.place, fileOf, ← List.append_assoc, List.dropLast_concat]
      · exact .inl (added _ (.inr (.inr ⟨name, isModule, package, isPackage, rfl⟩)))
    · rcases mem_lastTasks.mp last with ⟨asked, rfl⟩ | rfl
      · exact .inl (added _ (.inr (.inl ⟨asked, rfl⟩)))
      · exact .inl (added _ (.inl rfl))

end Made

/-! ### Making a package and making it again -/

theorem runTasks_of_finalize {modules : List String}
    (ran : (finalize root schemas policy).on before = (.ok modules, after)) :
    modules = modulesOf schemas ∧ (runTasks root (modulesOf schemas)
      (tasksOf (modulesOf schemas) policy)).on before = (.ok (), after) := by
  rw [finalize_eq_runTasks, on_bind] at ran
  cases tasks : (runTasks root (modulesOf schemas)
      (tasksOf (modulesOf schemas) policy)).on before with
  | mk result between =>
    rw [tasks] at ran
    cases result with
    | error failure => cases ran
    | ok value =>
      cases ran
      exact ⟨rfl, rfl⟩

/-- A run that makes a package gives its modules in order and changes what it should and nothing
else. When it is run again on what it left, and no call is due to fail, it gives the same modules
and changes nothing. -/
theorem finalize_exact {modules : List String}
    (rooted : Disk.Rooted before.host.here root top before.disk)
    (full : ∀ schema ∈ schemas, IsFull (moduleName schema))
    (ran : (finalize root schemas policy).on before = (.ok modules, after)) :
    modules.Pairwise (· ≤ ·) ∧ modules.Perm (schemas.map moduleName) ∧
      Effect modules policy (before.disk.tree top) (after.disk.tree top) ∧
      Disk.SameOutside [top] before.disk after.disk ∧
      ∀ again : Machine, again.Shows after.disk before.host →
        ∃ last, (finalize root schemas policy).on again = (.ok modules, last) ∧
          last.disk.get? = after.disk.get? := by
  obtain ⟨rfl, ranTasks⟩ := runTasks_of_finalize ran
  have fullModules : ∀ name ∈ modulesOf schemas, IsFull name := by
    intro name member
    obtain ⟨schema, inSchemas, rfl⟩ := mem_modulesOf.mp member
    exact full schema inSchemas
  have made : Made root top schemas policy before after := ⟨rooted, fullModules, ranTasks⟩
  obtain ⟨rootedAfter, written, changed⟩ := made.finished
  refine ⟨sorted_pairwise _, sorted_perm _, ?_, ?_, fun again shows => ?_⟩
  · rw [changed]
    exact effect_finish fullModules written
  · exact ((staysInside_runTasks (fun task member => isNamed_of_mem_tasksOf member) before
      made.untouched).of_on ranTasks).2
  · have leaves : Leaves after.disk before.host (finalize root schemas policy)
        (modulesOf schemas) := by
      rw [finalize_eq_runTasks]
      exact (leaves_runTasks rootedAfter fun task member => made.done member).bind (leaves_pure _)
    obtain ⟨same, showsLast⟩ := leaves again shows
    exact ⟨_, Action.on_eq same, showsLast.same⟩

/-- A machine on which the compiler wrote a module with other line ends, and another one with its
stub in a directory that is a package already. -/
def stubbedModules : Machine :=
  Machine.fresh {} ⟨[
    (["p"], .directory Disk.directoryMode),
    (["p", "x_pb2.py"], .file (bytesOf "from a import b_pb2 as q\r\n") 0o600),
    (["p", "a"], .directory Disk.directoryMode),
    (["p", "a", "__init__.py"], .file (bytesOf "kept\n") Disk.fileMode),
    (["p", "a", "b_pb2.py"], .file (bytesOf "import x_pb2 as x\n") Disk.fileMode),
    (["p", "a", "b_pb2.pyi"], .file (bytesOf "") Disk.fileMode)]⟩

/-- Makes a package of these modules, with a support module. -/
def finalizeStubbed (before : Machine) : Except Failure (List String) × Machine :=
  (finalize (Path.parse "/p") ["x.proto", "a/b.proto"] .standard).on before

/-- The second of two runs changes nothing. -/
theorem finalize_stubbed_exact :
    ∃ after, finalizeStubbed stubbedModules = (.ok ["a.b_pb2", "x_pb2"], after) ∧
      after.disk.tree ["p"] ["x_pb2.py"] =
        some (.file (bytesOf "from .a import b_pb2 as q\n") 0o600) ∧
      after.disk.tree ["p"] ["a", "__init__.py"] = some (.file (bytesOf "kept\n") Disk.fileMode) ∧
      Disk.SameOutside [["p"]] stubbedModules.disk after.disk ∧
      ∃ last, finalizeStubbed (Machine.fresh {} after.disk) = (.ok ["a.b_pb2", "x_pb2"], last) ∧
        last.disk.get? = after.disk.get? := by
  have rooted : Disk.Rooted [] (Path.parse "/p") ["p"] stubbedModules.disk :=
    ⟨Disk.isTree_of_entries (by decide +kernel), Disk.hasDirectory_top _,
      ⟨Disk.directoryMode, by decide +kernel⟩,
      fun place target _ => Disk.linkless_of_entries (by decide +kernel) place target⟩
  have ran : (finalize (Path.parse "/p") ["x.proto", "a/b.proto"] .standard).on stubbedModules =
        (.ok ["a.b_pb2", "x_pb2"], (finalizeStubbed stubbedModules).2) :=
    Action.on_eq (by decide +kernel)
  obtain ⟨-, -, effect, outside, again⟩ := finalize_exact rooted (by decide +kernel) ran
  obtain ⟨last, ranAgain, same⟩ := again (Machine.fresh {} (finalizeStubbed stubbedModules).2.disk)
    ⟨rfl, fun _ _ denied => denied, rfl, fun _ => ⟨rfl, rfl⟩⟩
  have kept := effect.packages "a.b_pb2" (by decide) ["a"] (by decide) (by decide +kernel)
  exact ⟨_, ran, by decide +kernel, kept.trans (by decide +kernel), outside, last, ranAgain, same⟩

end Package

end Bindery
