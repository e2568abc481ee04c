/-
This file proves that making a package finds the modules that are there.

Where the source of every module lies below the root, no step of making a package fails because
something is missing: what is read is there, and what is written lies in directories that are there.
Nothing that lies below the root goes, so that every step finds what the first one found.
-/

import Bindery.Proofs.Package.Tasks

namespace Bindery

open Text Package

/-- The system says that something is missing. -/
def Failure.IsMissing (failure : Failure) : Prop :=
  ∃ paths, failure = .system ⟨Errno.noEntry, paths⟩

/-- No call is due to fail as if something were missing. -/
def Schedule.SparesMissing (schedule : Schedule) : Prop :=
  ∀ kind count, schedule kind count ≠ some Errno.noEntry

namespace Disk

/-! ### Names in a directory without links -/

/-- Names that lead through directories, without links on the way, are not missing. -/
theorem walk_ne_noEntry {disk : Disk} (isTree : disk.IsTree) {last : Bool} {links : Nat}
    {here names : Place} (some : names ≠ []) (named : ∀ name ∈ names, IsName name)
    (linkless : ∀ place target, here <+: place → disk.get? place ≠ .some (.link target))
    (through : disk.HasDirectory (here ++ names.dropLast)) :
    disk.walk last links here names ≠ .error Errno.noEntry := by
  induction names generalizing here with
  | nil => exact absurd rfl some
  | cons name rest inductionHypothesis =>
    have isName := named name List.mem_cons_self
    by_cases long : isLongName name = true
    · rw [walk_name isName, if_pos long]
      exact fun same => absurd (Except.error.inj same) (by decide)
    have short := Bool.eq_false_iff.mpr long
    by_cases alone : rest = []
    · subst alone
      cases found : disk.get? (here ++ [name]) with
      | none =>
        rw [walk_absent isName short found, if_pos rfl]
        exact fun same => by cases same
      | some node =>
        have notLink : node.isLink = false := by
          cases node with
          | link target => exact absurd found (linkless _ target (List.prefix_append _ _))
          | file | directory => rfl
        rw [walk_last isName short found (.inl notLink)]
        exact fun same => by cases same
    · rw [List.dropLast_cons_of_ne_nil alone, List.append_cons] at through
      have entered : disk.HasDirectory (here ++ [name]) := by
        by_cases next : rest.dropLast = []
        · rwa [next, List.append_nil] at through
        · exact isTree.hasDirectory_above _ next through.ne_none
      obtain ⟨mode, found⟩ := entered
      rw [walk_enter isName short found]
      exact inductionHypothesis alone
        (fun each member => named each (List.mem_cons_of_mem _ member))
        (fun place target below => linkless place target ((List.prefix_append _ _).trans below))
        through

namespace Ground

/-- A name below the root is not missing if what it lies in is there. -/
def Reaches (ground : Ground) : Prop :=
  ∀ disk names last, ground.Stands disk → names ≠ [] → (∀ name ∈ names, IsName name) →
    (names.dropLast = [] ∨ disk.HasDirectory (ground.top ++ names.dropLast)) →
      disk.locate ground.here last (ground.root.down names) ≠ .error Errno.noEntry

end Ground

/-- In a directory without links no name is missing. -/
theorem Rooted.reaches (here : Place) (root : Path) (top : Place) :
    (Rooted.ground here root top).Reaches := by
  intro disk names last rooted some named through
  replace rooted : Rooted here root top disk := rooted
  obtain ⟨mode, walked⟩ := rooted.leads
  obtain ⟨left, onward⟩ := (way_of_walk_eq walked).walk_append
  have inside : disk.HasDirectory (top ++ names.dropLast) := by
    refine through.elim (fun atTop => ?_) id
    rw [atTop, List.append_nil]
    exact rooted.leads.hasDirectory rooted.isTree rooted.start
  show disk.locate here last (root.down names) ≠ _
  unfold Disk.locate
  by_cases long : pathLimit ≤ (root.down names).text.utf8ByteSize
  · rw [if_pos long]
    exact fun same => absurd (Except.error.inj same) (by decide)
  · rw [if_neg long]
    show disk.walk last linkLimit (startOf here root) (root.parts ++ names) ≠ _
    rw [onward last names some]
    exact walk_ne_noEntry rooted.isTree some named rooted.linkless inside

namespace Ground

variable {α β : Type} {ground : Ground} {needs more : Place → Prop}

/-! ### Actions that find what they need -/

/-- How an action ends that nothing was missing for. -/
structure Found (ground : Ground) (machine : Machine) (result : Except Failure α)
    (after : Machine) : Prop where
  untouched : ground.Untouched after
  schedule : after.schedule = machine.schedule
  kept : ∀ place, machine.disk.tree ground.top place ≠ none →
    after.disk.tree ground.top place ≠ none
  notMissing : ∀ failure, result = .error failure → ¬ failure.IsMissing

/-- Where there is something at certain places below the root, nothing is missing for an action. -/
def Finds (ground : Ground) (needs : Place → Prop) (action : Action α) : Prop :=
  ∀ machine, ground.Untouched machine → machine.schedule.SparesMissing →
    (∀ place, needs place → machine.disk.tree ground.top place ≠ none) →
      action.Meets machine (ground.Found machine)

theorem finds_pure (value : α) : ground.Finds needs (pure value) :=
  fun _ untouched _ _ => ⟨untouched, rfl, fun _ there => there, fun _ impossible => by
    cases impossible⟩

theorem Finds.bind {action : Action α} {next : α → Action β} (first : ground.Finds needs action)
    (rest : ∀ value, ground.Finds needs (next value)) : ground.Finds needs (action >>= next) := by
  intro machine untouched spares there
  refine (first machine untouched spares there).bind ?_ ?_
  · intro value between found
    have again := rest value between found.untouched (found.schedule ▸ spares) fun place needed =>
      found.kept place (there place needed)
    refine again.mono fun result after later => ?_
    exact ⟨later.untouched, later.schedule.trans found.schedule, fun place isThere =>
      later.kept place (found.kept place isThere), later.notMissing⟩
  · intro failure between found
    refine ⟨found.untouched, found.schedule, found.kept, fun other same => ?_⟩
    exact found.notMissing other (by rw [Except.error.inj same])

/-- Reading what is there finds it. -/
theorem finds_readText {place : Place} (some : place ≠ []) (named : ∀ part ∈ place, IsName part)
    (needed : needs place) : ground.Finds needs (Action.readText (ground.root.down place)) := by
  intro machine untouched spares there
  obtain ⟨here, stands⟩ := untouched
  refine ((Action.readText_meets _ machine).and (Action.readText_refused _ machine)).mono ?_
  intro result after ended
  obtain ⟨⟨counted, -⟩, refused⟩ := ended
  subst counted
  refine ⟨⟨here, stands⟩, rfl, fun _ isThere => isThere, ?_⟩
  intro failure failed missing
  obtain ⟨paths, same⟩ := missing
  obtain ⟨node, found⟩ := Option.ne_none_iff_exists'.mp (there place needed)
  rcases Action.cause_of_noEntry rfl (refused ⟨Errno.noEntry, paths⟩ (by rw [failed, same])) with
    scheduled | unread
  · exact spares _ _ scheduled
  · replace unread : machine.disk.readFile ground.here (ground.root.down place) =
        .error Errno.noEntry := here ▸ unread
    unfold Disk.readFile at unread
    rcases ground.present stands some named found with isThere | tooLong
    · rw [isThere] at unread
      cases node with
      | file => cases unread
      | directory => exact absurd (Except.error.inj unread) (by decide)
      | link => exact absurd (Except.error.inj unread) (by decide)
    · rw [tooLong] at unread
      exact absurd (Except.error.inj unread) (by decide)

/-- Writing where what the file lies in is there finds it. -/
theorem finds_writeText (reaches : ground.Reaches) {place : Place} (some : place ≠ [])
    (named : ∀ part ∈ place, IsName part)
    (inside : place.dropLast = [] ∨ ∃ rest, rest ≠ [] ∧ needs (place.dropLast ++ rest))
    (text : String) : ground.Finds needs (Action.writeText (ground.root.down place) text) := by
  intro machine untouched spares there
  obtain ⟨here, stands⟩ := untouched
  have through : place.dropLast = [] ∨
      machine.disk.HasDirectory (ground.top ++ place.dropLast) := by
    refine inside.imp_right fun below => ?_
    obtain ⟨rest, notAlone, needed⟩ := below
    have isThere := there _ needed
    rw [tree, ← List.append_assoc] at isThere
    exact (ground.isTree stands).hasDirectory_above rest notAlone isThere
  have written : ∀ bytes, machine.disk.writeFile machine.host.here (ground.root.down place) bytes ≠
      .error Errno.noEntry := by
    intro bytes missing
    unfold Disk.writeFile at missing
    rw [here] at missing
    split at missing
    next => cases missing
    next => exact absurd (Except.error.inj missing) (by decide)
    next => exact absurd (Except.error.inj missing) (by decide)
    next => cases missing
    next code located =>
      cases missing
      exact reaches _ _ _ stands some named through located
  refine ((Action.attempt_meets .write _ _ machine).and
    (Action.attempt_refused .write _ _ machine)).mono ?_
  intro result after ended
  obtain ⟨ended, refused⟩ := ended
  have notMissing : ∀ failure, result = .error failure → ¬ failure.IsMissing := by
    intro failure failed missing
    obtain ⟨paths, same⟩ := missing
    exact (Action.cause_of_noEntry rfl (refused ⟨Errno.noEntry, paths⟩ (by rw [failed, same]))).elim
      (spares _ _) (written _)
  cases ended with
  | refused | unusable => exact ⟨⟨here, stands⟩, rfl, fun _ isThere => isThere, notMissing⟩
  | done disk usable worked =>
    rw [here] at worked
    obtain ⟨standsAfter, changed⟩ := writeFile stands some named worked
    refine ⟨⟨here, standsAfter⟩, rfl, fun each isThere => ?_, notMissing⟩
    show disk.tree ground.top each ≠ none
    rw [changed, Tree.write_ne_none_iff]
    exact .inr isThere

theorem finds_rewriteFile (reaches : ground.Reaches) (generated : List String) (depth : Nat)
    {place : Place} (some : place ≠ []) (named : ∀ part ∈ place, IsName part)
    (needed : needs place) :
    ground.Finds needs (rewriteFile generated depth (ground.root.down place)) := by
  have whole : needs (place.dropLast ++ [place.getLast some]) := by
    rwa [List.dropLast_concat_getLast some]
  exact (finds_readText some named needed).bind fun source =>
    finds_writeText reaches some named (.inr ⟨_, List.cons_ne_nil _ _, whole⟩) _

/-- What is done if a path below the root leads somewhere needs no more than what is there. -/
theorem finds_pathExists_bind {place : Place} (some : place ≠ [])
    (named : ∀ part ∈ place, IsName part) {next : Bool → Action α}
    (ifThere : ground.Finds (fun each => needs each ∨ each = place) (next true))
    (ifNot : ground.Finds needs (next false)) :
    ground.Finds needs (Action.pathExists (ground.root.down place) >>= next) := by
  intro machine untouched spares there
  unfold Action.Meets
  rw [Action.on_bind, Action.on_pathExists]
  cases answered : Action.answer machine (ground.root.down place) with
  | error failure =>
    refine ⟨untouched, rfl, fun _ isThere => isThere, fun other same missing => ?_⟩
    cases same
    obtain ⟨paths, isMissing⟩ := missing
    obtain ⟨code, refused, withheld⟩ := Action.answer_fails answered
    cases isMissing.symm.trans refused
    exact withheld.ne_noEntry rfl
  | ok found =>
    cases found with
    | none => exact ifNot machine untouched spares there
    | some node =>
      have usable : Action.holdsNull (ground.root.down place) = false := by
        by_contra null
        unfold Action.answer at answered
        rw [if_pos (Bool.not_eq_false _ ▸ null)] at answered
        cases answered
      have isThere := untouched.answer some named usable answered
      refine ifThere machine untouched spares fun each needed => ?_
      rcases needed with before | same
      · exact there each before
      · rw [same, ← isThere]
        exact Option.some_ne_none _

/-! ### Making a package -/

/-- What a task needs is among the places where there is something: its source, or something below
the directory that it writes to. -/
def IsProvided (needs : Place → Prop) : Task → Prop
  | .source _ place => needs place
  | .stub _ _ => True
  | .mark package => ∃ rest, rest ≠ [] ∧ needs (package ++ rest)
  | .write place _ => place.dropLast = []

theorem finds_act (reaches : ground.Reaches) {generated : List String} {task : Task}
    (named : task.IsNamed) (provided : IsProvided needs task) :
    ground.Finds needs (task.act ground.root generated) := by
  cases task with
  | source depth place => exact finds_rewriteFile reaches generated depth named.1 named.2 provided
  | stub depth place =>
    exact finds_pathExists_bind named.1 named.2
      (finds_rewriteFile reaches generated depth named.1 named.2 (.inr rfl)) (finds_pure ())
  | mark package =>
    have within : ∃ rest, rest ≠ [] ∧ needs ((package ++ [initName]).dropLast ++ rest) := by
      rw [List.dropLast_concat]
      exact provided
    exact finds_pathExists_bind named.1 named.2 (finds_pure ())
      (finds_writeText reaches named.1 named.2 (.inr within) header)
  | write place text => exact finds_writeText reaches named.1 named.2 (.inl provided) text

theorem finds_runTasks (reaches : ground.Reaches) {generated : List String} {tasks : List Task}
    (named : ∀ task ∈ tasks, task.IsNamed) (provided : ∀ task ∈ tasks, IsProvided needs task) :
    ground.Finds needs (runTasks ground.root generated tasks) := by
  induction tasks with
  | nil => exact finds_pure ()
  | cons task rest inductionHypothesis =>
    exact (finds_act reaches (named task List.mem_cons_self)
        (provided task List.mem_cons_self)).bind fun _ =>
      inductionHypothesis (fun each member => named each (List.mem_cons_of_mem _ member))
        fun each member => provided each (List.mem_cons_of_mem _ member)

/-- Tasks need the sources of the modules and nothing else. -/
theorem isProvided_of_mem_tasksOf {modules : List String} {policy : Policy}
    (needed : ∀ name ∈ modules, needs (fileOf name sourceSuffix)) {task : Task}
    (member : task ∈ tasksOf modules policy) : IsProvided needs task := by
  rcases mem_tasksOf.mp member with ⟨name, isModule, inModule⟩ | last
  · rcases mem_moduleTasks.mp inModule with rfl | rfl | ⟨package, isPackage, rfl⟩
    · exact needed name isModule
    · trivial
    · obtain ⟨between, shape⟩ := (mem_packagesOf.mp isPackage).2
      refine ⟨between ++ [(pieces name).getLastD "" ++ sourceSuffix], by simp, ?_⟩
      rw [← List.append_assoc, shape]
      exact needed name isModule
  · rcases mem_lastTasks.mp last with ⟨-, rfl⟩ | rfl
    · rfl
    · rfl

/-- Making a package needs the sources of its modules. -/
theorem finds_finalize (reaches : ground.Reaches) (schemas : List String) (policy : Policy)
    (needed : ∀ name ∈ modulesOf schemas, needs (fileOf name sourceSuffix)) :
    ground.Finds needs (finalize ground.root schemas policy) := by
  rw [finalize_eq_runTasks]
  exact (finds_runTasks reaches (fun _ => isNamed_of_mem_tasksOf)
    fun _ => isProvided_of_mem_tasksOf needed).bind fun _ => finds_pure _

end Ground

end Disk

end Bindery
