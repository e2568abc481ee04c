/-
This file proves that making a package adds nothing but texts to a disk.

Wherever the paths below the root lead, and whatever is refused on the way, nothing but files is
written, and a file that is no text was there before. So making a package fails because the system
refuses, or over a file that is no text and that the compiler left.
-/

import Bindery.Proofs.Disk.Writes
import Bindery.Proofs.Package.Tasks
import Bindery.Proofs.Text.Utf8

namespace Bindery

open Text

/-! ### Files that are no texts -/

/-- A file that is no text, by what is wrong with it. -/
def Node.IsUndecodable (fault : Utf8Fault) (node : Node) : Prop :=
  ∃ bytes mode, node = .file bytes mode ∧ textOf bytes = .error fault

namespace Tree

/-- A tree holds a file that is no text. -/
def HoldsUndecodable (tree : Tree) (fault : Utf8Fault) : Prop :=
  ∃ place node, tree place = some node ∧ node.IsUndecodable fault

/-- Nothing but texts was added below the top of a tree: what is no text on the later tree is so on
the earlier one, too. -/
structure AddsTexts (before after : Tree) : Prop where
  top : after [] = before []
  undecodable : ∀ place node fault, after place = some node → node.IsUndecodable fault →
    before place = some node

theorem AddsTexts.refl (tree : Tree) : AddsTexts tree tree := ⟨rfl, fun _ _ _ found _ => found⟩

theorem AddsTexts.trans {first second third : Tree} (start : AddsTexts first second)
    (rest : AddsTexts second third) : AddsTexts first third :=
  ⟨rest.top.trans start.top, fun place node fault found isUndecodable =>
    start.undecodable place node fault (rest.undecodable place node fault found isUndecodable)
      isUndecodable⟩

theorem AddsTexts.holds {before after : Tree} (texts : AddsTexts before after) {fault : Utf8Fault}
    (holds : after.HoldsUndecodable fault) : before.HoldsUndecodable fault := by
  obtain ⟨place, node, found, isUndecodable⟩ := holds
  exact ⟨place, node, texts.undecodable place node fault found isUndecodable, isUndecodable⟩

theorem not_isUndecodable_text (text : String) (mode : Mode) (fault : Utf8Fault) :
    ¬ (Node.file (bytesOf text) mode).IsUndecodable fault := by
  rintro ⟨bytes, otherMode, same, undecodable⟩
  cases same
  cases (textOf_bytesOf text).symm.trans undecodable

/-- A text is added to a whole disk wherever it is put. -/
theorem addsTexts_put (disk : Disk) (place : Place) (text : String) (mode : Mode) :
    AddsTexts (disk.tree []) ((disk.put place (.file (bytesOf text) mode)).tree []) := by
  refine ⟨rfl, fun other node fault found isUndecodable => ?_⟩
  show disk.get? other = some node
  replace found : (disk.put place (.file (bytesOf text) mode)).get? other = some node := found
  rw [Disk.get?_put] at found
  split at found
  next top =>
    rw [top, Disk.get?_top]
    exact found
  next =>
    split at found
    next =>
      cases found
      exact absurd isUndecodable (not_isUndecodable_text text mode fault)
    next => exact found

end Tree

namespace Package

variable {α β : Type} {action : Action α} {root : Path}

/-! ### Adding texts -/

/-- What an action has come to that adds nothing but texts to the disk, by paths below a root that
can be handed over. -/
structure AddedTexts (root : Path) (machine : Machine) (result : Except Failure α)
    (after : Machine) : Prop where
  texts : Tree.AddsTexts (machine.disk.tree []) (after.disk.tree [])
  failed : ∀ failure, result = .error failure → (∃ fault, failure = .system fault) ∨
    ∃ fault, failure = .value (.undecodable fault) ∧ (after.disk.tree []).HoldsUndecodable fault
  follows : machine.Follows after
  written : root.isAbsolute = true → machine.disk.IsTree →
    Disk.WrittenBelow machine.host.here root machine.disk after.disk

/-- An action adds nothing but texts to the disk. -/
def AddsOnlyTexts (root : Path) (action : Action α) : Prop :=
  ∀ machine, action.Meets machine (AddedTexts root machine)

theorem addsOnlyTexts_pure (value : α) : AddsOnlyTexts root (pure value) := fun machine =>
  ⟨.refl _, (fun _ impossible => by cases impossible), .refl machine,
    fun _ isTree => .refl isTree⟩

theorem AddsOnlyTexts.bind {next : α → Action β} (first : AddsOnlyTexts root action)
    (rest : ∀ value, AddsOnlyTexts root (next value)) :
    AddsOnlyTexts root (action >>= next) := by
  intro machine
  refine (first machine).bind ?_ ?_
  · intro value between added
    refine (rest value between).mono fun result after addedAgain => ?_
    refine ⟨added.texts.trans addedAgain.texts, addedAgain.failed,
      added.follows.trans addedAgain.follows, fun absolute isTree => ?_⟩
    have below := added.written absolute isTree
    have belowAgain := addedAgain.written absolute below.isTree
    rw [added.follows.host] at belowAgain
    exact below.trans belowAgain
  · intro failure between added
    exact ⟨added.texts, fun other same =>
      added.failed other (congrArg Except.error (Except.error.inj same)), added.follows,
      added.written⟩

theorem addsOnlyTexts_pathExists (path : Path) :
    AddsOnlyTexts root (Action.pathExists path) := by
  intro machine
  unfold Action.Meets
  rw [Action.on_pathExists]
  refine ⟨.refl _, fun failure same => .inl ?_, .refl machine, fun _ isTree => .refl isTree⟩
  cases answered : Action.answer machine path with
  | ok found =>
    rw [answered] at same
    cases same
  | error other =>
    rw [answered] at same
    cases same
    obtain ⟨code, -, refusal, -⟩ := Action.answer_eq_error answered
    exact ⟨_, refusal⟩

/-- A path that lies below a root and can be handed over. -/
def LiesBelow (root path : Path) : Prop :=
  Action.holdsNull path = false ∧ ∃ names, names ≠ [] ∧ path = root.down names

theorem addsOnlyTexts_writeText {path : Path} (below : LiesBelow root path) (text : String) :
    AddsOnlyTexts root (Action.writeText path text) := by
  intro machine
  obtain ⟨usable, names, some, rfl⟩ := below
  refine (Action.attempt_meets .write [root.down names] _ machine).mono fun result after ended => ?_
  have follows := ended.follows (by decide)
  cases ended with
  | refused code =>
    refine ⟨.refl _, fun failure same => .inl ?_, follows, fun _ isTree => .refl isTree⟩
    cases same
    exact ⟨_, rfl⟩
  | unusable null => simp [usable] at null
  | done disk _ worked =>
    refine ⟨?_, (fun _ impossible => by cases impossible), follows, fun absolute isTree =>
      Disk.writtenBelow_writeFile isTree absolute some worked⟩
    show Tree.AddsTexts (machine.disk.tree []) (disk.tree [])
    unfold Disk.writeFile at worked
    split at worked
    next place _ mode _ =>
      cases worked
      exact Tree.addsTexts_put machine.disk place text mode
    next => cases worked
    next => cases worked
    next directory name _ =>
      cases worked
      exact Tree.addsTexts_put machine.disk (directory ++ [name]) text Disk.fileMode
    next => cases worked

/-- What is read is a text, or the file that is no text is there. -/
theorem addsOnlyTexts_readText {path : Path} (usable : Action.holdsNull path = false) :
    AddsOnlyTexts root (Action.readText path) := by
  intro machine
  refine (Action.readText_meets path machine).mono ?_
  rintro result after ⟨rfl, read⟩
  refine ⟨.refl _, fun failure same => ?_, machine.follows_counted (by decide) machine.disk,
    fun _ isTree => .refl isTree⟩
  cases read with
  | refused code =>
    cases same
    exact .inl ⟨_, rfl⟩
  | unusable null =>
    rw [usable] at null
    cases null
  | undecodable bytes fault _ there decoded =>
    cases same
    obtain ⟨place, mode, found⟩ := Disk.get?_of_readFile there
    exact .inr ⟨fault, rfl, place, _, found, bytes, mode, rfl, decoded⟩
  | read => cases same

/-! ### Making a package -/

/-- What keeps to paths below the root that can be handed over adds nothing but texts. -/
theorem addsOnlyTexts_of_keepsTo (keeps : action.KeepsTo (LiesBelow root)) :
    AddsOnlyTexts root action := by
  induction keeps with
  | pure value => exact addsOnlyTexts_pure value
  | bind _ _ first rest => exact first.bind rest
  | readText below => exact addsOnlyTexts_readText below.1
  | writeText below text => exact addsOnlyTexts_writeText below text
  | pathExists => exact addsOnlyTexts_pathExists _

/-- Making a package adds nothing but texts to the disk, wherever its root is. -/
theorem addsOnlyTexts_finalize (inRoot : ∀ part ∈ root.parts, '\x00' ∉ part.toList)
    {schemas : List String} (usable : ∀ schema ∈ schemas, '\x00' ∉ schema.toList)
    (policy : Policy) : AddsOnlyTexts root (finalize root schemas policy) :=
  addsOnlyTexts_of_keepsTo <| keepsTo_finalize fun task member =>
    ⟨usable_of_mem_tasksOf (Action.holdsNull_eq_false_iff.mpr inRoot) usable member, task.place,
      (isNamed_of_mem_tasksOf member).1, rfl⟩

end Package

end Bindery
