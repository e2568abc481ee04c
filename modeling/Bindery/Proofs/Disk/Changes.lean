/-
This file describes how far the changes to a disk reach.

Moving and removing entries changes nothing outside the places that are moved or removed, and
keeps a tree a tree.
-/

import Bindery.Proofs.Disk.Entries

namespace Bindery.Disk

/-! ### What stays as it was -/

/-- Two disks differ at most at and below some places. -/
def SameOutside (tops : List Place) (disk other : Disk) : Prop :=
  ∀ place, (∀ top ∈ tops, ¬ top <+: place) → other.get? place = disk.get? place

variable {disk other third : Disk} {tops : List Place} {old new place : Place}

theorem SameOutside.refl (tops : List Place) (disk : Disk) : SameOutside tops disk disk :=
  fun _ _ => rfl

theorem SameOutside.trans (first : SameOutside tops disk other)
    (second : SameOutside tops other third) : SameOutside tops disk third :=
  fun each beside => (second each beside).trans (first each beside)

theorem SameOutside.mono {more : List Place} (same : SameOutside tops disk other)
    (subset : tops ⊆ more) : SameOutside more disk other :=
  fun each beside => same each fun top member => beside top (subset member)

/-- What lies at and below a place that is apart from all others stays. -/
theorem SameOutside.tree_eq (same : SameOutside tops disk other)
    (apart : ∀ top ∈ tops, ¬ top <+: place ∧ ¬ place <+: top) :
    other.tree place = disk.tree place := by
  funext rest
  refine same _ fun top member under => ?_
  rcases List.prefix_or_prefix_of_prefix under (List.prefix_append place rest) with above | below
  · exact (apart top member).1 above
  · exact (apart top member).2 below

theorem sameOutside_moveTree (disk : Disk) (old new : Place) :
    SameOutside [old, new] disk (disk.moveTree old new) := fun each beside =>
  get?_moveTree_of_not_under disk (beside old (by simp)) (beside new (by simp))

theorem sameOutside_eraseTree (disk : Disk) (top : Place) :
    SameOutside [top] disk (disk.eraseTree top) := fun each beside =>
  get?_eraseTree_of_not_under disk (beside top (by simp))

theorem sameOutside_pruneTree (disk : Disk) (top : Place) (refused : List Place) :
    SameOutside [top] disk (disk.pruneTree top refused) := fun each beside =>
  get?_pruneTree_of_kept disk (.inl (beside top (by simp)))

theorem get?_erase_of_ne (disk : Disk) {each : Place} (different : each ≠ place) :
    (disk.erase place).get? each = disk.get? each := by
  rw [get?_erase, if_neg different]
  split
  next top => rw [top, get?_top]
  next => rfl

theorem get?_erase_self (disk : Disk) (named : place ≠ []) :
    (disk.erase place).get? place = none := by
  rw [get?_erase, if_neg named, if_pos rfl]

theorem sameOutside_erase (disk : Disk) (place : Place) :
    SameOutside [place] disk (disk.erase place) := fun each beside =>
  get?_erase_of_ne disk (by
    rintro rfl
    exact beside each (by simp) List.prefix_rfl)

/-! ### Trees stay trees -/

theorem HasDirectory.of_eq (directory : disk.HasDirectory place)
    (same : other.get? place = disk.get? place) : other.HasDirectory place := by
  obtain ⟨mode, found⟩ := directory
  exact ⟨mode, same.trans found⟩

/-- Nothing lies at a place, or a directory, so that the place can be cleared like a directory. -/
def Removable (disk : Disk) (place : Place) : Prop :=
  disk.get? place = none ∨ disk.HasDirectory place

theorem Removable.of_eq (removable : disk.Removable place)
    (same : other.get? place = disk.get? place) : other.Removable place :=
  removable.imp same.trans fun directory => directory.of_eq same

theorem IsTree.eraseTree (isTree : disk.IsTree) (named : place ≠ []) :
    (disk.eraseTree place).IsTree := by
  intro parent name found
  have beside : ¬ place <+: parent ++ [name] := fun under =>
    found (get?_eraseTree_of_under disk named under)
  have parentBeside : ¬ place <+: parent := fun under =>
    beside (under.trans (List.prefix_append _ _))
  rw [get?_eraseTree_of_not_under disk beside] at found
  exact (isTree parent name found).of_eq (get?_eraseTree_of_not_under disk parentBeside)

theorem IsTree.erase (isTree : disk.IsTree) (named : place ≠ [])
    (notDirectory : ¬ disk.HasDirectory place) : (disk.erase place).IsTree := by
  intro parent name found
  have different : parent ++ [name] ≠ place := by
    rintro same
    rw [same, get?_erase, if_neg named, if_pos rfl] at found
    exact found rfl
  rw [get?_erase_of_ne disk different] at found
  have directory := isTree parent name found
  refine directory.of_eq (get?_erase_of_ne disk ?_)
  rintro rfl
  exact notDirectory directory

/-- An entry that is moved to a name in a directory keeps a tree a tree. -/
theorem IsTree.moveTree (isTree : disk.IsTree) (oldNamed : old ≠ []) (newNamed : new ≠ [])
    (apart : ¬ new <+: old) (notAbove : ¬ old <+: new) (parent : disk.HasDirectory new.dropLast) :
    (disk.moveTree old new).IsTree := by
  intro place name found
  by_cases under : new <+: place ++ [name]
  · rcases List.prefix_concat_iff.mp under with atNew | below
    · have above : place = new.dropLast := by rw [atNew, List.dropLast_concat]
      rw [above]
      refine parent.of_eq (get?_moveTree_of_not_under disk (fun prefixed => ?_) fun prefixed => ?_)
      · exact notAbove (prefixed.trans (List.dropLast_prefix new))
      · have shorter := prefixed.length_le
        rw [List.length_dropLast] at shorter
        have := List.length_pos_iff.mpr newNamed
        omega
    · obtain ⟨rest, rfl⟩ := below
      rw [List.append_assoc, get?_moveTree_new disk oldNamed newNamed, ← List.append_assoc] at found
      obtain ⟨mode, there⟩ := isTree _ name found
      exact ⟨mode, by rw [get?_moveTree_new disk oldNamed newNamed, there]⟩
  · by_cases left : old <+: place ++ [name]
    · obtain ⟨rest, same⟩ := left
      rw [← same, get?_moveTree_old disk oldNamed apart notAbove] at found
      exact absurd rfl found
    · rw [get?_moveTree_of_not_under disk left under] at found
      exact (isTree place name found).of_eq (get?_moveTree_of_not_under disk
        (fun prefixed => left (prefixed.trans (List.prefix_append _ _)))
        (fun prefixed => under (prefixed.trans (List.prefix_append _ _))))

/-! ### Names in one directory -/

variable {directory : Place} {name otherName : String}

/-- Entries of different names in one directory are apart. -/
theorem not_prefix_of_ne (different : name ≠ otherName) :
    ¬ directory ++ [name] <+: directory ++ [otherName] := by
  rw [List.prefix_append_right_inj]
  intro prefixed
  obtain ⟨rest, same⟩ := prefixed
  exact different (List.cons.inj same).1

/-- No entry of a directory lies above the directory. -/
theorem not_prefix_directory : ¬ directory ++ [name] <+: directory := by
  intro prefixed
  have shorter := prefixed.length_le
  rw [List.length_append, List.length_singleton] at shorter
  omega

end Bindery.Disk
