/-
This file describes disks by what is found on them.

On a disk that is a tree every entry lies in a directory, so that nothing lies below a place that
is free or holds a file or a link. Moving a tree takes every entry below the old place to the
corresponding place below the new one, where it leaves nothing else, and touches no other place.
-/

import Bindery.Disk.Basic
import Mathlib.Data.List.Induction

namespace Bindery

/-- An entry with everything below it, by the names on the way. -/
abbrev Tree := Place → Option Node

namespace Disk

/-! ### Trees -/

/-- There is a directory at a place. -/
def HasDirectory (disk : Disk) (place : Place) : Prop :=
  ∃ mode, disk.get? place = some (.directory mode)

/-- Every entry lies in a directory. -/
def IsTree (disk : Disk) : Prop :=
  ∀ place name, disk.get? (place ++ [name]) ≠ none → disk.HasDirectory place

/-- What lies at a place and below it, seen from there. -/
def tree (disk : Disk) (top : Place) : Tree := fun rest => disk.get? (top ++ rest)

theorem hasDirectory_top (disk : Disk) : disk.HasDirectory [] := ⟨_, disk.get?_top⟩

theorem isUnder_iff_isPrefix (place top : Place) :
    Place.isUnder place top = true ↔ top <+: place := by
  rw [isUnder_iff]
  exact ⟨fun ⟨rest, same⟩ => ⟨rest, same.symm⟩, fun ⟨rest, same⟩ => ⟨rest, same.symm⟩⟩

theorem isUnder_eq_false_iff (place top : Place) :
    Place.isUnder place top = false ↔ ¬ top <+: place := by
  rw [← isUnder_iff_isPrefix, Bool.not_eq_true]

theorem HasDirectory.ne_none {disk : Disk} {place : Place} (directory : disk.HasDirectory place) :
    disk.get? place ≠ none := by
  obtain ⟨mode, found⟩ := directory
  rw [found]
  exact Option.some_ne_none _

/-- On a tree the directory of an entry is there. -/
theorem IsTree.hasDirectory_above {disk : Disk} (isTree : disk.IsTree) {place : Place}
    (below : Place) (some : below ≠ []) (found : disk.get? (place ++ below) ≠ none) :
    disk.HasDirectory place := by
  induction below using List.reverseRecOn with
  | nil => exact absurd rfl some
  | append_singleton front name inductionHypothesis =>
    have parent : disk.HasDirectory (place ++ front) := by
      refine isTree _ name ?_
      rwa [List.append_assoc]
    by_cases empty : front = []
    · simpa [empty] using parent
    · exact inductionHypothesis empty parent.ne_none

/-- On a tree the place above an entry is a directory. -/
theorem IsTree.hasDirectory_dropLast {disk : Disk} (isTree : disk.IsTree) {place : Place}
    (found : disk.get? place ≠ none) : disk.HasDirectory place.dropLast := by
  rcases List.eq_nil_or_concat place with rfl | ⟨front, child, rfl⟩
  · exact disk.hasDirectory_top
  · rw [List.concat_eq_append] at found ⊢
    rw [List.dropLast_concat]
    exact isTree front child found

/-- What is found below the top is written down. -/
theorem mem_entries_of_get? {disk : Disk} {place : Place} {node : Node} (below : place ≠ [])
    (found : disk.get? place = some node) : (place, node) ∈ disk.entries := by
  rw [get?_of_ne_nil _ below] at found
  obtain ⟨front, back, entries, -⟩ := List.lookup_eq_some_iff.mp found
  rw [entries]
  exact List.mem_append_right _ List.mem_cons_self

/-- A link that is found is written down. -/
theorem mem_entries_of_link {disk : Disk} {place : Place} {target : String}
    (found : disk.get? place = some (.link target)) : (place, .link target) ∈ disk.entries := by
  refine mem_entries_of_get? (fun atTop => ?_) found
  rw [atTop, get?_top] at found
  cases found

/-- A disk is a tree if every entry that is written down lies in a directory. -/
theorem isTree_of_entries {disk : Disk}
    (inside : ∀ entry ∈ disk.entries, disk.HasDirectory entry.1.dropLast) : disk.IsTree := by
  intro place name found
  obtain ⟨node, listed⟩ := Option.ne_none_iff_exists'.mp found
  have parent := inside (place ++ [name], node) (mem_entries_of_get? (by simp) listed)
  rwa [List.dropLast_concat] at parent

instance (disk : Disk) (place : Place) : Decidable (disk.HasDirectory place) :=
  decidable_of_iff ((disk.get? place).any Node.isDirectory = true) <| by
    unfold HasDirectory
    cases disk.get? place with
    | none => simp
    | some node => cases node <;> simp [Node.isDirectory]

/-- On a tree nothing lies below a place without a directory. -/
theorem IsTree.get?_below {disk : Disk} (isTree : disk.IsTree) {place : Place}
    (absent : ¬ disk.HasDirectory place) {below : Place} (some : below ≠ []) :
    disk.get? (place ++ below) = none :=
  Decidable.byContradiction fun found =>
    absent (isTree.hasDirectory_above below some found)

/-- On a tree nothing lies at or below a free place. -/
theorem IsTree.get?_under {disk : Disk} (isTree : disk.IsTree) {place : Place}
    (free : disk.get? place = none) (below : Place) : disk.get? (place ++ below) = none := by
  by_cases empty : below = []
  · simpa [empty] using free
  · refine isTree.get?_below (fun ⟨mode, found⟩ => ?_) empty
    rw [free] at found
    cases found

/-- On a tree no entry lies at or below a free place. -/
theorem IsTree.not_under {disk : Disk} (isTree : disk.IsTree) {top place : Place} {node : Node}
    (free : disk.get? top = none) (found : disk.get? place = some node) : ¬ top <+: place := by
  rintro ⟨rest, rfl⟩
  rw [isTree.get?_under free rest] at found
  cases found

/-! ### Putting -/

theorem get?_put_self (disk : Disk) {place : Place} (below : place ≠ []) (node : Node) :
    (disk.put place node).get? place = some node := by
  rw [get?_put, if_neg below, if_pos rfl]

theorem get?_put_of_ne (disk : Disk) {place other : Place} (different : other ≠ place)
    (node : Node) : (disk.put place node).get? other = disk.get? other := by
  rw [get?_put, if_neg different]
  split
  next top => rw [top, get?_top]
  next => rfl

theorem get?_eraseTree_of_not_under (disk : Disk) {top place : Place} (beside : ¬ top <+: place) :
    (disk.eraseTree top).get? place = disk.get? place := by
  rw [get?_eraseTree]
  split
  next isTop => rw [isTop, get?_top]
  next => rw [if_neg (by rwa [isUnder_iff_isPrefix])]

theorem get?_eraseTree_of_under (disk : Disk) {top place : Place} (below : top ≠ [])
    (under : top <+: place) : (disk.eraseTree top).get? place = none := by
  have named : place ≠ [] := fun isTop => below (List.prefix_nil.mp (isTop ▸ under))
  rw [get?_eraseTree, if_neg named, if_pos ((isUnder_iff_isPrefix _ _).mpr under)]

/-- Beside a tree that is pruned everything stays, and of the tree what holds something that is
refused. -/
theorem get?_pruneTree_of_kept (disk : Disk) {top place : Place} {refused : List Place}
    (kept : ¬ top <+: place ∨ ∃ each ∈ refused, place <+: each) :
    (disk.pruneTree top refused).get? place = disk.get? place := by
  rw [get?_pruneTree]
  split
  next isTop => rw [isTop, get?_top]
  next =>
    refine if_pos ?_
    rw [Bool.or_eq_true, Bool.not_eq_true', isUnder_eq_false_iff, List.any_eq_true]
    exact kept.imp_right fun ⟨each, member, under⟩ =>
      ⟨each, member, (isUnder_iff_isPrefix _ _).mpr under⟩

theorem get?_pruneTree_of_gone (disk : Disk) {top place : Place} {refused : List Place}
    (below : top ≠ []) (under : top <+: place) (gone : ∀ each ∈ refused, ¬ place <+: each) :
    (disk.pruneTree top refused).get? place = none := by
  have named : place ≠ [] := fun isTop => below (List.prefix_nil.mp (isTop ▸ under))
  rw [get?_pruneTree, if_neg named]
  refine if_neg ?_
  rw [Bool.or_eq_true, Bool.not_eq_true', isUnder_eq_false_iff, List.any_eq_true]
  rintro (beside | ⟨each, member, underEach⟩)
  · exact beside under
  · exact gone each member ((isUnder_iff_isPrefix _ _).mp underEach)

/-- A node in a directory keeps a tree a tree, unless it takes the place of a directory without
being one. -/
theorem IsTree.put {disk : Disk} (isTree : disk.IsTree) {directory : Place} {name : String}
    (parent : disk.HasDirectory directory) {node : Node}
    (fits : node.isDirectory = true ∨ ¬ disk.HasDirectory (directory ++ [name])) :
    (disk.put (directory ++ [name]) node).IsTree := by
  intro place child found
  by_cases same : place ++ [child] = directory ++ [name]
  · obtain ⟨samePlace, -⟩ := List.append_inj' same rfl
    obtain ⟨parentMode, there⟩ := parent
    refine ⟨parentMode, ?_⟩
    rw [samePlace, get?_put_of_ne _ (by simp), there]
  · rw [get?_put_of_ne _ same] at found
    have inDirectory : disk.HasDirectory place := isTree place child found
    by_cases above : place = directory ++ [name]
    · rcases fits with isDirectory | free
      · cases node with
        | file | link => cases isDirectory
        | directory mode =>
          refine ⟨mode, ?_⟩
          rw [above, get?_put_self _ (by simp)]
      · rw [above] at inDirectory
        exact absurd inDirectory free
    · obtain ⟨oldMode, there⟩ := inDirectory
      refine ⟨oldMode, ?_⟩
      rw [get?_put_of_ne _ above, there]

theorem not_hasDirectory_of_free {disk : Disk} {place : Place} (free : disk.get? place = none) :
    ¬ disk.HasDirectory place := by
  intro directory
  exact directory.ne_none free

/-! ### Moving -/

/-- What is found below the place that a tree was moved to lay below its old place. -/
theorem lookup_moved (old new : Place) (entries : List (Place × Node)) (rest : Place) :
    (entries.filterMap (moveEntry old new)).lookup (new ++ rest) =
      entries.lookup (old ++ rest) := by
  induction entries with
  | nil => rfl
  | cons entry others inductionHypothesis =>
    obtain ⟨place, node⟩ := entry
    cases below : Place.below? old place with
    | some names =>
      have shape : place = old ++ names := (below?_eq_some_iff _ _ _).mp below
      have moved : moveEntry old new (place, node) = some (new ++ names, node) := by
        simp [moveEntry, below]
      rw [List.filterMap_cons_some moved, List.lookup_cons, List.lookup_cons, shape]
      by_cases same : rest = names
      · simp [same]
      · have differentNew : (new ++ rest == new ++ names) = false := by simpa using same
        have differentOld : (old ++ rest == old ++ names) = false := by simpa using same
        rw [differentNew, differentOld]
        exact inductionHypothesis
    | none =>
      have differentOld : (old ++ rest == place) = false := by
        rw [beq_eq_false_iff_ne]
        intro same
        rw [← same, below?_append] at below
        cases below
      rw [List.lookup_cons, differentOld]
      cases under : Place.isUnder place new with
      | true =>
        have dropped : moveEntry old new (place, node) = none := by
          simp [moveEntry, below, under]
        rw [List.filterMap_cons_none dropped]
        exact inductionHypothesis
      | false =>
        have kept : moveEntry old new (place, node) = some (place, node) := by
          simp [moveEntry, below, under]
        have differentNew : (new ++ rest == place) = false := by
          rw [beq_eq_false_iff_ne]
          intro same
          rw [isUnder_eq_false_iff] at under
          exact under ⟨rest, same⟩
        rw [List.filterMap_cons_some kept, List.lookup_cons, differentNew]
        exact inductionHypothesis

/-- What is found elsewhere was there before, unless it lay below the old place. -/
theorem lookup_not_moved (old new : Place) (entries : List (Place × Node)) (place : Place)
    (beside : ¬ new <+: place) :
    (entries.filterMap (moveEntry old new)).lookup place =
      if old <+: place then none else entries.lookup place := by
  induction entries with
  | nil => simp
  | cons entry others inductionHypothesis =>
    obtain ⟨other, node⟩ := entry
    cases below : Place.below? old other with
    | some names =>
      have shape : other = old ++ names := (below?_eq_some_iff _ _ _).mp below
      have moved : moveEntry old new (other, node) = some (new ++ names, node) := by
        simp [moveEntry, below]
      have different : (place == new ++ names) = false := by
        rw [beq_eq_false_iff_ne]
        intro same
        exact beside ⟨names, same.symm⟩
      rw [List.filterMap_cons_some moved, List.lookup_cons, different]
      show (others.filterMap (moveEntry old new)).lookup place = _
      rw [inductionHypothesis]
      by_cases under : old <+: place
      · rw [if_pos under, if_pos under]
      · have notOther : (place == other) = false := by
          rw [beq_eq_false_iff_ne]
          intro same
          exact under ⟨names, by rw [same, shape]⟩
        rw [if_neg under, if_neg under, List.lookup_cons, notOther]
    | none =>
      have otherBeside : ¬ old <+: other := by
        rintro ⟨names, same⟩
        rw [← same, below?_append] at below
        cases below
      cases under : Place.isUnder other new with
      | true =>
        have dropped : moveEntry old new (other, node) = none := by
          simp [moveEntry, below, under]
        have different : (place == other) = false := by
          rw [beq_eq_false_iff_ne]
          intro same
          exact beside (same ▸ (isUnder_iff_isPrefix _ _).mp under)
        rw [List.filterMap_cons_none dropped, inductionHypothesis, List.lookup_cons, different]
      | false =>
        have kept : moveEntry old new (other, node) = some (other, node) := by
          simp [moveEntry, below, under]
        rw [List.filterMap_cons_some kept, List.lookup_cons, List.lookup_cons,
          inductionHypothesis]
        by_cases same : place = other
        · rw [same, if_neg otherBeside, if_neg otherBeside]
        · have different : (place == other) = false := beq_eq_false_iff_ne.mpr same
          rw [different]

variable {old new : Place}

/-- Below the new place lies what lay below the old one. -/
theorem get?_moveTree_new (disk : Disk) (oldNamed : old ≠ []) (newNamed : new ≠ [])
    (rest : Place) : (disk.moveTree old new).get? (new ++ rest) = disk.get? (old ++ rest) := by
  rw [get?_of_ne_nil _ (by simp [newNamed]), get?_of_ne_nil _ (by simp [oldNamed])]
  exact lookup_moved old new disk.entries rest

/-- Nothing is left below the old place. -/
theorem get?_moveTree_old (disk : Disk) (oldNamed : old ≠ []) (apart : ¬ new <+: old)
    (notAbove : ¬ old <+: new) (rest : Place) :
    (disk.moveTree old new).get? (old ++ rest) = none := by
  rw [get?_of_ne_nil _ (by simp [oldNamed])]
  have beside : ¬ new <+: old ++ rest := by
    intro under
    rcases List.prefix_or_prefix_of_prefix under (List.prefix_append old rest) with first | second
    · exact apart first
    · exact notAbove second
  show (disk.entries.filterMap (moveEntry old new)).lookup (old ++ rest) = none
  rw [lookup_not_moved old new disk.entries _ beside, if_pos (List.prefix_append old rest)]

theorem get?_moveTree_gone (disk : Disk) (oldNamed : old ≠ []) (apart : ¬ new <+: old)
    (notAbove : ¬ old <+: new) : (disk.moveTree old new).get? old = none := by
  have gone := get?_moveTree_old disk oldNamed apart notAbove []
  rwa [List.append_nil] at gone

theorem tree_moveTree (disk : Disk) (oldNamed : old ≠ []) (newNamed : new ≠ []) :
    (disk.moveTree old new).tree new = disk.tree old := by
  funext rest
  exact get?_moveTree_new disk oldNamed newNamed rest

/-- Every other place is as it was. -/
theorem get?_moveTree_of_not_under (disk : Disk) {place : Place} (notOld : ¬ old <+: place)
    (notNew : ¬ new <+: place) : (disk.moveTree old new).get? place = disk.get? place := by
  by_cases top : place = []
  · rw [top, get?_top, get?_top]
  · rw [get?_of_ne_nil _ top, get?_of_ne_nil _ top]
    show (disk.entries.filterMap (moveEntry old new)).lookup place = _
    rw [lookup_not_moved old new disk.entries _ notNew, if_neg notOld]

end Disk

end Bindery
