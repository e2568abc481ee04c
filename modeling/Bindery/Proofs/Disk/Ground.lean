/-
This file describes disks on which paths below a root lead where they say.

On such a disk no link lies below the root, so that a path below it leads to the place that its
names name. Files that are written below the root leave it so. What is read and written by paths
below the root is then what lies at these places, wherever the root is and whatever lies elsewhere.
There are two cases: a directory that a process made for itself, and any directory without links.
-/

import Bindery.Proofs.Disk.Changes
import Bindery.Proofs.Disk.Private

namespace Bindery

namespace Disk

/-- A root, the place that its path leads to, and the disks on which paths below it lead to the
places that they name. -/
structure Ground where
  here : Place
  root : Path
  top : Place
  Stands : Disk → Prop
  isTree : ∀ {disk : Disk}, Stands disk → disk.IsTree
  locate : ∀ {disk : Disk} {names : Place} {last : Bool} {spot : Spot}, Stands disk → names ≠ [] →
    (∀ name ∈ names, IsName name) → disk.locate here last (root.down names) = .ok spot →
      spot.place = top ++ names ∧ disk.Holds spot
  present : ∀ {disk : Disk} {names : Place} {node : Node}, Stands disk → names ≠ [] →
    (∀ name ∈ names, IsName name) → disk.tree top names = some node →
      disk.nodeAt here true (root.down names) = .ok node ∨
        disk.nodeAt here true (root.down names) = .error Errno.nameTooLong
  put : ∀ {disk : Disk} {names : Place}, Stands disk → names ≠ [] →
    disk.HasDirectory (top ++ names).dropLast → ¬ disk.HasDirectory (top ++ names) →
      ∀ bytes mode, Stands (disk.put (top ++ names) (.file bytes mode))

namespace Ground

variable {ground : Ground} {disk after : Disk} {names : Place}

/-- Putting a file at a place below the top writes it to the tree. -/
theorem tree_put_file {top : Place} (some : names ≠ []) {bytes : List UInt8} :
    (disk.put (top ++ names) (.file bytes (writtenMode (disk.get? (top ++ names))))).tree top =
      Tree.write (disk.tree top) names bytes := by
  funext each
  unfold tree Tree.write
  by_cases same : each = names
  · rw [same, if_pos rfl, get?_put_self _ (by simp [some])]
  · rw [if_neg same, get?_put_of_ne _ (by simpa using same)]

/-- Writing to a path below the root writes the file of that name in the tree. -/
theorem writeFile (stands : ground.Stands disk) (some : names ≠ [])
    (named : ∀ name ∈ names, IsName name) {bytes : List UInt8}
    (written : disk.writeFile ground.here (ground.root.down names) bytes = .ok after) :
    ground.Stands after ∧
      after.tree ground.top = Tree.write (disk.tree ground.top) names bytes := by
  unfold Disk.writeFile at written
  split at written
  next place old mode located =>
    cases written
    obtain ⟨shape, held⟩ := ground.locate stands some named located
    replace shape : place = ground.top ++ names := shape
    subst shape
    have there : disk.get? (ground.top ++ names) = .some (.file old mode) := held
    have modeKept : mode = writtenMode (disk.get? (ground.top ++ names)) := by
      rw [there]
      rfl
    refine ⟨ground.put stands some ?_ ?_ _ _, ?_⟩
    · refine (ground.isTree stands).hasDirectory_dropLast ?_
      rw [there]
      exact Option.some_ne_none _
    · rintro ⟨other, isDirectory⟩
      rw [there] at isDirectory
      cases isDirectory
    · rw [modeKept]
      exact tree_put_file some
  next => cases written
  next => cases written
  next found child located =>
    cases written
    obtain ⟨shape, isDirectory, -, free⟩ := ground.locate stands some named located
    replace shape : found ++ [child] = ground.top ++ names := shape
    have modeNew : fileMode = writtenMode (disk.get? (ground.top ++ names)) := by
      rw [← shape, free]
      rfl
    rw [shape] at free ⊢
    refine ⟨ground.put stands some ?_ (not_hasDirectory_of_free free) _ _, ?_⟩
    · rwa [← shape, List.dropLast_concat]
    · rw [modeNew]
      exact tree_put_file some
  next => cases written

/-- What a path below the root leads to lies at the place that the path names. -/
theorem nodeAt (stands : ground.Stands disk) (some : names ≠ [])
    (named : ∀ name ∈ names, IsName name) {node : Node}
    (there : disk.nodeAt ground.here true (ground.root.down names) = .ok node) :
    disk.tree ground.top names = .some node := by
  unfold Disk.nodeAt at there
  split at there
  next place found located =>
    cases there
    obtain ⟨shape, held⟩ := ground.locate stands some named located
    replace shape : place = ground.top ++ names := shape
    subst shape
    exact held
  all_goals cases there

/-- What is read by a path below the root is the file of that name in the tree. -/
theorem readFile (stands : ground.Stands disk) (some : names ≠ [])
    (named : ∀ name ∈ names, IsName name) {bytes : List UInt8}
    (read : disk.readFile ground.here (ground.root.down names) = .ok bytes) :
    ∃ mode, disk.tree ground.top names = .some (.file bytes mode) := by
  unfold Disk.readFile at read
  split at read
  next found mode there =>
    cases read
    exact ⟨mode, nodeAt stands some named there⟩
  all_goals cases read

end Ground

/-! ### A private directory -/

/-- A directory that was made at a free name, seen from the disk on which it was made. -/
def Private.ground (base : Disk) (here : Place) (parent : Path) (directory : Place) (name : String)
    (absolute : parent.isAbsolute = true) (named : IsName name) : Ground where
  here := here
  root := parent.down [name]
  top := directory ++ [name]
  Stands := base.Private here parent directory name
  isTree inside := inside.isTree
  locate inside _ namedRest located := by
    rw [Path.down_down] at located
    exact inside.locate absolute named namedRest located
  present inside _ namedRest there := by
    rw [Path.down_down]
    exact inside.nodeAt_present absolute named namedRest there
  put inside _ there free := inside.put (List.prefix_append _ _) there free

/-! ### A directory without links -/

/-- A path leads to a directory without links below it. -/
structure Rooted (here : Place) (root : Path) (top : Place) (disk : Disk) : Prop where
  isTree : disk.IsTree
  start : disk.HasDirectory (startOf here root)
  leads : disk.Leads here root top
  linkless : ∀ place target, top <+: place → disk.get? place ≠ some (.link target)

/-- No link is found if none is written down. -/
theorem linkless_of_entries {disk : Disk}
    (linkless : ∀ entry ∈ disk.entries, entry.2.isLink = false) (place : Place) (target : String) :
    disk.get? place ≠ some (.link target) := by
  intro found
  have notLink := linkless (place, .link target) (mem_entries_of_link found)
  cases notLink

namespace Rooted

variable {here top names : Place} {root : Path} {disk : Disk}

theorem linkless_below (rooted : Rooted here root top disk) (name : String) :
    ∀ place target, top ++ [name] <+: place → disk.get? place ≠ some (.link target) :=
  fun place target below => rooted.linkless place target ((List.prefix_append _ _).trans below)

theorem locate (rooted : Rooted here root top disk) (some : names ≠ [])
    (named : ∀ name ∈ names, IsName name) {last : Bool} {spot : Spot}
    (located : disk.locate here last (root.down names) = .ok spot) :
    spot.place = top ++ names ∧ disk.Holds spot := by
  obtain ⟨name, rest, rfl⟩ := List.exists_cons_of_ne_nil some
  rw [List.append_cons]
  exact rooted.leads.locate_below rooted.isTree rooted.start (rooted.linkless_below name)
    (named name List.mem_cons_self) (fun each member => named each (List.mem_cons_of_mem _ member))
    located

theorem present (rooted : Rooted here root top disk) (some : names ≠ [])
    (named : ∀ name ∈ names, IsName name) {node : Node}
    (there : disk.tree top names = .some node) :
    disk.nodeAt here true (root.down names) = .ok node ∨
      disk.nodeAt here true (root.down names) = .error Errno.nameTooLong := by
  obtain ⟨name, rest, rfl⟩ := List.exists_cons_of_ne_nil some
  rw [tree, List.append_cons] at there
  exact (rooted.leads.nodeAt_below rooted.isTree (rooted.linkless_below name)
    (named name List.mem_cons_self) (fun each member => named each (List.mem_cons_of_mem _ member))
    there).imp_right And.left

/-- A file that is put below the top is on no way, since ways go through directories and links. -/
theorem put (rooted : Rooted here root top disk) (some : names ≠ [])
    (there : disk.HasDirectory (top ++ names).dropLast)
    (free : ¬ disk.HasDirectory (top ++ names)) (bytes : List UInt8) (mode : Mode) :
    Rooted here root top (disk.put (top ++ names) (.file bytes mode)) := by
  have notTop : top ++ names ≠ [] := by simp [some]
  have keeps : ∀ each entry, disk.get? each = .some entry → entry.isFile = false →
      (disk.put (top ++ names) (.file bytes mode)).get? each = .some entry := by
    intro each entry found notFile
    refine (get?_put_of_ne _ ?_ _).trans found
    rintro rfl
    cases entry with
    | file => cases notFile
    | directory otherMode => exact free ⟨otherMode, found⟩
    | link target => exact rooted.linkless _ target (List.prefix_append _ _) found
  have keepsDirectory : ∀ each, disk.HasDirectory each →
      (disk.put (top ++ names) (.file bytes mode)).get? each = disk.get? each := by
    rintro each ⟨otherMode, found⟩
    rw [found]
    exact keeps each _ found rfl
  obtain ⟨topMode, walked⟩ := rooted.leads
  refine ⟨?_, ?_, ⟨topMode, ?_⟩, ?_⟩
  · have shape := List.dropLast_concat_getLast notTop
    rw [← shape] at free ⊢
    exact rooted.isTree.put there (.inr free)
  · exact rooted.start.of_eq (keepsDirectory _ rooted.start)
  · refine ((way_of_walk_eq walked).carry (fun each entry found counts => ?_)
      (fun above prefixed => ⟨rfl, keepsDirectory above ?_⟩) walked).2
    · refine .inr ⟨found, keeps each entry found ?_⟩
      rcases counts with notFile | ⟨-, same⟩
      · exact notFile
      · rw [same]
        rfl
    · obtain ⟨rest, shape⟩ := prefixed
      by_cases atStart : rest = []
      · rw [atStart, List.append_nil] at shape
        rw [shape]
        exact rooted.start
      · refine rooted.isTree.hasDirectory_above rest atStart ?_
        rw [shape]
        exact rooted.start.ne_none
  · intro each target below found
    by_cases same : each = top ++ names
    · rw [same, get?_put_self _ notTop] at found
      cases found
    · rw [get?_put_of_ne _ same] at found
      exact rooted.linkless each target below found

end Rooted

/-- A directory without links, by a path that leads to it. -/
def Rooted.ground (here : Place) (root : Path) (top : Place) : Ground where
  here := here
  root := root
  top := top
  Stands := Rooted here root top
  isTree rooted := rooted.isTree
  locate rooted some named located := rooted.locate some named located
  present rooted some named there := rooted.present some named there
  put rooted := rooted.put

end Disk

end Bindery
