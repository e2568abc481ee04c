/-
This file describes what writing to files does to a disk, wherever the paths lead.

Links may take a path below a root anywhere. But what is written is a file, where there was a file
or nothing, so that paths lead to the same directories as before; and nothing is written by paths
below a root that leads to no directory.
-/

import Bindery.Proofs.Disk.Built

namespace Bindery.Disk

variable {disk other third : Disk} {here directory place : Place} {path root : Path}

/-! ### Disks that differ by files -/

/-- What lies at each place is the same, or it is a file that was written there. -/
def FilesWritten (disk other : Disk) : Prop :=
  ∀ place, other.get? place = disk.get? place ∨
    (∀ node, disk.get? place = some node → node.isFile = true) ∧
      ∃ bytes mode, other.get? place = some (.file bytes mode)

theorem FilesWritten.refl (disk : Disk) : FilesWritten disk disk := fun _ => .inl rfl

theorem FilesWritten.trans (first : FilesWritten disk other) (second : FilesWritten other third) :
    FilesWritten disk third := by
  intro place
  rcases second place with same | ⟨overFile, written⟩
  · rw [same]
    exact first place
  · rcases first place with sameFirst | ⟨overFirst, -⟩
    · rw [sameFirst] at overFile
      exact .inr ⟨overFile, written⟩
    · exact .inr ⟨overFirst, written⟩

/-- Directories and links stay. -/
theorem FilesWritten.keeps (written : FilesWritten disk other) {node : Node}
    (found : disk.get? place = some node) (notFile : node.isFile = false) :
    other.get? place = some node := by
  rcases written place with same | ⟨overFile, -⟩
  · exact same.trans found
  · rw [overFile node found] at notFile
    cases notFile

/-- There are no other directories. -/
theorem FilesWritten.get?_directory (written : FilesWritten disk other)
    (there : other.HasDirectory place) : other.get? place = disk.get? place := by
  obtain ⟨mode, found⟩ := there
  rcases written place with same | ⟨-, bytes, fileMode, isFile⟩
  · exact same
  · rw [isFile] at found
    cases found

theorem FilesWritten.leads (written : FilesWritten disk other) (absolute : path.isAbsolute = true)
    (leads : disk.Leads here path directory) : other.Leads here path directory :=
  leads.keep absolute fun _ _ found notFile => written.keeps found notFile

theorem FilesWritten.eraseTree (written : FilesWritten disk other) (top : Place) :
    FilesWritten (disk.eraseTree top) (other.eraseTree top) := by
  intro place
  rw [get?_eraseTree, get?_eraseTree]
  split
  next => exact .inl rfl
  next =>
    split
    next => exact .inl rfl
    next => exact written place

theorem filesWritten_put (named : place ≠ [])
    (overFile : ∀ node, disk.get? place = some node → node.isFile = true) (bytes : List UInt8)
    (mode : Mode) : FilesWritten disk (disk.put place (.file bytes mode)) := by
  intro each
  by_cases same : each = place
  · rw [same]
    exact .inr ⟨overFile, bytes, mode, get?_put_self disk named _⟩
  · exact .inl (get?_put_of_ne disk same _)

/-! ### Writing by paths below a root -/

/-- Files were written by paths below a root, if it leads to a directory. -/
structure WrittenBelow (here : Place) (root : Path) (disk other : Disk) : Prop where
  isTree : other.IsTree
  written : FilesWritten disk other
  reached : (∃ directory, disk.Leads here root directory) ∨ other = disk

theorem WrittenBelow.refl (isTree : disk.IsTree) : WrittenBelow here root disk disk :=
  ⟨isTree, .refl disk, .inr rfl⟩

theorem WrittenBelow.trans (first : WrittenBelow here root disk other)
    (second : WrittenBelow here root other third) : WrittenBelow here root disk third := by
  refine ⟨second.isTree, first.written.trans second.written, ?_⟩
  rcases first.reached with leads | rfl
  · exact .inl leads
  · exact second.reached

/-- Writing by a path below a root. -/
theorem writtenBelow_writeFile (isTree : disk.IsTree) (absolute : root.isAbsolute = true)
    {names : List String} (some : names ≠ []) {bytes : List UInt8}
    (written : disk.writeFile here (root.down names) bytes = .ok other) :
    WrittenBelow here root disk other := by
  have start : disk.HasDirectory (startOf here root) := by
    rw [startOf_of_isAbsolute absolute]
    exact disk.hasDirectory_top
  unfold writeFile at written
  split at written
  next place old mode located =>
    cases written
    obtain ⟨directory, left, leads, way⟩ := locate_down isTree start some located
    have found : disk.get? place = .some (.file old mode) :=
      way.holds isTree (leads.hasDirectory isTree start)
    have named : place ≠ [] := by
      rintro rfl
      rw [get?_top] at found
      cases found
    refine ⟨?_, filesWritten_put named (fun node same => ?_) _ _, .inl ⟨directory, leads⟩⟩
    · have parent := isTree.hasDirectory_dropLast (found ▸ Option.some_ne_none _)
      have shape := List.dropLast_concat_getLast named
      rw [← shape] at found ⊢
      refine isTree.put parent (.inr ?_)
      rintro ⟨otherMode, isDirectory⟩
      rw [found] at isDirectory
      cases isDirectory
    · cases found.symm.trans same
      rfl
  next => cases written
  next => cases written
  next found child located =>
    cases written
    obtain ⟨directory, left, leads, way⟩ := locate_down isTree start some located
    obtain ⟨parent, -, free⟩ : disk.Holds (.vacant found child) :=
      way.holds isTree (leads.hasDirectory isTree start)
    refine ⟨isTree.put parent (.inr (not_hasDirectory_of_free free)),
      filesWritten_put (by simp) (fun node same => ?_) _ _, .inl ⟨directory, leads⟩⟩
    rw [free] at same
    cases same
  next => cases written

end Bindery.Disk
