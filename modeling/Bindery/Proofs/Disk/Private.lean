/-
This file describes what happens in a directory that a process made for itself.

The directory was made at a free name, so no path outside it leads through it. As long as nothing
outside changes and no link comes to lie inside, paths below the directory lead to the places that
they name, and what is written through them lies inside.
-/

import Bindery.Proofs.Disk.Built

namespace Bindery

/-- The permission bits of a file that is written: those of the file that is there, if any. -/
def writtenMode : Option Node → Mode
  | some (.file _ mode) => mode
  | _ => Disk.fileMode

/-- The tree with bytes in a file. -/
def Tree.write (tree : Tree) (place : Place) (bytes : List UInt8) : Tree := fun each =>
  if each = place then some (.file bytes (writtenMode (tree place))) else tree each

namespace Disk

/-- A disk on which a directory was made at a free name: outside it nothing has changed since. -/
structure Fenced (base : Disk) (here : Place) (parent : Path) (directory : Place) (name : String)
    (disk : Disk) : Prop where
  leads : base.Leads here parent directory
  free : base.get? (directory ++ [name]) = none
  isTree : disk.IsTree
  baseTree : base.IsTree
  outside : ∀ place, ¬ directory ++ [name] <+: place → disk.get? place = base.get? place

/-- No link lies at a place or below it. -/
def Linkless (disk : Disk) (top : Place) : Prop :=
  ∀ place target, top <+: place → disk.get? place ≠ some (.link target)

/-- Besides, no links lie inside the directory. -/
structure Private (base : Disk) (here : Place) (parent : Path) (directory : Place) (name : String)
    (disk : Disk) : Prop extends Fenced base here parent directory name disk where
  linkless : disk.Linkless (directory ++ [name])

/-- There is a directory with nothing in it at a place. -/
def HasEmptyDirectory (disk : Disk) (place : Place) (mode : Mode) : Prop :=
  disk.get? place = some (.directory mode) ∧ ∀ rest, rest ≠ [] → disk.get? (place ++ rest) = none

/-- A directory put where nothing lies below is empty. -/
theorem hasEmptyDirectory_put {disk : Disk} {place : Place} (named : place ≠ [])
    (bare : ∀ rest, rest ≠ [] → disk.get? (place ++ rest) = none) (mode : Mode) :
    (disk.put place (.directory mode)).HasEmptyDirectory place mode := by
  refine ⟨get?_put_self disk named _, fun rest some => ?_⟩
  rw [get?_put_of_ne _ (by simpa using some), bare rest some]

section

variable {base disk : Disk} {here directory : Place} {parent : Path} {name : String}
  {rest : List String}

namespace Fenced

/-- The directory of the base lies outside. -/
theorem keeps (inside : base.Fenced here parent directory name disk) : base.Keeps disk := by
  intro place node found
  rw [inside.outside place, found]
  rintro ⟨rest, rfl⟩
  rw [inside.baseTree.get?_under inside.free rest] at found
  cases found

theorem leadsNow (inside : base.Fenced here parent directory name disk)
    (absolute : parent.isAbsolute = true) : disk.Leads here parent directory :=
  inside.leads.keep absolute fun place node found _ => inside.keeps place node found

/-- An entry comes to lie inside. -/
theorem put (inside : base.Fenced here parent directory name disk) {place : Place}
    (below : directory ++ [name] <+: place) (there : disk.HasDirectory place.dropLast)
    {node : Node} (fits : node.isDirectory = true ∨ ¬ disk.HasDirectory place) :
    base.Fenced here parent directory name (disk.put place node) := by
  have some : place ≠ [] := by
    rintro rfl
    exact absurd (List.prefix_nil.mp below) (by simp)
  refine ⟨inside.leads, inside.free, ?_, inside.baseTree, ?_⟩
  · have shape : place.dropLast ++ [place.getLast some] = place := List.dropLast_concat_getLast some
    rw [← shape] at fits ⊢
    exact inside.isTree.put there fits
  · intro each beside
    have different : each ≠ place := by
      rintro rfl
      exact beside below
    rw [get?_put_of_ne _ different, inside.outside each beside]

/-- The directory that was made. -/
theorem fresh (absolute : parent.isAbsolute = true) (isTree : base.IsTree)
    (leads : base.Leads here parent directory) (free : base.get? (directory ++ [name]) = none)
    (mode : Mode) :
    base.Fenced here parent directory name (base.put (directory ++ [name]) (.directory mode)) := by
  have start : base.HasDirectory (startOf here parent) := by
    rw [startOf_of_isAbsolute absolute]
    exact base.hasDirectory_top
  refine ⟨leads, free, isTree.put (leads.hasDirectory isTree start) (.inl rfl), isTree, ?_⟩
  intro place beside
  have different : place ≠ directory ++ [name] := by
    rintro rfl
    exact beside List.prefix_rfl
  rw [get?_put_of_ne _ different]

/-- The permission bits of the directory can be changed; it stays empty. -/
theorem changeMode (inside : base.Fenced here parent directory name disk)
    (absolute : parent.isAbsolute = true) (named : IsName name)
    (fits : Fits (parent.down [name]) name) {oldMode : Mode}
    (empty : disk.HasEmptyDirectory (directory ++ [name]) oldMode) (mode : Mode) :
    ∃ after, disk.changeMode here (parent.down [name]) mode = .ok after ∧
      base.Fenced here parent directory name after ∧
        after.HasEmptyDirectory (directory ++ [name]) mode := by
  obtain ⟨isDirectory, bare⟩ := empty
  have there : disk.HasDirectory (directory ++ [name]) := ⟨_, isDirectory⟩
  have parentThere := inside.isTree.hasDirectory_dropLast there.ne_none
  obtain ⟨old, located⟩ :=
    ((inside.leadsNow absolute).down named fits.2 there).locate_found fits.1
  refine ⟨disk.put (directory ++ [name]) (.directory mode), ?_,
    inside.put List.prefix_rfl parentThere (.inl rfl), hasEmptyDirectory_put (by simp) bare mode⟩
  unfold Disk.changeMode
  rw [located]

end Fenced

namespace Private

/-- A path below the directory leads to the place that it names. -/
theorem locate (inside : base.Private here parent directory name disk)
    (absolute : parent.isAbsolute = true) (named : IsName name)
    (namedRest : ∀ each ∈ rest, IsName each) {last : Bool} {spot : Spot}
    (located : disk.locate here last (parent.down (name :: rest)) = .ok spot) :
    spot.place = directory ++ [name] ++ rest ∧ disk.Holds spot := by
  have start : disk.HasDirectory (startOf here parent) := by
    rw [startOf_of_isAbsolute absolute]
    exact disk.hasDirectory_top
  exact (inside.leadsNow absolute).locate_below inside.isTree start inside.linkless named namedRest
    located

/-- A file comes to lie inside. -/
theorem put (inside : base.Private here parent directory name disk) {place : Place}
    (below : directory ++ [name] <+: place) (there : disk.HasDirectory place.dropLast)
    (free : ¬ disk.HasDirectory place) (bytes : List UInt8) (mode : Mode) :
    base.Private here parent directory name (disk.put place (.file bytes mode)) := by
  have some : place ≠ [] := by
    rintro rfl
    exact absurd (List.prefix_nil.mp below) (by simp)
  refine ⟨inside.toFenced.put below there (.inr free), fun each target under found => ?_⟩
  by_cases same : each = place
  · rw [same, get?_put_self _ some] at found
    cases found
  · rw [get?_put_of_ne _ same] at found
    exact inside.linkless each target under found

/-- What lies inside is found, unless a name is too long. -/
theorem nodeAt_present (inside : base.Private here parent directory name disk)
    (absolute : parent.isAbsolute = true) (named : IsName name)
    (namedRest : ∀ each ∈ rest, IsName each) {node : Node}
    (there : disk.tree (directory ++ [name]) rest = some node) :
    disk.nodeAt here true (parent.down (name :: rest)) = .ok node ∨
      disk.nodeAt here true (parent.down (name :: rest)) = .error Errno.nameTooLong := by
  exact ((inside.leadsNow absolute).nodeAt_below inside.isTree inside.linkless named namedRest
    there).imp_right And.left

end Private

end

end Disk

end Bindery
