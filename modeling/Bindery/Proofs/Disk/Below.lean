/-
This file proves where paths below a directory without links lead.

If neither the path nor one of its names is too long, it leads to what lies at the place that it
names, or to the free name there if nothing does. That a path led somewhere once shows that it is
short enough, and this does not depend on the disk. What a path leads to does not depend on the
order in which the entries of a disk are listed either.
-/

import Bindery.Proofs.Disk.Ground

namespace Bindery

namespace Disk

variable {disk other : Disk} {here top names : Place} {root : Path} {last : Bool}

/-! ### Disks with the same entries -/

theorem walkNames_congr (same : disk.get? = other.get?)
    (follow : Place → List String → Except Errno Spot) (here : Place) (names : List String) :
    disk.walkNames last follow here names = other.walkNames last follow here names := by
  induction names generalizing here with
  | nil => rw [walkNames, walkNames, same]
  | cons name rest inductionHypothesis => simp only [walkNames, same, inductionHypothesis]

/-- Walks over disks with the same entries end alike. -/
theorem walk_congr (same : disk.get? = other.get?) (links : Nat) :
    disk.walk last links = other.walk last links := by
  induction links with
  | zero => exact funext fun here => funext (walkNames_congr same _ here)
  | succ links inductionHypothesis =>
    refine funext fun here => funext fun names => ?_
    rw [walk, walk, inductionHypothesis]
    exact walkNames_congr same _ here names

theorem locate_congr (same : disk.get? = other.get?) (path : Path) :
    disk.locate here last path = other.locate here last path := by
  unfold locate
  rw [walk_congr same]

theorem nodeAt_congr (same : disk.get? = other.get?) (path : Path) :
    disk.nodeAt here last path = other.nodeAt here last path := by
  unfold nodeAt
  rw [locate_congr same]

theorem readFile_congr (same : disk.get? = other.get?) (path : Path) :
    disk.readFile here path = other.readFile here path := by
  unfold readFile
  rw [nodeAt_congr same]

/-! ### Paths that are short enough -/

/-- The system accepts the path of a place below a root by its length. -/
def FitsBelow (root : Path) (names : Place) : Prop :=
  ¬ pathLimit ≤ (root.down names).text.utf8ByteSize ∧ ∀ name ∈ names, isLongName name = false

/-- A path that leads somewhere is short enough. -/
theorem fitsBelow_of_locate (named : ∀ name ∈ names, IsName name) {spot : Spot}
    (located : disk.locate here last (root.down names) = .ok spot) : FitsBelow root names := by
  unfold locate at located
  split at located
  next => cases located
  next short =>
    exact ⟨short, fun name member => (way_of_walk_eq located).isLongName_eq_false
      (List.mem_append_right _ member) (named name member)⟩

theorem fitsBelow_of_writeFile (named : ∀ name ∈ names, IsName name) {bytes : List UInt8}
    (written : disk.writeFile here (root.down names) bytes = .ok other) : FitsBelow root names := by
  unfold writeFile at written
  split at written
  next located => exact fitsBelow_of_locate named located
  next => cases written
  next => cases written
  next located => exact fitsBelow_of_locate named located
  next => cases written

/-! ### Where paths below the root lead -/

/-- Reading what is there is never refused as if nothing were there. -/
theorem Ground.readFile_ne_noEntry {ground : Ground} (stands : ground.Stands disk)
    (some : names ≠ []) (named : ∀ name ∈ names, IsName name)
    (there : disk.tree ground.top names ≠ none) :
    disk.readFile ground.here (ground.root.down names) ≠ .error Errno.noEntry := by
  intro lost
  obtain ⟨node, present⟩ := Option.ne_none_iff_exists'.mp there
  unfold Disk.readFile at lost
  rcases ground.present stands some named present with found | tooLong
  · rw [found] at lost
    cases node with
    | file => cases lost
    | directory | link => exact absurd (Except.error.inj lost) (by decide)
  · rw [tooLong] at lost
    exact absurd (Except.error.inj lost) (by decide)

namespace Rooted

/-- No link is found below the root. -/
theorem not_isLink (rooted : Rooted here root top disk) (some : names ≠ [])
    (named : ∀ name ∈ names, IsName name) :
    (disk.nodeAt here last (root.down names)).toOption.any Node.isLink = false := by
  unfold nodeAt
  cases located : disk.locate here last (root.down names) with
  | error code => rfl
  | ok spot =>
    obtain ⟨shape, holds⟩ := rooted.locate some named located
    cases spot with
    | vacant => rfl
    | found place node =>
      cases node with
      | file | directory => rfl
      | link target =>
        replace shape : place = top ++ names := shape
        exact absurd holds (rooted.linkless place target (shape ▸ List.prefix_append _ _))

/-- What lies below the root is found by its path. -/
theorem locate_present (rooted : Rooted here root top disk) (some : names ≠ [])
    (named : ∀ name ∈ names, IsName name) (fits : FitsBelow root names) {node : Node}
    (there : disk.tree top names = .some node) :
    disk.locate here true (root.down names) = .ok (.found (top ++ names) node) := by
  obtain ⟨name, rest, rfl⟩ := List.exists_cons_of_ne_nil some
  have split : top ++ name :: rest = top ++ [name] ++ rest := List.append_cons top name rest
  have found : disk.nodeAt here true (root.down (name :: rest)) = .ok node := by
    rw [tree, split] at there
    rcases rooted.leads.nodeAt_below rooted.isTree (rooted.linkless_below name)
      (named name List.mem_cons_self) (fun each member => named each
        (List.mem_cons_of_mem _ member)) there with found | ⟨-, long | ⟨each, member, long⟩⟩
    · exact found
    · exact absurd long fits.1
    · rw [fits.2 each member] at long
      cases long
  unfold nodeAt at found
  split at found
  next place other located =>
    cases found
    obtain ⟨shape, -⟩ := rooted.locate some named located
    rw [located]
    exact congrArg (fun place => Except.ok (Spot.found place node)) shape
  all_goals cases found

/-- A path leads to a directory below the root. -/
theorem leads_down (rooted : Rooted here root top disk) (named : ∀ name ∈ names, IsName name)
    (short : ∀ name ∈ names, isLongName name = false)
    (there : disk.HasDirectory (top ++ names)) :
    disk.Leads here (root.down names) (top ++ names) := by
  induction names using List.reverseRecOn with
  | nil =>
    rw [List.append_nil]
    have same : root.down [] = root := by rw [Path.down, List.append_nil]
    rw [same]
    exact rooted.leads
  | append_singleton front name inductionHypothesis =>
    rw [← List.append_assoc] at there ⊢
    have above : disk.HasDirectory (top ++ front) := by
      have parent := rooted.isTree.hasDirectory_dropLast there.ne_none
      rwa [List.dropLast_concat] at parent
    rw [← Path.down_down]
    exact (inductionHypothesis (fun each member => named each (List.mem_append_left _ member))
      (fun each member => short each (List.mem_append_left _ member)) above).down
        (named name (by simp)) (short name (by simp)) there

/-- A name that is free is found to be free. -/
theorem locate_absent (rooted : Rooted here root top disk) {front : Place} {name : String}
    (named : ∀ each ∈ front ++ [name], IsName each) (fits : FitsBelow root (front ++ [name]))
    (inside : disk.HasDirectory (top ++ front)) (absent : disk.tree top (front ++ [name]) = none) :
    disk.locate here true (root.down (front ++ [name])) = .ok (.vacant (top ++ front) name) := by
  have leads := rooted.leads_down
    (fun each member => named each (List.mem_append_left _ member))
    (fun each member => fits.2 each (List.mem_append_left _ member)) inside
  have lastFits : Fits ((root.down front).down [name]) name := by
    rw [Path.down_down]
    exact ⟨fits.1, fits.2 name (by simp)⟩
  rw [tree, ← List.append_assoc] at absent
  rw [← Path.down_down]
  exact leads.locate_vacant (named name (by simp)) lastFits absent true

/-- A path that is found to lead nowhere, in a directory that is there, is short enough. -/
theorem fitsBelow_of_absent (rooted : Rooted here root top disk) {front : Place} {name : String}
    (named : ∀ each ∈ front ++ [name], IsName each)
    (short : ∀ each ∈ front, isLongName each = false)
    (inside : disk.HasDirectory (top ++ front))
    (notLong : disk.nodeAt here true (root.down (front ++ [name])) ≠ .error Errno.nameTooLong) :
    FitsBelow root (front ++ [name]) := by
  have shortPath : ¬ pathLimit ≤ (root.down (front ++ [name])).text.utf8ByteSize := by
    intro long
    refine notLong ?_
    unfold Disk.nodeAt Disk.locate
    rw [if_pos long]
  refine ⟨shortPath, fun each member => ?_⟩
  rcases List.mem_append.mp member with before | final
  · exact short each before
  · rw [List.mem_singleton.mp final]
    refine Bool.eq_false_iff.mpr fun long => notLong ?_
    obtain ⟨mode, walked⟩ := rooted.leads_down
      (fun each member => named each (List.mem_append_left _ member)) short inside
    obtain ⟨left, onward⟩ := (way_of_walk_eq walked).walk_append
    have refused : disk.locate here true (root.down (front ++ [name])) =
        .error Errno.nameTooLong := by
      unfold Disk.locate
      rw [if_neg shortPath, ← Path.down_down]
      refine (onward true [name] (List.cons_ne_nil _ _)).trans ?_
      rw [walk_name (named name (by simp)), if_pos long]
    unfold Disk.nodeAt
    rw [refused]

/-- Writing to a directory that is there is never refused as if nothing were there. -/
theorem writeFile_ne_noEntry (rooted : Rooted here root top disk) {front : Place} {name : String}
    (named : ∀ each ∈ front ++ [name], IsName each)
    (short : ∀ each ∈ front, isLongName each = false) (inside : disk.HasDirectory (top ++ front))
    (bytes : List UInt8) :
    disk.writeFile here (root.down (front ++ [name])) bytes ≠ .error Errno.noEntry := by
  intro refused
  have located : disk.locate here true (root.down (front ++ [name])) = .error Errno.noEntry := by
    unfold Disk.writeFile at refused
    split at refused
    next => cases refused
    next => exact absurd (Except.error.inj refused) (by decide)
    next => exact absurd (Except.error.inj refused) (by decide)
    next => cases refused
    next located => rw [located, Except.error.inj refused]
  have nowhere : disk.nodeAt here true (root.down (front ++ [name])) = .error Errno.noEntry := by
    unfold Disk.nodeAt
    rw [located]
  cases there : disk.tree top (front ++ [name]) with
  | some node =>
    have some : front ++ [name] ≠ [] := List.append_ne_nil_of_right_ne_nil _ (List.cons_ne_nil _ _)
    rcases rooted.present some named there with found | tooLong
    · rw [found] at nowhere
      cases nowhere
    · rw [tooLong] at nowhere
      exact absurd (Except.error.inj nowhere) (by decide)
  | none =>
    have fits := rooted.fitsBelow_of_absent named short inside fun tooLong => by
      rw [tooLong] at nowhere
      exact absurd (Except.error.inj nowhere) (by decide)
    rw [rooted.locate_absent named fits inside there] at located
    cases located

/-- Writing by a path below the root changes nothing outside of it. -/
theorem sameOutside_writeFile (rooted : Rooted here root top disk) (some : names ≠ [])
    (named : ∀ name ∈ names, IsName name) {bytes : List UInt8}
    (written : disk.writeFile here (root.down names) bytes = .ok other) :
    SameOutside [top] disk other := by
  have put : ∃ mode, other = disk.put (top ++ names) (.file bytes mode) := by
    unfold Disk.writeFile at written
    split at written
    next place old mode located =>
      cases written
      obtain ⟨rfl, -⟩ := rooted.locate some named located
      exact ⟨mode, rfl⟩
    next => cases written
    next => cases written
    next directory name located =>
      cases written
      obtain ⟨shape, -⟩ := rooted.locate some named located
      exact ⟨fileMode, shape ▸ rfl⟩
    next => cases written
  obtain ⟨mode, rfl⟩ := put
  intro place outside
  refine get?_put_of_ne _ ?_ _
  rintro rfl
  exact outside top List.mem_cons_self (List.prefix_append _ _)

end Rooted

end Disk

end Bindery
