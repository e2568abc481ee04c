/-
This file describes what the operations on a disk do to the entries of one directory.

A path leads to a directory; names below that path are names of what lies in the directory. An
operation on such a name succeeds only if the path leads to a directory, and then it changes
nothing but the entry of that name there, with everything below it.
-/

import Bindery.Disk.Operations
import Bindery.Proofs.Disk.Way

namespace Bindery

/-- The path that names lead to from another one. -/
def Path.down (base : Path) (names : List String) : Path := ⟨base.anchor, base.parts ++ names⟩

theorem Path.down_down (path : Path) (names more : List String) :
    (path.down names).down more = path.down (names ++ more) := by
  simp [Path.down]

theorem Path.down_parent (path : Path) (named : path.parts ≠ []) :
    path.parent.down [path.name] = path := by
  have whole : path.parts.dropLast ++ [path.parts.getLastD ""] = path.parts := by
    rw [List.getLastD_eq_getLast?, List.getLast?_eq_some_getLast named]
    exact List.dropLast_concat_getLast named
  show (⟨path.anchor, path.parts.dropLast ++ [path.parts.getLastD ""]⟩ : Path) = path
  rw [whole]

theorem Path.parent_down (path : Path) {names : List String} (some : names ≠ []) :
    (path.down names).parent = path.down names.dropLast := by
  show (⟨path.anchor, (path.parts ++ names).dropLast⟩ : Path) = ⟨path.anchor, _⟩
  rw [List.dropLast_append_of_ne_nil some]

/-- A path that ends with a name and not with two points. -/
def Path.IsNamed (path : Path) : Prop := path.parts ≠ [] ∧ path.name ≠ ".."

namespace Disk

variable {disk : Disk} {here directory : Place} {parent : Path} {name : String}

/-- A path leads to a directory. -/
def Leads (disk : Disk) (here : Place) (path : Path) (directory : Place) : Prop :=
  ∃ mode, disk.walk true linkLimit (startOf here path) path.parts =
    .ok (.found directory (.directory mode))

theorem Leads.unique {other : Place} (first : disk.Leads here parent directory)
    (second : disk.Leads here parent other) : other = directory := by
  obtain ⟨mode, walked⟩ := first
  obtain ⟨otherMode, again⟩ := second
  rw [walked] at again
  cases again
  rfl

theorem Leads.hasDirectory (leads : disk.Leads here parent directory) (isTree : disk.IsTree)
    (start : disk.HasDirectory (startOf here parent)) : disk.HasDirectory directory := by
  obtain ⟨mode, walked⟩ := leads
  exact ⟨mode, (way_of_walk_eq walked).holds isTree start⟩

theorem leads_of_locate {path : Path} {mode : Mode}
    (located : disk.locate here true path = .ok (.found directory (.directory mode))) :
    disk.Leads here path directory := by
  unfold locate at located
  split at located
  next => cases located
  next => exact ⟨mode, located⟩

/-- Whether the system accepts a path with a last name by its length. -/
def Fits (path : Path) (name : String) : Prop :=
  ¬ pathLimit ≤ path.text.utf8ByteSize ∧ isLongName name = false

/-! ### What lies where a path leads -/

theorem nodeAt_astray {last : Bool} {path : Path} {code : Errno}
    (refused : disk.nodeAt here last path = .error code) : Astray code := by
  unfold nodeAt locate at refused
  split at refused
  next => cases refused
  next => exact .inl (Except.error.inj refused).symm
  next other located =>
    cases refused
    split at located
    next => exact .inr (.inr (.inr (Except.error.inj located).symm))
    next => exact walk_astray located

/-- What a file is read by. -/
theorem locate_of_readFile {path : Path} {bytes : List UInt8}
    (read : disk.readFile here path = .ok bytes) :
    ∃ place mode, disk.locate here true path = .ok (.found place (.file bytes mode)) := by
  unfold Disk.readFile Disk.nodeAt at read
  split at read
  next found mode there =>
    cases read
    split at there
    next place node located =>
      cases there
      exact ⟨place, mode, located⟩
    all_goals cases there
  all_goals cases read

theorem readFile_of_locate {path : Path} {bytes : List UInt8} {place : Place} {mode : Mode}
    (located : disk.locate here true path = .ok (.found place (.file bytes mode))) :
    disk.readFile here path = .ok bytes := by
  unfold Disk.readFile Disk.nodeAt
  rw [located]

/-- What is read by a path is what a file holds. -/
theorem get?_of_readFile {path : Path} {bytes : List UInt8}
    (read : disk.readFile here path = .ok bytes) :
    ∃ place mode, disk.get? place = some (.file bytes mode) := by
  obtain ⟨place, mode, located⟩ := locate_of_readFile read
  unfold locate at located
  split at located
  next => cases located
  next => exact ⟨place, mode, (way_of_walk_eq located).get?_file⟩

/-! ### The last name of a path -/

theorem locateLast_down (named : IsName name) {found : Place} {final : Option String}
    (located : disk.locateLast here (parent.down [name]) = .ok (found, final)) :
    disk.Leads here parent found ∧ final = some name ∧
      ¬ pathLimit ≤ (parent.down [name]).text.utf8ByteSize := by
  unfold locateLast at located
  split at located
  next => cases located
  next fits =>
    have front : (parent.down [name]).parts.dropLast = parent.parts := List.dropLast_concat
    have final : (parent.down [name]).parts.getLast? = some name := List.getLast?_concat
    rw [front, final] at located
    split at located
    next place mode walked =>
      cases located
      refine ⟨⟨mode, walked⟩, ?_, fits⟩
      rw [Option.filter_some, if_pos (by simpa using named.2.2)]
    all_goals cases located

/-- Only a path that ends with a name has a last name. -/
theorem locateLast_named {path : Path} {found : Place}
    (located : disk.locateLast here path = .ok (found, some name)) : path.IsNamed := by
  unfold locateLast at located
  split at located
  next => cases located
  next =>
    split at located
    next =>
      have final := (Except.ok.inj located)
      have filtered : path.parts.getLast?.filter (· ≠ "..") = some name := (Prod.mk.inj final).2
      obtain ⟨last, notUp⟩ := Option.filter_eq_some_iff.mp filtered
      constructor
      · intro empty
        rw [empty] at last
        cases last
      · rw [Path.name, List.getLastD_eq_getLast?, last]
        simpa using notUp
    all_goals cases located

/-- A new directory takes a free name. -/
theorem makeDirectory_down (named : IsName name) {mode : Mode} {after : Disk}
    (made : disk.makeDirectory here (parent.down [name]) mode = .ok after) :
    ∃ directory, disk.Leads here parent directory ∧ Fits (parent.down [name]) name ∧
      disk.get? (directory ++ [name]) = none ∧
      after = disk.put (directory ++ [name]) (.directory mode) := by
  unfold makeDirectory at made
  split at made
  next => cases made
  next => cases made
  next found final located =>
    obtain ⟨leads, same, fits⟩ := locateLast_down named located
    cases same
    split at made
    next => cases made
    next short =>
      split at made
      next => cases made
      next free =>
        cases made
        exact ⟨found, leads, ⟨fits, by simpa using short⟩, free, rfl⟩

/-- An entry takes another name of the same directory. What has that name gives way. -/
theorem rename_down {new : String} (oldNamed : IsName name) (newNamed : IsName new)
    (different : name ≠ new) {after : Disk}
    (renamed : disk.rename here (parent.down [name]) (parent.down [new]) = .ok after) :
    ∃ directory mover, disk.Leads here parent directory ∧ Fits (parent.down [new]) new ∧
      disk.get? (directory ++ [name]) = some mover ∧
      disk.mayReplace (directory ++ [new]) mover (disk.get? (directory ++ [new])) = .ok () ∧
      after = disk.moveTree (directory ++ [name]) (directory ++ [new]) := by
  unfold rename at renamed
  cases oldLocated : disk.locateLast here (parent.down [name]) with
  | error code =>
    rw [oldLocated] at renamed
    cases renamed
  | ok old =>
    obtain ⟨oldDirectory, oldFinal⟩ := old
    cases newLocated : disk.locateLast here (parent.down [new]) with
    | error code =>
      rw [oldLocated, newLocated] at renamed
      cases renamed
    | ok newer =>
      obtain ⟨newDirectory, newFinal⟩ := newer
      rw [oldLocated, newLocated] at renamed
      obtain ⟨leads, sameOld, -⟩ := locateLast_down oldNamed oldLocated
      obtain ⟨leadsAgain, sameNew, fits⟩ := locateLast_down newNamed newLocated
      cases sameOld
      cases sameNew
      cases leads.unique leadsAgain
      simp only [bind, Except.bind] at renamed
      split at renamed
      next => cases renamed
      next =>
        split at renamed
        next => cases renamed
        next mover found =>
          split at renamed
          next => cases renamed
          next short =>
            rw [if_neg (by simpa using different)] at renamed
            split at renamed
            next => cases renamed
            next =>
              split at renamed
              next => cases renamed
              next =>
                split at renamed
                next => cases renamed
                next gaveWay =>
                  cases renamed
                  exact ⟨_, mover, leads, ⟨fits, by simpa using short⟩, found, gaveWay, rfl⟩

/-- Only paths that end with names can be renamed. -/
theorem rename_named {old new : Path} {after : Disk}
    (renamed : disk.rename here old new = .ok after) : old.IsNamed ∧ new.IsNamed := by
  unfold rename at renamed
  cases oldLocated : disk.locateLast here old with
  | error code =>
    rw [oldLocated] at renamed
    cases renamed
  | ok oldFound =>
    cases newLocated : disk.locateLast here new with
    | error code =>
      rw [oldLocated, newLocated] at renamed
      cases renamed
    | ok newFound =>
      obtain ⟨oldDirectory, oldFinal⟩ := oldFound
      obtain ⟨newDirectory, newFinal⟩ := newFound
      rw [oldLocated, newLocated] at renamed
      cases oldFinal with
      | none => cases renamed
      | some oldName =>
        cases newFinal with
        | none => cases renamed
        | some newName => exact ⟨locateLast_named oldLocated, locateLast_named newLocated⟩

/-- A file or a link goes. -/
theorem unlink_down (named : IsName name) {after : Disk}
    (unlinked : disk.unlink here (parent.down [name]) = .ok after) :
    ∃ directory, disk.Leads here parent directory ∧ ¬ disk.HasDirectory (directory ++ [name]) ∧
      after = disk.erase (directory ++ [name]) := by
  unfold unlink at unlinked
  split at unlinked
  next => cases unlinked
  next => cases unlinked
  next found final located =>
    obtain ⟨leads, same, -⟩ := locateLast_down named located
    cases same
    split at unlinked
    next => cases unlinked
    next =>
      split at unlinked
      next => cases unlinked
      next => cases unlinked
      next node notDirectory there =>
        cases unlinked
        refine ⟨found, leads, ?_, rfl⟩
        rintro ⟨mode, directory⟩
        exact notDirectory mode (Option.some.inj (there.symm.trans directory))

/-! ### Whole paths -/

/-- What a longer path leads to is found from the directory that the shorter one leads to. -/
theorem locate_down (isTree : disk.IsTree) (start : disk.HasDirectory (startOf here parent))
    {names : List String} (some : names ≠ []) {last : Bool} {spot : Spot}
    (located : disk.locate here last (parent.down names) = .ok spot) :
    ∃ directory left, disk.Leads here parent directory ∧
      Way disk last left directory names spot := by
  unfold locate at located
  split at located
  next => cases located
  next =>
    have way := way_of_walk_eq located
    obtain ⟨directory, mode, walked⟩ := way.of_append isTree some start
    obtain ⟨left, onward⟩ := (way_of_walk_eq walked).walk_append
    exact ⟨directory, left, ⟨mode, walked⟩,
      way_of_walk_eq ((onward last names some).symm.trans located)⟩

/-- Where a path with one more name leads, when a link of that name is not followed. -/
theorem Leads.locate (leads : disk.Leads here parent directory) (named : IsName name) :
    disk.locate here false (parent.down [name]) =
      if pathLimit ≤ (parent.down [name]).text.utf8ByteSize then .error Errno.nameTooLong
      else if isLongName name then .error Errno.nameTooLong
      else
        match disk.get? (directory ++ [name]) with
        | none => .ok (.vacant directory name)
        | some node => .ok (.found (directory ++ [name]) node) := by
  obtain ⟨mode, walked⟩ := leads
  obtain ⟨left, onward⟩ := (way_of_walk_eq walked).walk_append
  unfold Disk.locate
  split
  next => rfl
  next =>
    show disk.walk false linkLimit (startOf here parent) (parent.parts ++ [name]) = _
    rw [onward false [name] (List.cons_ne_nil _ _)]
    cases long : isLongName name with
    | true => rw [walk_name named, long, if_pos rfl, if_pos rfl]
    | false =>
      rw [if_neg (by simp)]
      cases found : disk.get? (directory ++ [name]) with
      | none => rw [walk_absent named long found, if_pos rfl]
      | some node => exact walk_last named long found (.inr rfl)

/-- A path with a free name at its end leads to that name. -/
theorem Leads.locate_vacant (leads : disk.Leads here parent directory) (named : IsName name)
    (fits : Fits (parent.down [name]) name) (free : disk.get? (directory ++ [name]) = none)
    (last : Bool) :
    disk.locate here last (parent.down [name]) = .ok (.vacant directory name) := by
  obtain ⟨mode, walked⟩ := leads
  obtain ⟨left, onward⟩ := (way_of_walk_eq walked).walk_append
  unfold Disk.locate
  rw [if_neg fits.1]
  refine (onward last [name] (List.cons_ne_nil _ _)).trans ?_
  rw [walk_absent named fits.2 free, if_pos rfl]

/-- A path with one more name leads to the directory of that name. -/
theorem Leads.down (leads : disk.Leads here parent directory) (named : IsName name)
    (short : isLongName name = false) (there : disk.HasDirectory (directory ++ [name])) :
    disk.Leads here (parent.down [name]) (directory ++ [name]) := by
  obtain ⟨mode, walked⟩ := leads
  obtain ⟨childMode, found⟩ := there
  obtain ⟨left, onward⟩ := (way_of_walk_eq walked).walk_append
  refine ⟨childMode, (onward true [name] (List.cons_ne_nil _ _)).trans ?_⟩
  exact walk_last named short found (.inl rfl)

/-- A path that leads to a directory leads there when its last name is looked up. -/
theorem Leads.locate_found {path : Path} (leads : disk.Leads here path directory)
    (fits : ¬ pathLimit ≤ path.text.utf8ByteSize) :
    ∃ mode, disk.locate here true path = .ok (.found directory (.directory mode)) := by
  obtain ⟨mode, walked⟩ := leads
  refine ⟨mode, ?_⟩
  unfold Disk.locate
  rw [if_neg fits]
  exact walked

/-- A path that fits leads to the entry of its last name, unless that is a link to follow. -/
theorem Leads.locate_entry (leads : disk.Leads here parent directory) (named : IsName name)
    (fits : Fits (parent.down [name]) name) {node : Node}
    (found : disk.get? (directory ++ [name]) = some node) {last : Bool}
    (kept : node.isLink = false ∨ last = false) :
    disk.locate here last (parent.down [name]) = .ok (.found (directory ++ [name]) node) := by
  obtain ⟨mode, walked⟩ := leads
  obtain ⟨left, onward⟩ := (way_of_walk_eq walked).walk_append
  unfold Disk.locate
  rw [if_neg fits.1]
  refine (onward last [name] (List.cons_ne_nil _ _)).trans ?_
  exact walk_last named fits.2 found kept

/-- What lies at a path itself lies in a directory that the path above leads to. -/
theorem locate_down_found (isTree : disk.IsTree) (start : disk.HasDirectory (startOf here parent))
    (named : IsName name) {place : Place} {node : Node}
    (located : disk.locate here false (parent.down [name]) = .ok (.found place node)) :
    ∃ directory, disk.Leads here parent directory ∧ place = directory ++ [name] ∧
      disk.get? place = some node := by
  obtain ⟨directory, left, leads, -⟩ := locate_down isTree start (List.cons_ne_nil _ _) located
  refine ⟨directory, leads, ?_⟩
  rw [leads.locate named] at located
  split at located
  next => cases located
  next =>
    split at located
    next => cases located
    next =>
      split at located
      next => cases located
      next found =>
        cases located
        exact ⟨rfl, found⟩

/-- A directory goes with everything below it. -/
theorem removeTree_down (isTree : disk.IsTree) (start : disk.HasDirectory (startOf here parent))
    (named : IsName name) {after : Disk}
    (removed : disk.removeTree here (parent.down [name]) = .ok after) :
    ∃ directory, disk.Leads here parent directory ∧
      after = disk.eraseTree (directory ++ [name]) := by
  unfold removeTree at removed
  split at removed
  next place mode located =>
    cases removed
    obtain ⟨directory, leads, rfl, -⟩ := locate_down_found isTree start named located
    exact ⟨directory, leads, rfl⟩
  all_goals cases removed

/-! ### Paths below a directory without links -/

/-- A path that goes on below a name of a directory leads to the place that it names, if no links
lie there. -/
theorem Leads.locate_below (leads : disk.Leads here parent directory) (isTree : disk.IsTree)
    (start : disk.HasDirectory (startOf here parent))
    (linkless : ∀ place target, directory ++ [name] <+: place →
      disk.get? place ≠ some (.link target)) (named : IsName name) {rest : List String}
    (namedRest : ∀ each ∈ rest, IsName each) {last : Bool} {spot : Spot}
    (located : disk.locate here last (parent.down (name :: rest)) = .ok spot) :
    spot.place = directory ++ [name] ++ rest ∧ disk.Holds spot := by
  obtain ⟨found, left, leadsFound, way⟩ := locate_down isTree start (List.cons_ne_nil _ _) located
  cases leads.unique leadsFound
  refine ⟨?_, way.holds isTree (leads.hasDirectory isTree start)⟩
  cases way with
  | skip point => exact absurd point (by simp [named.1, named.2.1])
  | up => exact absurd rfl named.2.2
  | enter _ _ found onward => exact onward.place_eq linkless List.prefix_rfl namedRest
  | free => exact (List.append_nil _).symm
  | file => exact (List.append_nil _).symm
  | link _ _ found => exact absurd found (linkless _ _ List.prefix_rfl)
  | follow _ _ found => exact absurd found (linkless _ _ List.prefix_rfl)

/-- What lies there is found, unless the path or one of its names is too long. -/
theorem Leads.nodeAt_below (leads : disk.Leads here parent directory) (isTree : disk.IsTree)
    (linkless : ∀ place target, directory ++ [name] <+: place →
      disk.get? place ≠ some (.link target)) (named : IsName name) {rest : List String}
    (namedRest : ∀ each ∈ rest, IsName each) {node : Node}
    (there : disk.get? (directory ++ [name] ++ rest) = some node) :
    disk.nodeAt here true (parent.down (name :: rest)) = .ok node ∨
      disk.nodeAt here true (parent.down (name :: rest)) = .error Errno.nameTooLong ∧
        (pathLimit ≤ (parent.down (name :: rest)).text.utf8ByteSize ∨
          ∃ each ∈ name :: rest, isLongName each = true) := by
  unfold Disk.nodeAt Disk.locate
  by_cases long : pathLimit ≤ (parent.down (name :: rest)).text.utf8ByteSize
  · rw [if_pos long]
    exact .inr ⟨rfl, .inl long⟩
  · rw [if_neg long]
    obtain ⟨mode, walked⟩ := leads
    obtain ⟨left, onward⟩ := (way_of_walk_eq walked).walk_append
    have walkedOn : disk.walk true linkLimit (startOf here (parent.down (name :: rest)))
        (parent.down (name :: rest)).parts = disk.walk true left directory (name :: rest) :=
      onward true (name :: rest) (List.cons_ne_nil _ _)
    have shape : directory ++ name :: rest = directory ++ [name] ++ rest := by simp
    have namedAll : ∀ each ∈ name :: rest, IsName each := by
      rintro each (_ | ⟨_, member⟩)
      · exact named
      · exact namedRest each member
    have linklessFront : ∀ front target, front ≠ [] → front <+: name :: rest →
        disk.get? (directory ++ front) ≠ some (.link target) := by
      intro front target some prefixed
      rcases List.prefix_cons_iff.mp prefixed with rfl | ⟨others, rfl, -⟩
      · exact absurd rfl some
      · exact linkless _ target ⟨others, by simp⟩
    rw [walkedOn]
    rcases walk_present isTree namedAll linklessFront (by rw [shape]; exact there) with
      found | ⟨tooLong, isLong⟩
    · rw [found]
      exact .inl rfl
    · rw [tooLong]
      exact .inr ⟨rfl, .inr isLong⟩

/-! ### Entries -/

/-- The entry that a path leads to, with everything below it. A link is not followed. -/
def entryAt (disk : Disk) (here : Place) (path : Path) : Option Tree :=
  match disk.locate here false path with
  | .ok (.found place _) => some (disk.tree place)
  | _ => none

/-- What is asked for by a path is there exactly when the path leads to an entry. -/
theorem entryAt_isSome_iff (disk : Disk) (here : Place) (path : Path) :
    (disk.entryAt here path).isSome = (disk.nodeAt here false path).toOption.isSome := by
  unfold entryAt nodeAt
  cases disk.locate here false path with
  | error code => rfl
  | ok spot => cases spot <;> rfl

/-- The entry of a name in a directory. -/
theorem Leads.entryAt (leads : disk.Leads here parent directory) (named : IsName name) :
    disk.entryAt here (parent.down [name]) =
      if pathLimit ≤ (parent.down [name]).text.utf8ByteSize ∨ isLongName name = true ∨
          disk.get? (directory ++ [name]) = none then none
      else some (disk.tree (directory ++ [name])) := by
  unfold Disk.entryAt
  rw [leads.locate named]
  by_cases long : pathLimit ≤ (parent.down [name]).text.utf8ByteSize
  · rw [if_pos long, if_pos (.inl long)]
  · rw [if_neg long]
    cases short : isLongName name with
    | true => rw [if_pos rfl, if_pos (.inr (.inl rfl))]
    | false =>
      rw [if_neg (by simp)]
      cases found : disk.get? (directory ++ [name]) with
      | none => rw [if_pos (.inr (.inr rfl))]
      | some node => rw [if_neg (by simp [long])]

/-- Two disks on which a path leads to the same directory have the same entry of a name there if
the same lies at and below it. -/
theorem Leads.entryAt_eq {other : Disk} (leads : disk.Leads here parent directory)
    (otherLeads : other.Leads here parent directory) (named : IsName name)
    (same : other.tree (directory ++ [name]) = disk.tree (directory ++ [name])) :
    other.entryAt here (parent.down [name]) = disk.entryAt here (parent.down [name]) := by
  have atTop : other.get? (directory ++ [name]) = disk.get? (directory ++ [name]) := by
    have atNil := congrFun same []
    rwa [tree, tree, List.append_nil] at atNil
  rw [leads.entryAt named, otherLeads.entryAt named, same, atTop]

end Disk

end Bindery
