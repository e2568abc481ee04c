/-
This file holds the state of a disk: files, directories and links, each at a place given by the
names on the way from the top. Every operation on the state is described by the entries that
are found afterwards, place by place.
-/

import Bindery.Path

namespace Bindery

/-- The names on the way from the top of a disk. -/
abbrev Place := List String

/-- Permission bits. -/
abbrev Mode := Nat

/-- What lies at a place. -/
inductive Node where
  | file (bytes : List UInt8) (mode : Mode)
  | directory (mode : Mode)
  | link (target : String)
deriving DecidableEq, Repr

namespace Node

/-- Whether a node is a directory. -/
def isDirectory : Node → Bool
  | .directory _ => true
  | _ => false

/-- Whether a node is a file. -/
def isFile : Node → Bool
  | .file .. => true
  | _ => false

/-- Whether a node is a link. -/
def isLink : Node → Bool
  | .link _ => true
  | _ => false

end Node

/-- The names from one place to another below it. -/
def Place.below? (top place : Place) : Option Place := Path.afterParts? top place

/-- Whether a place is another one or lies below it. -/
def Place.isUnder (place top : Place) : Bool := (Place.below? top place).isSome

/-- The entries of a disk. The directory at the top is always there. -/
structure Disk where
  entries : List (Place × Node)
deriving Repr

namespace Disk

/-- A disk with nothing but its top. -/
def empty : Disk := ⟨[]⟩

/-- The permission bits of the top. -/
def topMode : Mode := 0o755

/-- What lies at a place. -/
def get? (disk : Disk) (place : Place) : Option Node :=
  if place = [] then some (.directory topMode) else disk.entries.lookup place

/-- The disk with a node at a place. -/
def put (disk : Disk) (place : Place) (node : Node) : Disk :=
  ⟨(place, node) :: disk.entries.filter fun entry => entry.1 ≠ place⟩

/-- The disk without the node at a place. -/
def erase (disk : Disk) (place : Place) : Disk :=
  ⟨disk.entries.filter fun entry => entry.1 ≠ place⟩

/-- The disk without a place and everything below it. -/
def eraseTree (disk : Disk) (top : Place) : Disk :=
  ⟨disk.entries.filter fun entry => !Place.isUnder entry.1 top⟩

/-- The places at which a tree has entries. -/
def placesUnder (disk : Disk) (top : Place) : List Place :=
  (disk.entries.map Prod.fst).filter (Place.isUnder · top)

/-- The disk without a tree, but for the places that are refused and what these lie in. -/
def pruneTree (disk : Disk) (top : Place) (refused : List Place) : Disk :=
  ⟨disk.entries.filter fun entry =>
    !Place.isUnder entry.1 top || refused.any (Place.isUnder · entry.1)⟩

/-- The entry that lies at another place once everything under `old` is under `new`; what lay
under `new` is gone. -/
def moveEntry (old new : Place) (entry : Place × Node) : Option (Place × Node) :=
  match Place.below? old entry.1 with
  | some rest => some (new ++ rest, entry.2)
  | none => if Place.isUnder entry.1 new then none else some entry

/-- The disk with everything under `old` moved to `new`. -/
def moveTree (disk : Disk) (old new : Place) : Disk :=
  ⟨disk.entries.filterMap (moveEntry old new)⟩

/-- Whether nothing lies below a place. -/
def isBare (disk : Disk) (top : Place) : Bool :=
  disk.entries.all fun entry => entry.1 = top || !Place.isUnder entry.1 top

/-- How many entries there are. -/
def size (disk : Disk) : Nat := disk.entries.length

/-! ### What is found after an operation -/

theorem below?_eq_some_iff (top place rest : Place) :
    Place.below? top place = some rest ↔ place = top ++ rest :=
  Path.afterParts?_eq_some_iff top place rest

@[simp] theorem below?_append (top rest : Place) : Place.below? top (top ++ rest) = some rest :=
  (below?_eq_some_iff _ _ _).2 rfl

theorem isUnder_iff (place top : Place) :
    Place.isUnder place top = true ↔ ∃ rest, place = top ++ rest := by
  simp only [Place.isUnder, Option.isSome_iff_exists, below?_eq_some_iff]

@[simp] theorem get?_top (disk : Disk) : disk.get? [] = some (.directory topMode) := rfl

theorem get?_of_ne_nil (disk : Disk) {place : Place} (below : place ≠ []) :
    disk.get? place = disk.entries.lookup place := by
  simp [get?, below]

/-- Filtering by key keeps what is found under the keys that are kept. -/
theorem lookup_filter_key {α β : Type} [BEq α] [LawfulBEq α] (keep : α → Bool) (key : α)
    (list : List (α × β)) :
    (list.filter fun entry => keep entry.1).lookup key =
      if keep key then list.lookup key else none := by
  induction list with
  | nil => simp
  | cons entry rest inductionHypothesis =>
    obtain ⟨name, value⟩ := entry
    cases found : key == name with
    | true =>
      have same : key = name := eq_of_beq found
      subst same
      cases kept : keep key with
      | true => simp [kept]
      | false => simpa [List.filter_cons, kept] using inductionHypothesis
    | false =>
      cases kept : keep name with
      | true => simpa [List.filter_cons, kept, List.lookup_cons, found] using inductionHypothesis
      | false => simpa [List.filter_cons, kept, List.lookup_cons, found] using inductionHypothesis

/-- Nothing is found where a node was erased, and other places are as they were. -/
theorem get?_erase (disk : Disk) (place other : Place) :
    (disk.erase place).get? other =
      if other = [] then some (.directory topMode)
      else if other = place then none else disk.get? other := by
  by_cases top : other = []
  · simp [top]
  · rw [if_neg top, get?_of_ne_nil _ top, get?_of_ne_nil _ top]
    have found := lookup_filter_key (fun each => decide (each ≠ place)) other disk.entries
    simp only [erase]
    rw [found]
    by_cases same : other = place <;> simp [same]

/-- A node is found where it was put, and other places are as they were. -/
theorem get?_put (disk : Disk) (place other : Place) (node : Node) :
    (disk.put place node).get? other =
      if other = [] then some (.directory topMode)
      else if other = place then some node else disk.get? other := by
  by_cases top : other = []
  · simp [top]
  · rw [if_neg top]
    by_cases same : other = place
    · subst same
      simp [get?_of_ne_nil _ top, put]
    · have notPlace : (other == place) = false := by simp [same]
      have found := lookup_filter_key (fun each => decide (each ≠ place)) other disk.entries
      rw [if_neg same, get?_of_ne_nil _ top, get?_of_ne_nil _ top]
      simp only [put, List.lookup_cons, notPlace]
      rw [found]
      simp [same]

/-- Nothing is found under an erased tree, and other places are as they were. -/
theorem get?_eraseTree (disk : Disk) (top place : Place) :
    (disk.eraseTree top).get? place =
      if place = [] then some (.directory topMode)
      else if Place.isUnder place top then none else disk.get? place := by
  by_cases empty : place = []
  · simp [empty]
  · rw [if_neg empty, get?_of_ne_nil _ empty, get?_of_ne_nil _ empty]
    have found := lookup_filter_key (fun each => !Place.isUnder each top) place disk.entries
    simp only [eraseTree]
    rw [found]
    by_cases under : Place.isUnder place top <;> simp [under]

/-- What is found under a tree that was pruned lay there before and holds something that was
refused. -/
theorem get?_pruneTree (disk : Disk) (top place : Place) (refused : List Place) :
    (disk.pruneTree top refused).get? place =
      if place = [] then some (.directory topMode)
      else if !Place.isUnder place top || refused.any (Place.isUnder · place) then
        disk.get? place
      else none := by
  by_cases empty : place = []
  · simp [empty]
  · rw [if_neg empty, get?_of_ne_nil _ empty, get?_of_ne_nil _ empty]
    exact lookup_filter_key
      (fun each => !Place.isUnder each top || refused.any (Place.isUnder · each)) place
      disk.entries

end Disk

end Bindery
