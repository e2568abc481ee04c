/-
This file compares the states of a directory tree. Entries are listed by their paths below the
top of the tree, a directory with a slash at the end, in increasing order.
-/

import Bindery.Disk.Basic
import Bindery.Text.Fields

namespace Bindery.Disk

/-- The path of an entry in a listing. -/
def listedPath (names : List String) (node : Node) : String :=
  Text.join "/" names ++ (if node.isDirectory then "/" else "")

/-- An entry in a list that is ordered by path. -/
def insertListed (entry : String × Node) : List (String × Node) → List (String × Node)
  | [] => [entry]
  | other :: rest =>
    if entry.1 ≤ other.1 then entry :: other :: rest else other :: insertListed entry rest

/-- The entry of a listing below `top`, if the place is there. -/
def listed? (top : Place) (entry : Place × Node) : Option (String × Node) :=
  match Place.below? top entry.1 with
  | none | some [] => none
  | some names => some (listedPath names entry.2, entry.2)

/-- Everything below a place in the order of paths. -/
def listing (disk : Disk) (top : Place) : List (String × Node) :=
  (disk.entries.filterMap (listed? top)).foldr insertListed []

/-- Whether two nodes show the same. Permission bits of files do not show. -/
def showsSame : Node → Node → Bool
  | .file bytes _, .file others _ => bytes == others
  | .directory mode, .directory other => mode == other
  | .link target, .link other => target == other
  | _, _ => false

/-- What is new or different in a listing. -/
def changed (before after : List (String × Node)) : List (String × Node) :=
  after.filter fun (path, node) =>
    match before.lookup path with
    | some old => !showsSame old node
    | none => true

/-- The paths that are gone from a listing. -/
def removed (before after : List (String × Node)) : List String :=
  (before.map (·.1)).filter fun path => (after.lookup path).isNone

/-- Permission bits in base eight. -/
def modeText (mode : Mode) : String := String.ofList (Nat.toDigits 8 mode)

end Bindery.Disk
