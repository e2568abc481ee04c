/-
This file walks paths over a disk. A link on the way is followed from the directory that holds
it; a link at the end only on request. Walking up from the top stays at the top. At most forty
links are followed.
-/

import Bindery.Disk.Basic
import Bindery.Errno

namespace Bindery

/-- Where a path leads: to something, or to a free name in a directory. -/
inductive Spot where
  | found (place : Place) (node : Node)
  | vacant (directory : Place) (name : String)
deriving DecidableEq, Repr

/-- The place that a path leads to. -/
def Spot.place : Spot → Place
  | .found place _ => place
  | .vacant directory name => directory ++ [name]

namespace Disk

/-- The greatest length of a name in bytes. -/
def nameLimit : Nat := 255

/-- The length in bytes from which on a path is too long. -/
def pathLimit : Nat := 4096

/-- How many links are followed at most. -/
def linkLimit : Nat := 40

/-- Whether a name is too long. -/
def isLongName (name : String) : Bool := nameLimit < name.utf8ByteSize

/-- Where a link leads from the directory that holds it, as a place to start from and names. -/
def linkWay (here : Place) (target : String) : Place × List String :=
  (if target.toList.head? = some '/' then [] else here, Text.cut '/' target)

/-- Walks from the directory `here` along `names`. Links are followed by `follow`, the last
name only if `last` says so. -/
def walkNames (disk : Disk) (last : Bool) (follow : Place → List String → Except Errno Spot) :
    (here : Place) → (names : List String) → Except Errno Spot
  | here, [] => .ok (.found here ((disk.get? here).getD (.directory topMode)))
  | here, name :: rest =>
    if name = "" ∨ name = "." then walkNames disk last follow here rest
    else if name = ".." then walkNames disk last follow here.dropLast rest
    else if isLongName name then .error Errno.nameTooLong
    else
      match disk.get? (here ++ [name]) with
      | none => if rest = [] then .ok (.vacant here name) else .error Errno.noEntry
      | some (.directory _) => walkNames disk last follow (here ++ [name]) rest
      | some (.file bytes mode) =>
        if rest = [] then .ok (.found (here ++ [name]) (.file bytes mode))
        else .error Errno.notDirectory
      | some (.link target) =>
        if rest = [] ∧ last = false then .ok (.found (here ++ [name]) (.link target))
        else
          let (start, way) := linkWay here target
          follow start (way ++ rest)

/-- Walks along names and follows at most `links` links. -/
def walk (disk : Disk) (last : Bool) : (links : Nat) → Place → List String → Except Errno Spot
  | 0 => walkNames disk last fun _ _ => .error Errno.linkLoop
  | links + 1 => walkNames disk last (walk disk last links)

/-- Where a path starts for a process in the directory `here`. -/
def startOf (here : Place) (path : Path) : Place := if path.isAbsolute then [] else here

/-- Where a path leads for a process in the directory `here`. -/
def locate (disk : Disk) (here : Place) (last : Bool) (path : Path) : Except Errno Spot :=
  if pathLimit ≤ path.text.utf8ByteSize then .error Errno.nameTooLong
  else disk.walk last linkLimit (startOf here path) path.parts

/-- Where a path in written form leads. Nothing lies at the empty text. -/
def locateText (disk : Disk) (here : Place) (last : Bool) (text : String) : Except Errno Spot :=
  if text = "" then .error Errno.noEntry
  else if pathLimit ≤ text.utf8ByteSize then .error Errno.nameTooLong
  else
    disk.walk last linkLimit (if text.toList.head? = some '/' then [] else here)
      (Text.cut '/' text)

/-- The node that a path leads to. -/
def nodeAt (disk : Disk) (here : Place) (last : Bool) (path : Path) : Except Errno Node :=
  match disk.locate here last path with
  | .ok (.found _ node) => .ok node
  | .ok (.vacant ..) => .error Errno.noEntry
  | .error code => .error code

/-- The directory that holds the last name of a path, and that name. A path that ends above
itself or at the top has no last name. -/
def locateLast (disk : Disk) (here : Place) (path : Path) :
    Except Errno (Place × Option String) :=
  if pathLimit ≤ path.text.utf8ByteSize then .error Errno.nameTooLong
  else
    match disk.walk true linkLimit (startOf here path) path.parts.dropLast with
    | .ok (.found place (.directory _)) =>
      .ok (place, path.parts.getLast?.filter (· ≠ ".."))
    | .ok (.found ..) => .error Errno.notDirectory
    | .ok (.vacant ..) => .error Errno.noEntry
    | .error code => .error code

end Disk

end Bindery
