/-
This file prepares disks: it lays down files, directories and links with the directories that
they lie in, and takes entries away. An edit that cannot be carried out changes nothing.
-/

import Bindery.Disk.Operations

namespace Bindery.Disk

/-- A change to one entry. -/
inductive Edit where
  | file (bytes : List UInt8) (mode : Option Mode)
  | directory
  | link (target : String)
  | delete
deriving DecidableEq, Repr

/-- The disk after an operation, or as it was if the operation is refused. -/
def orSame (disk : Disk) (result : Except Errno Disk) : Disk :=
  match result with
  | .ok changed => changed
  | .error _ => disk

/-- The paths that a path goes through, itself last. -/
def stages (path : Path) : List Path :=
  (List.range path.parts.length).map fun count => ⟨path.anchor, path.parts.take (count + 1)⟩

/-- The disk with a directory and those that it lies in. -/
def withDirectories (disk : Disk) (here : Place) (path : Path) : Disk :=
  (stages path).foldl
    (fun disk stage => disk.orSame (disk.makeDirectory here stage directoryMode)) disk

/-- The disk without whatever lies at a path. -/
def without (disk : Disk) (here : Place) (path : Path) : Disk :=
  match disk.locate here false path with
  | .ok (.found place _) => disk.eraseTree place
  | _ => disk

/-- The disk with a link at a path. -/
def withLink (disk : Disk) (here : Place) (path : Path) (target : String) : Disk :=
  match disk.locate here false path with
  | .ok (.vacant directory name) => disk.put (directory ++ [name]) (.link target)
  | .ok (.found place node) => if node.isDirectory then disk else disk.put place (.link target)
  | .error _ => disk

/-- The disk with a file at a path. -/
def withFile (disk : Disk) (here : Place) (path : Path) (bytes : List UInt8)
    (mode : Option Mode) : Disk :=
  match disk.writeFile here path bytes with
  | .error _ => disk
  | .ok written =>
    match mode with
    | none => written
    | some mode => written.orSame (written.changeMode here path mode)

/-- The disk after one edit. -/
def edit (disk : Disk) (here : Place) (path : Path) : Edit → Disk
  | .delete => disk.without here path
  | .directory => disk.withDirectories here path
  | .link target => (disk.withDirectories here path.parent).withLink here path target
  | .file bytes mode => (disk.withDirectories here path.parent).withFile here path bytes mode

/-- The disk after edits to entries below a directory. -/
def editAll (disk : Disk) (here : Place) (base : Path) (edits : List (String × Edit)) : Disk :=
  edits.foldl (fun disk (name, change) => disk.edit here (base.child name) change) disk

end Bindery.Disk
