/-
This file holds what a process can do to a disk: read and write files, make directories, rename,
remove and change permission bits. An operation succeeds as a whole or leaves the disk as it
was and gives the error number.
-/

import Bindery.Disk.Walk

namespace Bindery.Disk

/-- The permission bits of a new file. -/
def fileMode : Mode := 0o644

/-- The permission bits of a new directory. -/
def directoryMode : Mode := 0o755

/-- The bytes of the file that a path leads to. -/
def readFile (disk : Disk) (here : Place) (path : Path) : Except Errno (List UInt8) :=
  match disk.nodeAt here true path with
  | .ok (.file bytes _) => .ok bytes
  | .ok (.directory _) => .error Errno.isDirectory
  | .ok (.link _) => .error Errno.linkLoop
  | .error code => .error code

/-- The disk with the bytes in the file that a path leads to. A file that is there keeps its
permission bits. -/
def writeFile (disk : Disk) (here : Place) (path : Path) (bytes : List UInt8) :
    Except Errno Disk :=
  match disk.locate here true path with
  | .ok (.found place (.file _ mode)) => .ok (disk.put place (.file bytes mode))
  | .ok (.found _ (.directory _)) => .error Errno.isDirectory
  | .ok (.found _ (.link _)) => .error Errno.linkLoop
  | .ok (.vacant directory name) => .ok (disk.put (directory ++ [name]) (.file bytes fileMode))
  | .error code => .error code

/-- The disk with a new directory. -/
def makeDirectory (disk : Disk) (here : Place) (path : Path) (mode : Mode) :
    Except Errno Disk :=
  match disk.locateLast here path with
  | .error code => .error code
  | .ok (_, none) => .error Errno.alreadyExists
  | .ok (directory, some name) =>
    if isLongName name then .error Errno.nameTooLong
    else
      match disk.get? (directory ++ [name]) with
      | some _ => .error Errno.alreadyExists
      | none => .ok (disk.put (directory ++ [name]) (.directory mode))

/-- Whether a node may give way to another one that is moved to its place. -/
def mayReplace (disk : Disk) (place : Place) (mover : Node) : Option Node → Except Errno Unit
  | none => .ok ()
  | some target =>
    if mover.isDirectory then
      if !target.isDirectory then .error Errno.notDirectory
      else if disk.isBare place then .ok ()
      else .error Errno.notEmpty
    else if target.isDirectory then .error Errno.isDirectory
    else .ok ()

/-- The disk with the entry at one path moved to another. A link is moved itself. What lies at
the new path gives way if it is of the same kind and, being a directory, holds nothing. -/
def rename (disk : Disk) (here : Place) (old new : Path) : Except Errno Disk := do
  let (oldDirectory, oldName) ← disk.locateLast here old
  let (newDirectory, newName) ← disk.locateLast here new
  match oldName, newName with
  | some oldName, some newName =>
    let oldPlace := oldDirectory ++ [oldName]
    let newPlace := newDirectory ++ [newName]
    if isLongName oldName then .error Errno.nameTooLong
    else
      match disk.get? oldPlace with
      | none => .error Errno.noEntry
      | some mover =>
        if isLongName newName then .error Errno.nameTooLong
        else if oldPlace = newPlace then .ok disk
        else if Place.isUnder newPlace oldPlace then .error Errno.invalid
        else if Place.isUnder oldPlace newPlace then .error Errno.notEmpty
        else
          match disk.mayReplace newPlace mover (disk.get? newPlace) with
          | .error code => .error code
          | .ok () => .ok (disk.moveTree oldPlace newPlace)
  | _, _ => .error Errno.busy

/-- The disk without the file or link at a path. -/
def unlink (disk : Disk) (here : Place) (path : Path) : Except Errno Disk :=
  match disk.locateLast here path with
  | .error code => .error code
  | .ok (_, none) => .error Errno.isDirectory
  | .ok (directory, some name) =>
    if isLongName name then .error Errno.nameTooLong
    else
      match disk.get? (directory ++ [name]) with
      | none => .error Errno.noEntry
      | some (.directory _) => .error Errno.isDirectory
      | some _ => .ok (disk.erase (directory ++ [name]))

/-- The disk with other permission bits where a path leads. -/
def changeMode (disk : Disk) (here : Place) (path : Path) (mode : Mode) : Except Errno Disk :=
  match disk.locate here true path with
  | .ok (.found place (.file bytes _)) => .ok (disk.put place (.file bytes mode))
  | .ok (.found place (.directory _)) => .ok (disk.put place (.directory mode))
  | .ok (.found _ (.link _)) => .error Errno.linkLoop
  | .ok (.vacant ..) => .error Errno.noEntry
  | .error code => .error code

/-- The disk without the directory at a path and everything below it. A link is not followed. -/
def removeTree (disk : Disk) (here : Place) (path : Path) : Except Errno Disk :=
  match disk.locate here false path with
  | .ok (.found place (.directory _)) => .ok (disk.eraseTree place)
  | .ok (.found ..) => .error Errno.notDirectory
  | .ok (.vacant ..) => .error Errno.noEntry
  | .error code => .error code

end Bindery.Disk
