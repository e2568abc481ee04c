/-
This file lays out what every machine has installed beside what is put on its disk: the usual
directories, and a few programs in them. A disk can be furnished with them and cleared of them
again.
-/

import Bindery.Disk.Operations

namespace Bindery.Compiler

/-- A program that every machine has. -/
inductive Installed where
  | shell
  /-- Runs another program with changed variables. -/
  | environment
  /-- Does nothing and succeeds, or fails. -/
  | constant (succeeds : Bool)
deriving DecidableEq, Repr

/-- The programs with their names. -/
def installedPrograms : List (String × Installed) :=
  [("dash", .shell), ("bash", .shell), ("env", .environment), ("true", .constant true),
    ("false", .constant false)]

/-- The directory that the programs lie in. -/
def programPlace : Place := ["usr", "bin"]

/-- The program at a place. -/
def installedAt? (place : Place) : Option Installed :=
  (Place.below? programPlace place).bind fun rest =>
    match rest with
    | [name] => installedPrograms.lookup name
    | _ => none

/-- The usual directories. -/
def usualDirectories : List Place := [
  ["boot"], ["dev"], ["etc"], ["home"], ["media"], ["mnt"], ["opt"], ["proc"], ["root"], ["run"],
  ["srv"], ["sys"], ["tmp"], ["usr"], ["usr", "bin"], ["usr", "include"], ["usr", "lib"],
  ["usr", "local"], ["usr", "local", "bin"], ["usr", "sbin"], ["usr", "share"], ["var"],
  ["var", "tmp"]]

/-- The permission bits of a program. -/
def programMode : Mode := 0o755

/-- The bytes that programs begin with. -/
def programBytes : List UInt8 := [0x7f, 0x45, 0x4c, 0x46]

/-- What every machine has installed. -/
def installed : List (Place × Node) :=
  usualDirectories.map (fun place => (place, .directory Disk.directoryMode)) ++
    [(["bin"], .link "usr/bin"), (["sbin"], .link "usr/sbin"), (["lib"], .link "usr/lib"),
      (programPlace ++ ["sh"], .link "dash"),
      (["etc", "passwd"], .file [] Disk.fileMode)] ++
    installedPrograms.map fun entry =>
      (programPlace ++ [entry.1], .file programBytes programMode)

/-- The disk with everything installed for which there is room. -/
def furnish (disk : Disk) : Disk :=
  ⟨disk.entries ++ installed.filter fun entry => (disk.entries.lookup entry.1).isNone⟩

/-- The disk `after` without what `furnish` added to `before` and what came to lie in there. -/
def clear (before after : Disk) : Disk :=
  let tops := (installed.filterMap fun entry => entry.1.head?).filter fun name =>
    (before.entries.lookup [name]).isNone
  ⟨after.entries.filter fun entry => !(entry.1.head?.any tops.contains)⟩

end Bindery.Compiler
