/-
This file finds the path without links and points that leads to the same entry as a given one.
What does not exist is kept as it is written, and so is what the process may not look at. A link
that leads back to itself stays in the result, followed by the names that were left.
-/

import Bindery.Disk.Walk

namespace Bindery.Disk

/-- One name up in writing: what cannot be taken back is written as two points. -/
def up (path : Path) : Path :=
  match path.parts.getLast? with
  | none => if path.isAbsolute then path else ⟨path.anchor, [".."]⟩
  | some ".." => ⟨path.anchor, path.parts ++ [".."]⟩
  | some _ => path.parent

/-- The links that were met, each with its resolved path once that is known. -/
abbrev Met := List (Path × Option Path)

/-- A path resolved as far as possible: whether nothing is left of it, and the links met. -/
structure Resolved where
  path : Path
  complete : Bool
  met : Met

/-- What a path becomes when names are left that cannot be resolved. -/
def withRest (path : Path) (rest : List String) : Path := path ++ Path.parse (Text.join "/" rest)

/-- Where the names of a link's target start from, seen from the path that holds the link. -/
def targetStart (path : Path) (target : String) : Path :=
  if target.toList.head? = some '/' then ⟨.root, []⟩ else path

/-- The target of the link that is seen at a path itself. -/
def seenLink? (disk : Disk) (hidden : Path → Bool) (here : Place) (path : Path) : Option String :=
  match disk.nodeAt here false path with
  | .ok (.link target) => if hidden path then none else some target
  | _ => none

/-- Resolves names that follow a resolved path. The targets of links are resolved by
`follow`. -/
def resolveNames (disk : Disk) (hidden : Path → Bool) (here : Place)
    (follow : Met → Path → List String → Resolved) :
    Met → Path → (names : List String) → Resolved
  | met, path, [] => ⟨path, true, met⟩
  | met, path, name :: rest =>
    if name = "" ∨ name = "." then resolveNames disk hidden here follow met path rest
    else if name = ".." then resolveNames disk hidden here follow met (up path) rest
    else
      let next : Path := ⟨path.anchor, path.parts ++ [name]⟩
      match disk.seenLink? hidden here next with
      | some target =>
        match met.lookup next with
        | some (some resolved) => resolveNames disk hidden here follow met resolved rest
        | some none => ⟨withRest next rest, false, met⟩
        | none =>
          let inner :=
            follow ((next, none) :: met) (targetStart path target) (Text.cut '/' target)
          if inner.complete then
            resolveNames disk hidden here follow ((next, some inner.path) :: inner.met) inner.path
              rest
          else ⟨withRest inner.path rest, false, inner.met⟩
      | none => resolveNames disk hidden here follow met next rest

/-- Resolves names, with links inside links up to a depth. -/
def resolveDeep (disk : Disk) (hidden : Path → Bool) (here : Place) :
    (depth : Nat) → Met → Path → List String → Resolved
  | 0 => resolveNames disk hidden here fun met path names => ⟨withRest path names, false, met⟩
  | depth + 1 => resolveNames disk hidden here (resolveDeep disk hidden here depth)

/-- A depth that links inside links do not reach unless one leads back to itself: each link has
an absolute form and one for each number of directories that a relative form goes up. -/
def depthBound (disk : Disk) (here : Place) : Nat := (disk.size + 1) * (here.length + 2)

/-- The names with each pair of a name and the two points after it struck out. -/
def collapse (names : List String) : List String :=
  (names.foldl step []).reverse
where
  /-- Adds a name to the reversed names so far. -/
  step (back : List String) (name : String) : List String :=
    if name = ".." then back.drop 1 else name :: back

/-- The path without links and points that leads where `path` leads. -/
def realPath (disk : Disk) (hidden : Path → Bool) (here : Place) (path : Path) : Path :=
  let start : Path := if path.isAbsolute then ⟨.root, []⟩ else ⟨.relative, []⟩
  let found := (resolveDeep disk hidden here (disk.depthBound here) [] start path.parts).path
  let whole := Path.absolute ⟨.root, here⟩ found
  ⟨whole.anchor, collapse whole.parts⟩

end Bindery.Disk
