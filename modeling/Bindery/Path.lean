/-
This file holds lexical paths: an anchor and the names that follow it. Empty names and single
points vanish when a path is read; two points stay, since what they mean depends on links.
Exactly two leading slashes are an anchor of their own. An absolute path that is appended to
another one replaces it.
-/

import Bindery.Text.Fields
import Bindery.Text.Quoted

namespace Bindery

open Text

/-- Where a path begins. -/
inductive Anchor where
  | relative
  | root
  | doubleRoot
deriving DecidableEq, Repr, Inhabited

/-- The slashes of an anchor. -/
def Anchor.text : Anchor → String
  | .relative => ""
  | .root => "/"
  | .doubleRoot => "//"

/-- A path: where it begins and the names on the way. -/
structure Path where
  anchor : Anchor
  parts : List String
deriving DecidableEq, Repr, Inhabited

/-- What keeps an operation on paths from its result. -/
inductive PathError where
  /-- The text cannot end a name. -/
  | invalidSuffix (suffix : String)
  /-- The path has no last name to change. -/
  | emptyName (path : Path)
  /-- The path does not begin with the names of the base. -/
  | outside (path base : Path)
deriving DecidableEq, Repr

namespace Path

/-! ### Reading and writing -/

/-- The anchor of a text by its leading slashes. -/
def anchorOf (text : List Char) : Anchor :=
  match text with
  | '/' :: '/' :: '/' :: _ => .root
  | '/' :: '/' :: _ => .doubleRoot
  | '/' :: _ => .root
  | _ => .relative

/-- Whether a field between slashes is a name of its own. -/
def isPart (field : List Char) : Bool := field ≠ [] && field ≠ ['.']

/-- The path that a text stands for. -/
def parse (text : String) : Path where
  anchor := anchorOf text.toList
  parts := ((fields '/' text.toList).filter isPart).map String.ofList

/-- The written form without a name for the empty path. -/
def written (path : Path) : String := path.anchor.text ++ join "/" path.parts

/-- The written form. The empty path is written as a point. -/
def text (path : Path) : String :=
  let form := path.written
  if form = "" then "." else form

/-- The written form between quotes. -/
def literal (path : Path) : String := "PosixPath(" ++ quoted path.text ++ ")"

/-- Whether the path does not depend on the working directory. -/
def isAbsolute (path : Path) : Bool := path.anchor ≠ .relative

/-! ### Going up and down -/

/-- The path that is reached from `base` by `path`. -/
def append (base path : Path) : Path :=
  if path.isAbsolute then path else ⟨base.anchor, base.parts ++ path.parts⟩

instance : Append Path := ⟨append⟩

/-- The path one name below `base`, for a text that may itself be a path. -/
def child (base : Path) (name : String) : Path := base ++ parse name

/-- The path without its last name. A path without names is its own parent. -/
def parent (path : Path) : Path := ⟨path.anchor, path.parts.dropLast⟩

/-- The last name, empty if there is none. -/
def name (path : Path) : String := path.parts.getLastD ""

/-- The path with another last name. -/
def withName (path : Path) (name : String) : Path :=
  ⟨path.anchor, path.parts.dropLast ++ [name]⟩

/-- The path seen from a working directory. -/
def absolute (directory path : Path) : Path := directory ++ path

/-! ### The end of a name -/

/-- The part of a name before its suffix. A suffix begins at the last point, provided that
something stands before and after the point. -/
def stemOf (name : List Char) : List Char :=
  let suffixBack := name.reverse.takeWhile (· ≠ '.')
  let stemBack := (name.reverse.dropWhile (· ≠ '.')).drop 1
  if suffixBack = [] || stemBack = [] then name else stemBack.reverse

/-- Whether a text may end a name: it is empty or begins with a point, is not a single point,
and has no slash. -/
def isSuffix (suffix : List Char) : Bool :=
  !suffix.contains '/' && (suffix = [] || suffix.head? = some '.') && suffix ≠ ['.']

/-- The path whose last name has another suffix. -/
def withSuffix (path : Path) (suffix : String) : Except PathError Path :=
  if !isSuffix suffix.toList then .error (.invalidSuffix suffix)
  else if path.name = "" then .error (.emptyName path)
  else .ok (path.withName (String.ofList (stemOf path.name.toList) ++ suffix))

/-! ### One path seen from another -/

/-- What is left of a list that begins with another one. -/
def afterParts? : (front parts : List String) → Option (List String)
  | [], parts => some parts
  | _ :: _, [] => none
  | name :: front, other :: parts => if name = other then afterParts? front parts else none

/-- The path from `base` to `path`, when `path` begins with the names of `base`. -/
def relativeTo? (path base : Path) : Option Path :=
  if path.anchor ≠ base.anchor then none
  else (afterParts? base.parts path.parts).map (⟨.relative, ·⟩)

/-- `relativeTo?` with the error for a path that lies elsewhere. -/
def relativeTo (path base : Path) : Except PathError Path :=
  match path.relativeTo? base with
  | some rest => .ok rest
  | none => .error (.outside path base)

/-- Whether a path begins with the names of `base`. -/
def isBelow (path base : Path) : Bool := (path.relativeTo? base).isSome

theorem afterParts?_eq_some_iff (front parts rest : List String) :
    afterParts? front parts = some rest ↔ parts = front ++ rest := by
  induction front generalizing parts with
  | nil => simp [afterParts?, eq_comm]
  | cons name front inductionHypothesis =>
    cases parts with
    | nil => simp [afterParts?]
    | cons other parts =>
      unfold afterParts?
      split
      next equal => simp [inductionHypothesis, equal]
      next different =>
        simp only [reduceCtorEq, List.cons_append, List.cons.injEq, false_iff, not_and]
        exact fun equal => absurd equal.symm different

/-- A path begins with the names of `base` exactly when it is `base` with more names. -/
theorem relativeTo?_eq_some_iff (path base rest : Path) :
    path.relativeTo? base = some rest ↔
      rest.anchor = .relative ∧ path = ⟨base.anchor, base.parts ++ rest.parts⟩ := by
  obtain ⟨anchor, parts⟩ := path
  obtain ⟨baseAnchor, baseParts⟩ := base
  obtain ⟨restAnchor, restParts⟩ := rest
  unfold relativeTo?
  split
  next different =>
    simp only [reduceCtorEq, false_iff, not_and]
    intro _ equal
    exact different (Path.mk.inj equal).1
  next equal =>
    have same : anchor = baseAnchor := Decidable.byContradiction equal
    simp only [Option.map_eq_some_iff, afterParts?_eq_some_iff, same]
    constructor
    · rintro ⟨names, shape, found⟩
      cases found
      simp [shape]
    · rintro ⟨anchorShape, shape⟩
      exact ⟨restParts, by simpa using shape, by simp_all⟩

end Path

/-- The words for an error on paths. -/
def PathError.message : PathError → String
  | .invalidSuffix suffix => "Invalid suffix " ++ Text.quoted suffix
  | .emptyName path => path.literal ++ " has an empty name"
  | .outside path base =>
    Text.quoted path.text ++ " is not in the subpath of " ++ Text.quoted base.written ++
      " OR one path is relative and the other is absolute."

end Bindery
