/-
This file describes the tree of a finished package.

It is a function of the tree that the compiler wrote, the modules and the policy. The places of the
finished tree are those of the written one and the modules that make packages of directories.
-/

import Bindery.Proofs.Disk.Private
import Bindery.Proofs.Package.Places

namespace Bindery

open Text Package

namespace Tree

/-- The tree with the imports of one file made relative. -/
def rewrite (generated : List String) (depth : Nat) (place : Place) (tree : Tree) : Tree :=
  match tree place with
  | some (.file bytes _) =>
    match textOf bytes with
    | .ok source =>
      tree.write place (bytesOf (relativeImports depth generated (withUnixLines source)))
    | .error _ => tree
  | _ => tree

/-- The tree with the module that makes a directory a package, unless there is one. -/
def mark (tree : Tree) (package : Place) : Tree :=
  if (tree (package ++ [initName])).isSome then tree
  else tree.write (package ++ [initName]) (bytesOf header)

/-- The tree with one module finished. -/
def finishModule (generated : List String) (tree : Tree) (name : String) : Tree :=
  (packagesOf name).foldl mark <|
    rewrite generated (depth name) (fileOf name stubSuffix) <|
      rewrite generated (depth name) (fileOf name sourceSuffix) tree

/-- The place of the support module. -/
def buffersPlace : Place := [buffersName ++ sourceSuffix]

/-- The tree with the support module, if the policy asks for it. -/
def support (policy : Policy) (tree : Tree) : Tree :=
  if policy.zeroCopyBuffers then tree.write buffersPlace (bytesOf buffersText) else tree

/-- The tree of a finished package. -/
def finish (modules : List String) (policy : Policy) (tree : Tree) : Tree :=
  (support policy (modules.foldl (finishModule modules) tree)).write [initName]
    (bytesOf (initText modules policy))

/-! ### Places of finished trees -/

theorem write_ne_none_iff {tree : Tree} {place other : Place} {bytes : List UInt8} :
    tree.write place bytes other ≠ none ↔ other = place ∨ tree other ≠ none := by
  unfold write
  by_cases same : other = place
  · simp [same]
  · simp [same]

theorem rewrite_ne_none_iff {generated : List String} {depth : Nat} {tree : Tree}
    {place other : Place} :
    rewrite generated depth place tree other ≠ none ↔ tree other ≠ none := by
  unfold rewrite
  cases found : tree place with
  | none => exact Iff.rfl
  | some node =>
    cases node with
    | directory | link => exact Iff.rfl
    | file bytes mode =>
      dsimp only
      cases textOf bytes with
      | error fault => exact Iff.rfl
      | ok source =>
        dsimp only
        rw [write_ne_none_iff]
        constructor
        · rintro (rfl | there)
          · rw [found]
            exact Option.some_ne_none _
          · exact there
        · exact .inr

theorem mark_ne_none_iff {tree : Tree} {package other : Place} :
    mark tree package other ≠ none ↔ other = package ++ [initName] ∨ tree other ≠ none := by
  unfold mark
  split
  next there =>
    refine ⟨.inr, ?_⟩
    rintro (rfl | found)
    · exact Option.isSome_iff_ne_none.mp there
    · exact found
  next => exact write_ne_none_iff

theorem foldl_mark_ne_none_iff {tree : Tree} {packages : List Place} {other : Place} :
    packages.foldl mark tree other ≠ none ↔
      (∃ package ∈ packages, other = package ++ [initName]) ∨ tree other ≠ none := by
  induction packages generalizing tree with
  | nil => simp
  | cons package rest inductionHypothesis =>
    rw [List.foldl_cons, inductionHypothesis, mark_ne_none_iff]
    simp only [List.mem_cons, exists_eq_or_imp]
    exact or_left_comm.trans or_assoc.symm

theorem foldl_finishModule_ne_none_iff {generated modules : List String} {tree : Tree}
    {other : Place} : modules.foldl (finishModule generated) tree other ≠ none ↔
      (∃ name ∈ modules, ∃ package ∈ packagesOf name, other = package ++ [initName]) ∨
        tree other ≠ none := by
  induction modules generalizing tree with
  | nil => simp
  | cons name rest inductionHypothesis =>
    rw [List.foldl_cons, inductionHypothesis, finishModule, foldl_mark_ne_none_iff,
      rewrite_ne_none_iff, rewrite_ne_none_iff]
    simp only [List.mem_cons, exists_eq_or_imp]
    exact or_left_comm.trans or_assoc.symm

/-- The places that finishing a package adds: the module of the package itself and of every
directory above a module, and the support module if the policy asks for it. -/
def Added (modules : List String) (policy : Policy) (place : Place) : Prop :=
  place = [initName] ∨ policy.zeroCopyBuffers = true ∧ place = buffersPlace ∨
    ∃ name ∈ modules, ∃ package ∈ packagesOf name, place = package ++ [initName]

/-- Finishing a package adds these places and takes none away. -/
theorem finish_ne_none_iff {modules : List String} {policy : Policy} {tree : Tree}
    {place : Place} : finish modules policy tree place ≠ none ↔
      Added modules policy place ∨ tree place ≠ none := by
  have supported : support policy (modules.foldl (finishModule modules) tree) place ≠ none ↔
      (policy.zeroCopyBuffers = true ∧ place = buffersPlace) ∨
        modules.foldl (finishModule modules) tree place ≠ none := by
    unfold support
    split
    next asked => simp [write_ne_none_iff, asked]
    next notAsked => simp [notAsked]
  rw [finish, write_ne_none_iff, supported, foldl_finishModule_ne_none_iff]
  unfold Added
  constructor
  · rintro (top | buffers | marked | there)
    · exact .inl (.inl top)
    · exact .inl (.inr (.inl buffers))
    · exact .inl (.inr (.inr marked))
    · exact .inr there
  · rintro ((top | buffers | marked) | there)
    · exact .inl top
    · exact .inr (.inl buffers)
    · exact .inr (.inr (.inl marked))
    · exact .inr (.inr (.inr there))

/-! ### Files of finished trees -/

/-- There is a file at a place of a tree. -/
def HasFile (tree : Tree) (place : Place) : Prop :=
  ∃ bytes mode, tree place = some (.file bytes mode)

section

variable {tree : Tree} {place : Place}

theorem HasFile.write (there : tree.HasFile place) (other : Place) (bytes : List UInt8) :
    (tree.write other bytes).HasFile place := by
  obtain ⟨old, mode, found⟩ := there
  unfold HasFile Tree.write
  by_cases same : place = other
  · rw [if_pos same]
    exact ⟨bytes, _, rfl⟩
  · rw [if_neg same]
    exact ⟨old, mode, found⟩

theorem HasFile.rewrite (there : tree.HasFile place) (generated : List String) (depth : Nat)
    (other : Place) : (Tree.rewrite generated depth other tree).HasFile place := by
  unfold Tree.rewrite
  split
  next =>
    split
    next => exact there.write _ _
    next => exact there
  next => exact there

theorem HasFile.foldl_mark (there : tree.HasFile place) (packages : List Place) :
    (packages.foldl mark tree).HasFile place := by
  induction packages generalizing tree with
  | nil => exact there
  | cons package rest inductionHypothesis =>
    refine inductionHypothesis ?_
    unfold mark
    split
    next => exact there
    next => exact there.write _ _

theorem HasFile.foldl_finishModule (there : tree.HasFile place) (generated modules : List String) :
    (modules.foldl (Tree.finishModule generated) tree).HasFile place := by
  induction modules generalizing tree with
  | nil => exact there
  | cons name rest inductionHypothesis =>
    exact inductionHypothesis (((there.rewrite _ _ _).rewrite _ _ _).foldl_mark _)

/-- Where there was a file, there is one in the finished package. -/
theorem HasFile.finish (there : tree.HasFile place) (modules : List String) (policy : Policy) :
    (Tree.finish modules policy tree).HasFile place := by
  have finished := there.foldl_finishModule modules modules
  refine HasFile.write ?_ _ _
  unfold support
  split
  next => exact finished.write _ _
  next => exact finished

end

end Tree

end Bindery
