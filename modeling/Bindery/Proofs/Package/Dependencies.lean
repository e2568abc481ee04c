/-
This file says which imports of generated modules stay absolute.

The compiler writes the dependency of a module on another one in one of four forms: as an import
of the module under another name, with its package or without one, and, for the names that the
module passes on, as an import of all names or of each. Only the first two are made relative. The
names that a module passes on are imported by the absolute name of the module that they are from.
-/

import Bindery.Proofs.Package.Imports

namespace Bindery.Package

open Text

/-- A line by which the compiler writes that a module depends on another one. -/
inductive Dependency where
  /-- The module, which lies at the top: `import N as A`. -/
  | plain (name given : List Char)
  /-- The module, which lies in a package: `from P import N as A`. -/
  | within (package name given : List Char)
  /-- All names of the module: `from T import *`. -/
  | everything (module : List Char)
  /-- One name of the module: `from T import X as Y`. -/
  | member (module name given : List Char)

namespace Dependency

/-- The written form of a dependency. -/
def text : Dependency → List Char
  | plain name given => ImportLine.text ⟨none, name, given⟩
  | within front name given | member front name given => ImportLine.text ⟨some front, name, given⟩
  | everything module => "from ".toList ++ module ++ " import *".toList

theorem text_plain (name given : List Char) :
    (plain name given).text = ImportLine.text ⟨none, name, given⟩ := rfl

theorem text_within (front name given : List Char) :
    (within front name given).text = ImportLine.text ⟨some front, name, given⟩ := rfl

theorem text_everything (module : List Char) :
    (everything module).text = "from ".toList ++ module ++ " import *".toList := rfl

theorem text_member (front name given : List Char) :
    (member front name given).text = ImportLine.text ⟨some front, name, given⟩ := rfl

/-- The dotted name of the module that is depended on. -/
def module : Dependency → List Char
  | plain name _ => name
  | within package name _ => package ++ '.' :: name
  | everything module | member module _ _ => module

/-- Names are made of word characters, dotted names of word characters and points. -/
def IsWritten : Dependency → Prop
  | plain name given => ImportLine.isName name = true ∧ ImportLine.isName given = true
  | within front name given | member front name given =>
    (front ≠ [] ∧ ∀ c ∈ front, ImportLine.inPackage c = true) ∧
      ImportLine.isName name = true ∧ ImportLine.isName given = true
  | everything module => module ≠ [] ∧ ∀ c ∈ module, ImportLine.inPackage c = true

/-- What is imported under another name is called like a generated module and is one. -/
def ImportsModule (generated : List String) : Dependency → Prop
  | plain name _ => ImportLine.isModule name = true ∧ String.ofList name ∈ generated
  | within front name _ | member front name _ =>
    ImportLine.isModule name = true ∧ String.ofList (front ++ '.' :: name) ∈ generated
  | everything _ => False

variable {generated : List String}

theorem not_text_everything {module : List Char}
    (inPackages : ∀ c ∈ module, ImportLine.inPackage c = true) {found : ImportLine}
    (written : found.IsWritten) : found.text ≠ (everything module).text := by
  obtain ⟨package, name, given⟩ := found
  intro same
  cases package with
  | none =>
    have heads : some 'i' = some 'f' := congrArg List.head? same
    exact absurd heads (by decide)
  | some package =>
    have fronts : package ++ ' ' :: ("import ".toList ++ (name ++ " as ".toList ++ given)) =
        module ++ ' ' :: "import *".toList := by
      simpa [ImportLine.text, text_everything] using same
    obtain ⟨-, rest⟩ := eq_of_append_eq (written.package package rfl).2 inPackages
      (show ImportLine.inPackage ' ' = false by decide) fronts
    have star : name ++ " as ".toList ++ given = ['*'] := List.append_cancel_left rest
    have named : name ≠ [] := by
      rintro rfl
      exact absurd (show ImportLine.isModule [] = true from written.name) (by decide)
    obtain ⟨first, others, shape⟩ := List.exists_cons_of_ne_nil named
    rw [shape] at star
    have isStar : first = '*' := (List.cons.inj star).1
    have isWord := ImportLine.isWord_of_isModule written.name first (shape ▸ List.mem_cons_self)
    rw [isStar] at isWord
    exact absurd isWord (by decide)

/-- A line that imports something under another name is an import of a generated module when what
it imports is called like one and is one. -/
theorem exists_imports_text_iff (line : ImportLine) (words : ∀ c ∈ line.name, isWord c = true)
    (isGiven : ImportLine.isName line.given = true)
    (inPackages : ∀ package, line.package = some package →
      package ≠ [] ∧ ∀ c ∈ package, ImportLine.inPackage c = true) :
    (∃ found, Imports generated line.text found) ↔
      ImportLine.isModule line.name = true ∧ String.ofList line.target ∈ generated := by
  constructor
  · rintro ⟨found, written, same, generates⟩
    have spelled : line.IsSpelled := ⟨words, fun package same => (inPackages package same).2⟩
    cases written.isSpelled.eq_of_text_eq spelled same
    exact ⟨written.name, generates⟩
  · rintro ⟨named, generates⟩
    exact ⟨line, ⟨named, isGiven, inPackages⟩, rfl, generates⟩

theorem imports_text_iff {dependency : Dependency} (written : dependency.IsWritten) :
    (∃ found, Imports generated dependency.text found) ↔ dependency.ImportsModule generated := by
  cases dependency with
  | plain name given =>
    obtain ⟨named, isGiven⟩ := written
    refine exists_imports_text_iff ⟨none, name, given⟩ ((ImportLine.isName_iff name).mp named).2
      isGiven ?_
    intro package impossible
    cases impossible
  | within front name given | member front name given =>
    obtain ⟨inPackages, named, isGiven⟩ := written
    refine exists_imports_text_iff ⟨some front, name, given⟩
      ((ImportLine.isName_iff name).mp named).2 isGiven ?_
    intro package same
    cases same
    exact inPackages
  | everything module =>
    refine ⟨?_, False.elim⟩
    rintro ⟨found, foundWritten, same, -⟩
    exact not_text_everything written.2 foundWritten same

/-- An import that was made relative is from a name that begins with a point. -/
theorem from_ne_relative {front : List Char} (notEmpty : front ≠ [])
    (absolute : front.head? ≠ some '.') (rest : List Char) (depth : Nat) (found : ImportLine) :
    "from ".toList ++ front ++ rest ≠ (found.relative (dotsFor depth)).text := by
  obtain ⟨first, others, rfl⟩ := List.exists_cons_of_ne_nil notEmpty
  rw [ImportLine.text_relative, dotsFor_eq]
  intro same
  simp at same
  exact absolute (by rw [same.1]; rfl)

theorem text_ne_relative {dependency : Dependency} (written : dependency.IsWritten)
    (absolute : dependency.module.head? ≠ some '.') (depth : Nat) (found : ImportLine) :
    dependency.text ≠ (found.relative (dotsFor depth)).text := by
  cases dependency with
  | plain name given =>
    rw [text_plain, ImportLine.text_relative]
    simp [ImportLine.text]
  | within package name given =>
    obtain ⟨⟨notEmpty, -⟩, -⟩ := written
    have atFront : (package ++ '.' :: name).head? = package.head? := by
      cases package with
      | nil => exact absurd rfl notEmpty
      | cons => rfl
    have different := from_ne_relative notEmpty (atFront ▸ absolute)
      (" import ".toList ++ name ++ " as ".toList ++ given) depth found
    simpa [text_within, ImportLine.text] using different
  | everything module => exact from_ne_relative written.1 absolute _ depth found
  | member module name given =>
    have different := from_ne_relative written.1.1 absolute
      (" import ".toList ++ name ++ " as ".toList ++ given) depth found
    simpa [text_member, ImportLine.text] using different

end Dependency

/-- A dependency on a module by its absolute name is in the result exactly when it was in the
source and does not import the module itself under another name. -/
theorem dependency_mem_rewriteImports_iff {generated : List String}
    (undotted : Undotted generated) (depth : Nat) (source : List Char) {dependency : Dependency}
    (written : dependency.IsWritten) (absolute : dependency.module.head? ≠ some '.') :
    dependency.text ∈ fields '\n' (rewriteImports depth generated source) ↔
      dependency.text ∈ fields '\n' source ∧ ¬ dependency.ImportsModule generated := by
  rw [fields_rewriteImports, List.mem_map, ← dependency.imports_text_iff written]
  constructor
  · rintro ⟨line, member, same⟩
    rcases relativeLine_cases undotted depth line with ⟨found, -, relative⟩ | ⟨others, kept⟩
    · exact absurd (same.symm.trans relative)
        (dependency.text_ne_relative written absolute depth found)
    · rw [kept] at same
      rw [← same]
      exact ⟨member, not_exists.mpr others⟩
  · rintro ⟨member, others⟩
    exact ⟨_, member, relativeLine_of_not_imports (not_exists.mp others)⟩

/-- All names of a generated module are still imported by its absolute name. -/
theorem everything_stays_absolute :
    "from x_pb2 import *".toList ∈ fields '\n' (rewriteImports 0 ["x_pb2", "y_pb2"]
      "import y_pb2 as y\nfrom x_pb2 import *\n".toList) := by
  have undotted : Undotted ["x_pb2", "y_pb2"] := by
    unfold Undotted
    decide
  have spelled : "x_pb2".toList.all ImportLine.inPackage = true := by decide
  have written : (Dependency.everything "x_pb2".toList).IsWritten :=
    ⟨by decide, List.all_eq_true.mp spelled⟩
  exact (dependency_mem_rewriteImports_iff undotted 0 _ written (by decide +kernel)).mpr
    ⟨by decide +kernel, id⟩

end Bindery.Package
