/-
This file proves what making imports relative does to the source of a module.

The result has the lines of the source. A line that imports a generated module, without a package
or from one, became the import of it from its place relative to the root, under the name that was
given; in a package as far below the root as was said, that denotes the module that was named
before. Every other line is as it was.

No set of generated modules has one that a relative import names. So making imports relative for
two sets, one after the other, makes them relative for both.
-/

import Bindery.Proofs.Package.Closure
import Bindery.Proofs.Package.Expressions

namespace Bindery.Package

open Text

variable {generated : List String} {line : List Char} {found : ImportLine}

/-! ### What a relative import denotes -/

/-- The module that an import line from a package denotes in a module of a package, both by the
names on the way to them. The points at its front lead up, the rest of it leads down again. -/
def denoted (package : List (List Char)) (line : List Char) : Option (List (List Char)) :=
  (ImportLine.readFrom? line).bind fun found =>
    let front := found.package.getD []
    resolve package (front.takeWhile (· == '.')).length (front.dropWhile (· == '.')) found.name

/-- Wherever the root is placed, a relative import leads from a package below it to what stands
below the root under the dotted name. -/
theorem denoted_relative (written : found.IsWritten)
    (beginsAtName : (found.package.getD []).head? ≠ some '.') (root package : List (List Char)) :
    denoted (root ++ package) (found.relative (dotsFor package.length)).text =
      some (root ++ fields '.' found.target) := by
  have points : ∀ c ∈ List.replicate (package.length + 1) '.', (c == '.') = true := by
    intro c member
    rw [List.eq_of_mem_replicate member]
    rfl
  have stops : (found.package.getD []).takeWhile (· == '.') = [] ∧
      (found.package.getD []).dropWhile (· == '.') = found.package.getD [] := by
    cases shape : found.package.getD [] with
    | nil => exact ⟨rfl, rfl⟩
    | cons c rest =>
      have other : (c == '.') = false := by
        rw [shape] at beginsAtName
        simpa using beginsAtName
      exact ⟨List.takeWhile_cons_of_neg (by simp [other]),
        List.dropWhile_cons_of_neg (by simp [other])⟩
  have dots : dotsFor package.length = List.replicate (package.length + 1) '.' := by
    rw [dotsFor_eq, List.replicate_succ]
  have isRead : ImportLine.readFrom? (found.relative (dotsFor package.length)).text =
      some (found.relative (dotsFor package.length)) :=
    (ImportLine.readFrom?_eq_some_iff _ _).mpr ⟨Option.some_ne_none _,
      written.relative (by simp [dotsFor_eq]) fun c member => eq_point_of_mem_dotsFor member, rfl⟩
  unfold denoted
  rw [isRead]
  show resolve (root ++ package)
    ((dotsFor package.length ++ found.package.getD []).takeWhile (· == '.')).length
    ((dotsFor package.length ++ found.package.getD []).dropWhile (· == '.')) found.name = _
  rw [dots, List.takeWhile_append_of_pos points, List.dropWhile_append_of_pos points, stops.1,
    stops.2, List.append_nil, List.length_replicate, resolve,
    if_neg (by rw [List.length_append]; omega), List.length_append, Nat.add_sub_cancel_right,
    List.take_left, List.append_assoc, fields_target written]

/-! ### Line by line -/

/-- What becomes of a line of a module `depth` packages below the root. -/
structure Reworded (depth : Nat) (generated : List String) (old new : List Char) : Prop where
  /-- An import of a generated module takes on the relative form; the given name is kept. -/
  form : ∀ found, Imports generated old found →
    new = "from ".toList ++ List.replicate (depth + 1) '.' ++ found.package.getD [] ++
      " import ".toList ++ found.name ++ " as ".toList ++ found.given
  /-- The new import denotes the module that the old one named, from the root on. -/
  meaning : ∀ found, Imports generated old found → ∀ root package : List (List Char),
    package.length = depth →
      denoted (root ++ package) new = some (root ++ fields '.' found.target)
  kept : (∀ found, ¬ Imports generated old found) → new = old

theorem reworded_relativeLine (undotted : Undotted generated) (depth : Nat) (line : List Char) :
    Reworded depth generated line (relativeLine depth generated line) where
  form found imports := by
    rw [relativeLine_of_imports undotted depth imports, ImportLine.text_relative, dotsFor_eq,
      ← List.replicate_succ]
    simp only [List.append_assoc]
  meaning := by
    rintro found imports root package rfl
    rw [relativeLine_of_imports undotted _ imports]
    exact denoted_relative imports.written (imports.beginsAtName undotted) root package
  kept := relativeLine_of_not_imports

/-- Replacing in the whole source what the one expression matches, and then in the result what the
other one matches, rewords the source line by line; there are as many lines as before. -/
theorem relativeImports_reworded (undotted : Undotted generated) (depth : Nat) (source : String) :
    relativeImports depth generated source =
        String.ofList (rewriteByExpressions depth generated source.toList) ∧
      List.Forall₂ (Reworded depth generated) (fields '\n' source.toList)
        (fields '\n' (relativeImports depth generated source).toList) := by
  constructor
  · rw [rewriteByExpressions_eq]
    rfl
  · rw [relativeImports, String.toList_ofList, fields_rewriteImports, List.forall₂_map_right_iff,
      List.forall₂_same]
    exact fun line _ => reworded_relativeLine undotted depth line

/-- In a module one package below the root, a module next to that package and one inside of it. -/
theorem two_imports_reworded :
    Undotted ["a.b_pb2", "x_pb2"] ∧
    relativeImports (1 : Nat) ["a.b_pb2", "x_pb2"]
      "import x_pb2 as x\nfrom a import b_pb2 as q\nimport os" =
        "from .. import x_pb2 as x\nfrom ..a import b_pb2 as q\nimport os" ∧
    List.Forall₂ (Reworded 1 ["a.b_pb2", "x_pb2"])
      ["import x_pb2 as x".toList, "from a import b_pb2 as q".toList, "import os".toList]
      ["from .. import x_pb2 as x".toList, "from ..a import b_pb2 as q".toList,
        "import os".toList] := by
  have undotted : Undotted ["a.b_pb2", "x_pb2"] := by
    unfold Undotted
    decide
  have rewritten : relativeImports (1 : Nat) ["a.b_pb2", "x_pb2"]
      "import x_pb2 as x\nfrom a import b_pb2 as q\nimport os" =
        "from .. import x_pb2 as x\nfrom ..a import b_pb2 as q\nimport os" := by
    decide +kernel
  have old : fields '\n' "import x_pb2 as x\nfrom a import b_pb2 as q\nimport os".toList =
      ["import x_pb2 as x".toList, "from a import b_pb2 as q".toList, "import os".toList] := by
    decide +kernel
  have new : fields '\n' "from .. import x_pb2 as x\nfrom ..a import b_pb2 as q\nimport os".toList =
      ["from .. import x_pb2 as x".toList, "from ..a import b_pb2 as q".toList,
        "import os".toList] := by
    decide +kernel
  have lines := (relativeImports_reworded undotted 1
    "import x_pb2 as x\nfrom a import b_pb2 as q\nimport os").2
  rw [rewritten, old, new] at lines
  exact ⟨undotted, rewritten, lines⟩

/-! ### One set after another -/

/-- No pass for another set changes what was made relative. -/
theorem relativeLine_relative (undotted : Undotted generated) (written : found.IsWritten)
    (depth : Int) :
    relativeLine depth generated (found.relative (dotsFor depth)).text =
      (found.relative (dotsFor depth)).text := by
  have unread : ImportLine.readPlain? (found.relative (dotsFor depth)).text = none := by
    rw [Option.eq_none_iff_forall_ne_some]
    intro other isRead
    obtain ⟨isPlain, -, same⟩ := (ImportLine.readPlain?_eq_some_iff _ _).mp isRead
    obtain ⟨_, name, given⟩ := other
    cases isPlain
    simp [ImportLine.relative, ImportLine.text] at same
  rw [relativeLine, rewriteLine_of_none unread, rewriteLine_relative undotted written]

variable {first second union : List String}

theorem relativeLine_relativeLine (undottedFirst : Undotted first)
    (undottedSecond : Undotted second)
    (members : ∀ name, name ∈ union ↔ name ∈ first ∨ name ∈ second) (depth : Int)
    (line : List Char) :
    relativeLine depth first (relativeLine depth second line) = relativeLine depth union line := by
  have undottedUnion : Undotted union := fun name member =>
    ((members name).mp member).elim (undottedFirst name) (undottedSecond name)
  rcases relativeLine_cases undottedSecond depth line with ⟨found, imports, same⟩ | ⟨others, same⟩
  · have inUnion : Imports union line found :=
      { imports with generates := (members _).mpr (.inr imports.generates) }
    rw [same, relativeLine_relative undottedFirst imports.written,
      relativeLine_of_imports undottedUnion depth inUnion]
  · rw [same]
    rcases relativeLine_cases undottedFirst depth line with ⟨found, imports, same⟩ | ⟨more, same⟩
    · have inUnion : Imports union line found :=
        { imports with generates := (members _).mpr (.inl imports.generates) }
      rw [same, relativeLine_of_imports undottedUnion depth inUnion]
    · rw [same, relativeLine_of_not_imports fun found imports =>
        ((members _).mp imports.generates).elim
          (fun generates => more found { imports with generates })
          (fun generates => others found { imports with generates })]

theorem relativeImports_inTurn (undottedFirst : Undotted first)
    (undottedSecond : Undotted second)
    (members : ∀ name, name ∈ union ↔ name ∈ first ∨ name ∈ second) (depth : Int)
    (source : String) :
    relativeImports depth first (relativeImports depth second source) =
      relativeImports depth union source := by
  refine congrArg String.ofList ?_
  show joinFields '\n' ((fields '\n' (relativeImports depth second source).toList).map
    (relativeLine depth first)) =
      joinFields '\n' ((fields '\n' source.toList).map (relativeLine depth union))
  rw [relativeImports, String.toList_ofList, fields_rewriteImports, List.map_map]
  exact congrArg _ (List.map_congr_left fun line _ =>
    relativeLine_relativeLine undottedFirst undottedSecond members depth line)

/-- Making imports relative for one set and then for another makes them relative for the union of
both. Doing it again for one set changes nothing, and the order of two sets does not matter. -/
theorem relativeImports_union (undottedFirst : Undotted first) (undottedSecond : Undotted second)
    (depth : Int) (source : String) :
    (∀ union : List String, (∀ name, name ∈ union ↔ name ∈ first ∨ name ∈ second) →
      relativeImports depth first (relativeImports depth second source) =
        relativeImports depth union source) ∧
    relativeImports depth first (relativeImports depth first source) =
      relativeImports depth first source ∧
    relativeImports depth first (relativeImports depth second source) =
      relativeImports depth second (relativeImports depth first source) := by
  refine ⟨fun union members => relativeImports_inTurn undottedFirst undottedSecond members
    depth source, ?_, ?_⟩
  · exact relativeImports_inTurn undottedFirst undottedFirst
      (fun name => (or_self_iff).symm) depth source
  · rw [relativeImports_inTurn undottedFirst undottedSecond
        (fun name => List.mem_append (s := first) (t := second)) depth source,
      relativeImports_inTurn undottedSecond undottedFirst
        (fun name => List.mem_append.trans or_comm) depth source]

/-- An import of each of two modules, made relative for one of them at a time. -/
theorem two_sets_in_turn :
    (Undotted ["x_pb2"] ∧ Undotted ["a.b_pb2"]) ∧
    (relativeImports 0 ["x_pb2"]
      (relativeImports 0 ["a.b_pb2"] "import x_pb2 as x\nfrom a import b_pb2 as q\n") =
        relativeImports 0 ["a.b_pb2", "x_pb2"]
          "import x_pb2 as x\nfrom a import b_pb2 as q\n") ∧
    relativeImports 0 ["a.b_pb2", "x_pb2"] "import x_pb2 as x\nfrom a import b_pb2 as q\n" =
      "from . import x_pb2 as x\nfrom .a import b_pb2 as q\n" := by
  have undottedFirst : Undotted ["x_pb2"] := by
    unfold Undotted
    decide
  have undottedSecond : Undotted ["a.b_pb2"] := by
    unfold Undotted
    decide
  refine ⟨⟨undottedFirst, undottedSecond⟩, ?_, by decide +kernel⟩
  refine (relativeImports_union undottedFirst undottedSecond 0 _).1 _ fun name => ?_
  rw [List.mem_cons, or_comm, List.mem_singleton, List.mem_singleton]

end Bindery.Package
