/-
This file proves that a finished package refers to its own modules from within.

Every line by which a module imported another generated module under another name, by an absolute
name, became a relative import. Resolved from the package of the importing module it denotes the
module that was named before, whose file is there, and every directory on the way to a module is a
package. A dotted name that is imported without a package is not taken for the name of a module, so
that such a line stays.
-/

import Bindery.Proofs.Package.Rework
import Mathlib.Data.List.Forall2

namespace Bindery

open Text

/-! ### Fields of dotted names -/

theorem Text.fields_append_separator (separator : Char) (text rest : List Char) :
    fields separator (text ++ separator :: rest) =
      fields separator text ++ fields separator rest := by
  induction text with
  | nil => simp [fields]
  | cons c others inductionHypothesis =>
    rw [List.cons_append, fields, fields, inductionHypothesis]
    split
    next => rfl
    next =>
      obtain ⟨field, more, shape⟩ := List.exists_cons_of_ne_nil (fields_ne_nil separator others)
      rw [shape]
      rfl

/-- There is one field more than there are separators. -/
theorem Text.length_fields (separator : Char) (text : List Char) :
    (fields separator text).length = text.count separator + 1 := by
  induction text with
  | nil => rfl
  | cons c rest inductionHypothesis =>
    rw [fields]
    split
    next same => rw [List.length_cons, inductionHypothesis, same, List.count_cons_self]
    next different =>
      rw [List.count_cons_of_ne different, ← inductionHypothesis]
      obtain ⟨field, others, shape⟩ := List.exists_cons_of_ne_nil (fields_ne_nil separator rest)
      rw [shape]
      rfl

namespace Package

/-! ### Relative imports -/

/-- The names of the packages that a module lies in, from the root down. -/
def packageOf (module : String) : List (List Char) := (fields '.' module.toList).dropLast

/-- The module that an import from `points` points and a path denotes in a module of a package, by
the names on the way from the root: one point stands for the package, each further one for the
package above it. Above the root nothing is denoted. -/
def resolve (package : List (List Char)) (points : Nat) (path name : List Char) :
    Option (List (List Char)) :=
  match points with
  | 0 => none
  | up + 1 =>
    if package.length < up then none
    else some (package.take (package.length - up) ++ (if path = [] then [] else fields '.' path) ++
      [name])

/-- From as many points as lead up to the root a path denotes what it denotes from there. -/
theorem resolve_packageOf (module : String) (path name : List Char) :
    resolve (packageOf module) (depth module + 1) path name =
      some ((if path = [] then [] else fields '.' path) ++ [name]) := by
  have length : (packageOf module).length = depth module := by
    rw [packageOf, List.length_dropLast, Text.length_fields]
    rfl
  rw [resolve, length, if_neg (Nat.lt_irrefl _), Nat.sub_self, List.take_zero, List.nil_append]

/-- A line of a module became the relative import, from a path, of the module that it imported. -/
structure Redirected (modules : List String) (tree : Tree) (module : String) (old new : List Char)
    (found : ImportLine) (path : List Char) : Prop where
  imports : Imports modules old found
  form : new = "from ".toList ++ List.replicate (depth module + 1) '.' ++ path ++
    " import ".toList ++ found.name ++ " as ".toList ++ found.given
  beginsAtName : path.head? ≠ some '.'
  denotes : resolve (packageOf module) (depth module + 1) path found.name =
    some (fields '.' found.target)
  there : ∃ bytes mode,
    tree (fileOf (String.ofList found.target) sourceSuffix) = some (.file bytes mode)

/-- What became of the source of a module: no line imports a generated module by its absolute name,
and each line is as it was or imports the same module from within. -/
structure Closed (modules : List String) (tree : Tree) (module : String) (source result : String) :
    Prop where
  closed : ∀ line ∈ fields '\n' result.toList, ∀ found, ¬ Imports modules line found
  lines : List.Forall₂
    (fun old new => new = old ∨ ∃ found path, Redirected modules tree module old new found path)
    (fields '\n' source.toList) (fields '\n' result.toList)

/-- The path and the name of a relative import make the dotted name of the module. -/
theorem fields_target {line : ImportLine} (written : line.IsWritten) :
    (if line.package.getD [] = [] then [] else fields '.' (line.package.getD [])) ++ [line.name] =
      fields '.' line.target := by
  have noPoint : '.' ∉ line.name := fun member =>
    absurd (ImportLine.isWord_of_isModule written.name '.' member) (by decide)
  obtain ⟨package, name, given⟩ := line
  cases package with
  | none => exact (fields_of_not_mem '.' name noPoint).symm
  | some package =>
    have notEmpty : package ≠ [] := (written.package package rfl).1
    rw [Option.getD_some, if_neg notEmpty, ImportLine.target, Text.fields_append_separator,
      fields_of_not_mem '.' name noPoint]

/-- The package that a generated module is imported from does not begin with a point. -/
theorem Imports.beginsAtName {generated : List String} {line : List Char} {found : ImportLine}
    (undotted : Undotted generated) (imports : Imports generated line found) :
    (found.package.getD []).head? ≠ some '.' := by
  intro atFront
  cases isPackage : found.package with
  | none =>
    rw [isPackage] at atFront
    cases atFront
  | some package =>
    rw [isPackage] at atFront
    obtain ⟨rest, shape⟩ := List.head?_eq_some_iff.mp atFront
    refine undotted _ imports.generates ?_
    rw [String.toList_ofList, ImportLine.target, isPackage]
    dsimp only
    rw [show package = '.' :: rest from shape]
    rfl

theorem redirected_of_imports {modules : List String} {tree : Tree} {module : String}
    {line : List Char} {found : ImportLine} (undotted : Undotted modules)
    (there : ∀ name ∈ modules, ∃ bytes mode,
      tree (fileOf name sourceSuffix) = some (.file bytes mode))
    (imports : Imports modules line found) :
    Redirected modules tree module line (found.relative (dotsFor (depth module))).text found
      (found.package.getD []) := by
  refine ⟨imports, ?_, imports.beginsAtName undotted, ?_, there _ imports.generates⟩
  · rw [ImportLine.text_relative, dotsFor_eq, ← List.replicate_succ]
    simp only [List.append_assoc]
  · rw [resolve_packageOf, fields_target imports.written]

/-- The source of a module after its imports were made relative. -/
theorem closed_relativeImports {modules : List String} {tree : Tree} (undotted : Undotted modules)
    (there : ∀ name ∈ modules, ∃ bytes mode,
      tree (fileOf name sourceSuffix) = some (.file bytes mode)) (module : String)
    (source : String) :
    Closed modules tree module source (relativeImports (depth module) modules source) := by
  have lines : fields '\n' (relativeImports (depth module) modules source).toList =
      (fields '\n' source.toList).map (relativeLine (depth module) modules) := by
    rw [relativeImports, String.toList_ofList, fields_rewriteImports]
  constructor
  · rw [lines]
    intro line member found
    obtain ⟨old, -, rfl⟩ := List.mem_map.mp member
    exact not_imports_relativeLine undotted (depth module) old found
  · rw [lines, List.forall₂_map_right_iff, List.forall₂_same]
    intro old _
    rcases relativeLine_cases undotted (depth module) old with ⟨found, imports, same⟩ | ⟨-, same⟩
    · rw [same]
      exact .inr ⟨found, _, redirected_of_imports undotted there imports⟩
    · exact .inl same

/-! ### Making a package -/

/-- Making a package gives the names of its modules. -/
theorem finalize_value {root : Path} {schemas : List String} {policy : Policy}
    {before after : Machine} {modules : List String}
    (ran : (finalize root schemas policy).on before = (.ok modules, after)) :
    modules = modulesOf schemas := by
  have inTurn : finalize root schemas policy = (do
      finishModules root (modulesOf schemas) (modulesOf schemas)
      if policy.zeroCopyBuffers then
        Action.writeText (root.child (buffersName ++ sourceSuffix)) buffersText
      Action.writeText (root.child initName) (initText (modulesOf schemas) policy)) >>= fun _ =>
        pure (modulesOf schemas) := by
    unfold finalize
    cases policy.zeroCopyBuffers <;>
      simp only [bind_assoc, if_true, Bool.false_eq_true, if_false] <;> rfl
  rw [inTurn, Action.on_bind] at ran
  split at ran
  next =>
    cases ran
    rfl
  next => cases ran

/-- Where a package could be made, every module was written and refers to the others from within,
and every directory on the way to a module is a package. -/
theorem finalize_closes_imports {root : Path} {top : Place} {schemas : List String}
    {policy : Policy} {before after : Machine} {modules : List String}
    (rooted : Disk.Rooted before.host.here root top before.disk)
    (full : ∀ schema ∈ schemas, IsFull (moduleName schema))
    (ran : (finalize root schemas policy).on before = (.ok modules, after)) :
    modules = modulesOf schemas ∧ Disk.Rooted before.host.here root top after.disk ∧
      (∀ module ∈ modules, after.disk.tree top (fileOf module sourceSuffix) ≠ none ∧
        ∀ suffix ∈ moduleSuffixes, after.disk.tree top (fileOf module suffix) ≠ none →
          ∃ bytes mode source result,
            before.disk.tree top (fileOf module suffix) = some (.file bytes mode) ∧
            textOf bytes = .ok source ∧
            after.disk.tree top (fileOf module suffix) = some (.file (bytesOf result) mode) ∧
            Closed modules (after.disk.tree top) module (withUnixLines source) result) ∧
      after.disk.tree top [initName] ≠ none ∧
      ∀ module ∈ modules, ∀ package, package <+: (pieces module).dropLast →
        after.disk.tree top (package ++ [initName]) ≠ none := by
  cases finalize_value ran
  have fullModules : ∀ name ∈ modulesOf schemas, IsFull name := by
    intro name member
    obtain ⟨schema, inSchemas, rfl⟩ := List.mem_map.mp ((sorted_perm _).mem_iff.mp member)
    exact full schema inSchemas
  have untouched : (Disk.Rooted.ground before.host.here root top).Untouched before := ⟨rfl, rooted⟩
  have reworked := (Disk.Ground.reworks_finalize schemas policy before untouched).of_on ran
  obtain ⟨demanded, changed⟩ := reworked.succeeded _ rfl
  replace changed : after.disk.tree top = Tree.finish (modulesOf schemas) policy
      (before.disk.tree top) := changed
  replace demanded : ∀ name ∈ modulesOf schemas, (before.disk.tree top).HasModule name := demanded
  have there : ∀ name ∈ modulesOf schemas, ∃ bytes mode,
      after.disk.tree top (fileOf name sourceSuffix) = some (.file bytes mode) := by
    intro name isModule
    obtain ⟨_, found, -⟩ := (demanded name isModule).1
    obtain ⟨bytes, mode, source, -, -, finished⟩ := Tree.finish_text fullModules policy isModule
      (demanded name isModule) (show sourceSuffix ∈ moduleSuffixes by decide)
      (by simp [found])
    exact ⟨_, mode, changed ▸ finished⟩
  refine ⟨rfl, reworked.untouched.2, fun module isModule => ⟨?_, fun suffix isSuffix present => ?_⟩,
    ?_, fun module isModule package above => ?_⟩
  · obtain ⟨bytes, mode, found⟩ := there module isModule
    rw [found]
    exact Option.some_ne_none _
  · have thereBefore : before.disk.tree top (fileOf module suffix) ≠ none := by
      rw [changed, Tree.finish_file fullModules policy isModule isSuffix] at present
      exact fun absent => present (by rw [absent]; rfl)
    obtain ⟨bytes, mode, source, found, decoded, finished⟩ := Tree.finish_text fullModules policy
      isModule (demanded module isModule) isSuffix thereBefore
    exact ⟨bytes, mode, source, _, found, decoded, changed ▸ finished,
      closed_relativeImports (undotted_of_isFull fullModules) there module _⟩
  · rw [changed]
    exact Tree.finish_ne_none_iff.mpr (.inl (.inl rfl))
  · rw [changed]
    refine Tree.finish_ne_none_iff.mpr (.inl ?_)
    by_cases atRoot : package = []
    · exact .inl (by rw [atRoot]; rfl)
    · exact .inr (.inr ⟨module, isModule, package, mem_packagesOf.mpr ⟨atRoot, above⟩, rfl⟩)

/-! ### A package of two modules -/

/-- A machine on which the compiler wrote two modules, one of them in a package. -/
def twoModules (top inner : String) : Machine :=
  Machine.fresh {} ⟨[
    (["p"], .directory Disk.directoryMode),
    (["p", "x_pb2.py"], .file (bytesOf top) Disk.fileMode),
    (["p", "a"], .directory Disk.directoryMode),
    (["p", "a", "b_pb2.py"], .file (bytesOf inner) Disk.fileMode)]⟩

/-- Making a package of the two modules. -/
def finalizeTwo (before : Machine) : Except Failure (List String) × Machine :=
  (finalize (Path.parse "/p") ["x.proto", "a/b.proto"] .standard).on before

/-- The directory that the inner module lies in becomes a package. -/
theorem inner_directory_is_package :
    (finalizeTwo (twoModules "from a import b_pb2 as q\n" "import x_pb2 as x\n")).2.disk.tree ["p"]
      ["a", "__init__.py"] ≠ none := by
  have rooted : Disk.Rooted [] (Path.parse "/p") ["p"]
      (twoModules "from a import b_pb2 as q\n" "import x_pb2 as x\n").disk :=
    ⟨Disk.isTree_of_entries (by decide +kernel), Disk.hasDirectory_top _,
      ⟨Disk.directoryMode, by decide +kernel⟩,
      fun place target _ => Disk.linkless_of_entries (by decide +kernel) place target⟩
  have ran : (finalize (Path.parse "/p") ["x.proto", "a/b.proto"] .standard).on
      (twoModules "from a import b_pb2 as q\n" "import x_pb2 as x\n") =
        (.ok ["a.b_pb2", "x_pb2"], (finalizeTwo
          (twoModules "from a import b_pb2 as q\n" "import x_pb2 as x\n")).2) :=
    Action.on_eq (by decide +kernel)
  exact (finalize_closes_imports rooted (by decide +kernel) ran).2.2.2.2 "a.b_pb2"
    (by decide) ["a"] (by decide +kernel)

/-- A module that is imported by its dotted name, without a package, is still imported so. -/
theorem dotted_import_stays :
    (∀ schema ∈ ["x.proto", "a/b.proto"], IsFull (moduleName schema)) ∧
    (finalizeTwo (twoModules "import a.b_pb2 as q\n" "")).1 = .ok ["a.b_pb2", "x_pb2"] ∧
    (finalizeTwo (twoModules "import a.b_pb2 as q\n" "")).2.disk.tree ["p"]
      (fileOf "x_pb2" sourceSuffix) =
        some (.file (bytesOf "import a.b_pb2 as q\n") Disk.fileMode) := by
  decide +kernel

end Package

end Bindery
