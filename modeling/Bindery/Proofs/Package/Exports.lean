/-
This file compares the names that a package takes from its schemas with those of its helpers.

The package's own module imports the first word of every module's name, each of them once, and then
the helpers from the support module; the names that it exports are the same, in that order. Of two
imports of one name the last one stays. So the names are different, and each stays what it was
imported as first, exactly if no module's name begins with that of a helper. The support module is
a file of the package, but a directory of its name that is a package comes before it; there is one
exactly if a module lies in a directory of that name.
-/

import Bindery.Proofs.Package.Effect
import Bindery.Proofs.Package.Views

namespace Bindery

open Text

namespace Package

variable {modules schemas : List String} {schema name : String} {policy : Policy}
  {emission : Tree}

/-! ### Names in increasing order, each once -/

theorem insertName_pairwise (name : String) {names : List String}
    (increasing : names.Pairwise (· < ·)) : (insertName name names).Pairwise (· < ·) := by
  induction increasing with
  | nil => exact List.pairwise_singleton _ _
  | @cons first rest below increasing inductionHypothesis =>
    unfold insertName
    split
    next less =>
      refine .cons (fun other member => ?_) (.cons below increasing)
      rcases List.mem_cons.mp member with rfl | later
      · exact less
      · exact String.lt_trans less (below other later)
    next notLess =>
      split
      next => exact .cons below increasing
      next different =>
        have greater : first < name := by
          by_contra notGreater
          exact different
            (String.le_antisymm (String.not_lt.mp notGreater) (String.not_lt.mp notLess))
        refine .cons (fun other member => ?_) inductionHypothesis
        rcases mem_insertName.mp member with rfl | later
        · exact greater
        · exact below other later

theorem nameSet_pairwise (names : List String) : (nameSet names).Pairwise (· < ·) := by
  induction names with
  | nil => exact .nil
  | cons first rest inductionHypothesis => exact insertName_pairwise first inductionHypothesis

/-- Every name at the top of the package is imported once. -/
theorem nodup_topNames (modules : List String) : (topNames modules).Nodup :=
  (nameSet_pairwise _).imp String.ne_of_lt

/-! ### What the package's own module imports and exports -/

/-- A line that imports names from a module of the package, or from the package itself. -/
structure FromImport where
  source : String
  names : List String

/-- The text of such a line. -/
def FromImport.line (found : FromImport) : String :=
  "from ." ++ found.source ++ " import " ++ join ", " found.names

/-- The imports of the package's own module. -/
def importsOf (modules : List String) (policy : Policy) : List FromImport :=
  (topNames modules).map (fun name => ⟨"", [name]⟩) ++
    if policy.zeroCopyBuffers then [⟨buffersName, bufferHelpers⟩] else []

/-- The text of a package's own module that has some imports and exports. -/
def packageText (imports : List FromImport) (exports : List String) : String :=
  join "\n" ([headerLine,
      "\"\"\"Python bindings for the client wire protocol schemas.\"\"\"", ""] ++
    imports.map FromImport.line ++ ["", "__all__ = ["] ++ exports.map exportLine ++ ["]", ""])

/-- The text that is written is that of these imports and exports. -/
theorem initText_eq (modules : List String) (policy : Policy) :
    initText modules policy =
      packageText (importsOf modules policy) (exportedNames modules policy) := by
  have lines : (importsOf modules policy).map FromImport.line = (topNames modules).map importLine ++
      if policy.zeroCopyBuffers then [helpersLine] else [] := by
    rw [importsOf, List.map_append, List.map_map]
    cases policy.zeroCopyBuffers <;> rfl
  rw [initText, initLines, packageText, lines]
  simp only [List.append_assoc]

/-- Where a name was imported from once all imports were made: the last one of it stays. -/
def boundFrom (imports : List FromImport) (name : String) : Option String :=
  (imports.reverse.find? (name ∈ ·.names)).map FromImport.source

/-- A helper stays what the support module offers. -/
theorem boundFrom_helper (asked : policy.zeroCopyBuffers = true) (isHelper : name ∈ bufferHelpers)
    (modules : List String) : boundFrom (importsOf modules policy) name = some buffersName := by
  rw [boundFrom, importsOf, if_pos asked, List.reverse_concat, List.find?_cons_of_pos]
  · rfl
  · exact decide_eq_true isHelper

/-- Any other name at the top stays what lies there. -/
theorem boundFrom_top (isTop : name ∈ topNames modules) (notHelper : name ∉ bufferHelpers) :
    boundFrom (importsOf modules policy) name = some "" := by
  have fromTop : ∀ found ∈ importsOf modules policy, name ∈ found.names → found.source = "" := by
    intro found member imports
    rcases List.mem_append.mp member with top | support
    · obtain ⟨other, -, rfl⟩ := List.mem_map.mp top
      rfl
    · split at support
      next =>
        rw [List.mem_singleton.mp support] at imports
        exact absurd imports notHelper
      next => cases support
  have imported : ⟨"", [name]⟩ ∈ importsOf modules policy :=
    List.mem_append_left _ (List.mem_map_of_mem isTop)
  have there : ((importsOf modules policy).reverse.find? (name ∈ ·.names)).isSome := by
    rw [List.find?_isSome]
    exact ⟨_, List.mem_reverse.mpr imported, by simp⟩
  obtain ⟨found, isFound⟩ := Option.isSome_iff_exists.mp there
  have holds := List.find?_some isFound
  rw [boundFrom, isFound, Option.map_some, fromTop found
    (List.mem_reverse.mp (List.mem_of_find?_eq_some isFound)) (of_decide_eq_true holds)]

/-- The exported names are different exactly if none at the top is that of a helper. -/
theorem nodup_exportedNames_iff (asked : policy.zeroCopyBuffers = true) :
    (exportedNames modules policy).Nodup ↔ ∀ name ∈ topNames modules, name ∉ bufferHelpers := by
  have helpers : bufferHelpers.Nodup := by decide
  rw [exportedNames, if_pos asked, List.nodup_append]
  constructor
  · rintro ⟨-, -, apart⟩ name isTop isHelper
    exact apart name isTop name isHelper rfl
  · intro apart
    exact ⟨nodup_topNames modules, helpers, fun name isTop other isHelper same =>
      apart name isTop (same ▸ isHelper)⟩

/-! ### Names of schemas -/

/-- The name of a schema's module begins with a helper's name. -/
def TakesHelper (schema : String) : Prop :=
  ∃ helper ∈ bufferHelpers, (wordsAbove schema).head? = some helper.toList

/-- At the top, the module of a schema lies in a directory with the name of the support module. -/
def TakesBuffers (schema : String) : Prop :=
  ((wordsAbove schema).filter (· ≠ [])).head? = some buffersName.toList

instance (schema : String) : Decidable (TakesHelper schema) := by
  unfold TakesHelper
  infer_instance

instance (schema : String) : Decidable (TakesBuffers schema) := by
  unfold TakesBuffers
  infer_instance

/-- No helper's name ends like that of a module. -/
theorem append_moduleEnding_ne_helper {helper : String} (isHelper : helper ∈ bufferHelpers)
    (word : List Char) : word ++ moduleEnding ≠ helper.toList := by
  intro same
  have ends : ∀ helper ∈ bufferHelpers, ¬ moduleEnding <:+ helper.toList := by decide
  exact ends helper isHelper (same ▸ List.suffix_append _ _)

theorem topName_mem_bufferHelpers_iff (schema : String) :
    topName (moduleName schema) ∈ bufferHelpers ↔ TakesHelper schema := by
  rw [topName_moduleName, TakesHelper]
  cases words : wordsAbove schema with
  | nil =>
    refine iff_of_false (fun isHelper => ?_) (by simp)
    exact append_moduleEnding_ne_helper isHelper (lastWord schema) (by simp)
  | cons word rest =>
    constructor
    · intro isHelper
      exact ⟨_, isHelper, by simp⟩
    · rintro ⟨helper, isHelper, same⟩
      have word_eq : String.ofList word = helper := by
        rw [Option.some.inj same, String.ofList_toList]
      exact word_eq ▸ isHelper

/-- No name at the top is that of a helper exactly if no schema's module begins with one. -/
theorem topNames_apart_iff :
    (∀ name ∈ topNames (modulesOf schemas), name ∉ bufferHelpers) ↔
      ∀ schema ∈ schemas, ¬ TakesHelper schema := by
  have isTop : ∀ name, name ∈ topNames (modulesOf schemas) ↔
      ∃ schema ∈ schemas, topName (moduleName schema) = name := by
    intro name
    rw [topNames, mem_nameSet, List.mem_map]
    simp [mem_modulesOf]
  simp only [isTop, ← topName_mem_bufferHelpers_iff]
  simp

/-- The names at the top stay what lies there exactly if none is that of a helper. -/
theorem boundFrom_topNames_iff (asked : policy.zeroCopyBuffers = true) :
    (∀ name ∈ topNames modules, boundFrom (importsOf modules policy) name = some "") ↔
      ∀ name ∈ topNames modules, name ∉ bufferHelpers := by
  constructor
  · intro stays name isTop isHelper
    have bound := stays name isTop
    rw [boundFrom_helper asked isHelper] at bound
    exact absurd bound (by decide)
  · exact fun apart name isTop => boundFrom_top isTop (apart name isTop)

/-! ### The directory with the name of the support module -/

/-- A directory at the top that the module of a schema lies in is that of its first word that is
not empty. -/
theorem singleton_mem_packagesOf_iff (schema directory : String) :
    [directory] ∈ packagesOf (moduleName schema) ↔
      ((wordsAbove schema).filter (· ≠ [])).head? = some directory.toList := by
  rw [mem_packagesOf, pieces_of_fields (fields_moduleName schema) (lastWord_append_ne_nil schema),
    List.dropLast_concat]
  cases (wordsAbove schema).filter (· ≠ []) with
  | nil => simp
  | cons word rest =>
    rw [List.map_cons, List.cons_prefix_cons, List.head?_cons, Option.some.injEq,
      ← String.toList_inj, String.toList_ofList, eq_comm]
    simp

/-- The file that is run when a name is imported from a directory: that of a package of this name
comes before that of a module. -/
def importedFrom (tree : Tree) (name : String) : Place :=
  match tree [name, initName] with
  | some (.file ..) => [name, initName]
  | _ => [name ++ sourceSuffix]

/-- Where the compiler made no package, there is one exactly if a module lies in it. -/
theorem importedFrom_buffers_iff (bare : emission [buffersName, initName] = none)
    (policy : Policy) :
    importedFrom (Tree.finish (modulesOf schemas) policy emission) buffersName =
        Tree.buffersPlace ↔
      ∀ name ∈ modulesOf schemas, [buffersName] ∉ packagesOf name := by
  have apart : [buffersName, initName] ≠ Tree.buffersPlace := by decide
  constructor
  · intro reached name isModule isPackage
    have found : Tree.finish (modulesOf schemas) policy emission ([buffersName] ++ [initName]) =
        marked (emission ([buffersName] ++ [initName])) := finish_mark isModule isPackage
    rw [List.singleton_append, bare] at found
    rw [importedFrom, found] at reached
    exact absurd reached apart
  · intro unpackaged
    have absent :
        Tree.finish (modulesOf schemas) policy emission [buffersName, initName] = none := by
      by_contra there
      rcases Tree.finish_ne_none_iff.mp there with (top | ⟨-, buffers⟩ | marked) | emitted
      · exact absurd top (by decide)
      · exact absurd buffers apart
      · obtain ⟨name, isModule, package, isPackage, place⟩ := marked
        have below : [buffersName] ++ [initName] = package ++ [initName] := place
        exact unpackaged name isModule (List.append_cancel_right below ▸ isPackage)
      · exact emitted bare
    rw [importedFrom, absent]
    rfl

/-- No module lies in a directory with the name of the support module exactly if no schema asks for
one. -/
theorem buffers_unpackaged_iff :
    (∀ name ∈ modulesOf schemas, [buffersName] ∉ packagesOf name) ↔
      ∀ schema ∈ schemas, ¬ TakesBuffers schema := by
  simp only [TakesBuffers, ← singleton_mem_packagesOf_iff]
  constructor
  · exact fun unpackaged schema member =>
      unpackaged _ (mem_modulesOf.mpr ⟨schema, member, rfl⟩)
  · intro untaken name isModule
    obtain ⟨schema, member, rfl⟩ := mem_modulesOf.mp isModule
    exact untaken schema member

/-! ### The names of a finished package -/

/-- The names that a package takes from its schemas and those that it takes from the support module,
and which schemas bring them together. -/
structure HelperNames (schemas : List String) (policy : Policy) (emission tree : Tree) : Prop where
  /-- The package's own module has the imports and the exports that are spoken of below. -/
  top : ∃ mode, tree [initName] = some (.file (bytesOf (packageText
    (importsOf (modulesOf schemas) policy) (exportedNames (modulesOf schemas) policy))) mode)
  support : ∃ mode, tree Tree.buffersPlace = some (.file (bytesOf buffersText) mode)
  /-- Every directory that a module lies in is a package. -/
  packages : ∀ name ∈ modulesOf schemas, ∀ package ∈ packagesOf name,
    (∃ mode, tree package = some (.directory mode)) ∧
      tree (package ++ [initName]) = marked (emission (package ++ [initName]))
  helpers : ∀ helper ∈ bufferHelpers,
    boundFrom (importsOf (modulesOf schemas) policy) helper = some buffersName
  distinct : (exportedNames (modulesOf schemas) policy).Nodup ↔
    ∀ schema ∈ schemas, ¬ TakesHelper schema
  apart : (∀ name ∈ topNames (modulesOf schemas), name ∉ bufferHelpers) ↔
    ∀ schema ∈ schemas, ¬ TakesHelper schema
  bound : (∀ name ∈ topNames (modulesOf schemas),
    boundFrom (importsOf (modulesOf schemas) policy) name = some "") ↔
      ∀ schema ∈ schemas, ¬ TakesHelper schema
  unpackaged : (∀ name ∈ modulesOf schemas, [buffersName] ∉ packagesOf name) ↔
    ∀ schema ∈ schemas, ¬ TakesBuffers schema
  /-- Unless the compiler made a package in the way, the helpers come from the support module. -/
  reached : emission [buffersName, initName] = none →
    (importedFrom tree buffersName = Tree.buffersPlace ↔ ∀ schema ∈ schemas, ¬ TakesBuffers schema)

/-- A package that is finished with the support module has such names. -/
theorem helperNames_of_finished {disk : Disk} {place : Place} (isTree : disk.IsTree)
    (asked : policy.zeroCopyBuffers = true)
    (finished : disk.tree place = Tree.finish (modulesOf schemas) policy emission) :
    HelperNames schemas policy emission (disk.tree place) where
  top := by
    rw [finished, ← initText_eq]
    exact ⟨_, finish_init⟩
  support := by
    rw [finished]
    exact ⟨_, finish_buffers asked⟩
  packages := by
    intro name isModule package isPackage
    have marks : disk.tree place (package ++ [initName]) =
        marked (emission (package ++ [initName])) := by
      rw [finished, finish_mark isModule isPackage]
    refine ⟨isTree.hasDirectory_above [initName] (List.cons_ne_nil _ _) ?_, marks⟩
    rw [Disk.tree] at marks
    rw [List.append_assoc, marks, marked]
    simp
  helpers _ isHelper := boundFrom_helper asked isHelper _
  distinct := (nodup_exportedNames_iff asked).trans topNames_apart_iff
  apart := topNames_apart_iff
  bound := (boundFrom_topNames_iff asked).trans topNames_apart_iff
  unpackaged := buffers_unpackaged_iff
  reached bare := by
    rw [finished]
    exact (importedFrom_buffers_iff bare policy).trans buffers_unpackaged_iff

end Package

end Bindery
