/-
This file tells the files of modules apart and follows them while a package is finished.

The name of every module ends as the names of generated modules do, so that no file of a module is
one of the modules that make packages of directories, nor the support module. Names without empty
parts have different files. The files of a module are therefore changed only when that module is
finished, and a second time changes nothing: what is found in the end is what the compiler wrote,
with its imports made relative.
-/

import Bindery.Proofs.Package.Finished
import Bindery.Proofs.Package.Imports
import Bindery.Proofs.Text.Utf8

namespace Bindery

open Text

/-! ### The ends of names -/

/-- What a text ends in, if it holds no separator, is what its last field ends in. -/
theorem Text.fields_append {separator : Char} {back : List Char} (absent : separator ∉ back)
    (stem : List Char) :
    ∃ front last, fields separator (stem ++ back) = front ++ [last ++ back] := by
  induction stem with
  | nil => exact ⟨[], [], fields_of_not_mem separator back absent⟩
  | cons c rest inductionHypothesis =>
    obtain ⟨front, last, shape⟩ := inductionHypothesis
    rw [List.cons_append, fields, shape]
    split
    next => exact ⟨[] :: front, last, rfl⟩
    next =>
      cases front with
      | nil => exact ⟨[], c :: last, rfl⟩
      | cons field others => exact ⟨(c :: field) :: others, last, rfl⟩

namespace Package

theorem joinFields_moduleFields_ending {list : List (List Char)} (some : list ≠ []) :
    ∃ stem, joinFields '.' (moduleFields list) = stem ++ moduleEnding := by
  induction list with
  | nil => exact absurd rfl some
  | cons file others inductionHypothesis =>
    cases others with
    | nil => exact ⟨moduleStem (schemaStem file), rfl⟩
    | cons next more =>
      obtain ⟨stem, shape⟩ := inductionHypothesis (List.cons_ne_nil _ _)
      refine ⟨file ++ '.' :: stem, ?_⟩
      have inTurn : joinFields '.' (moduleFields (file :: next :: more)) =
          file ++ '.' :: joinFields '.' (moduleFields (next :: more)) := by
        cases more <;> rfl
      rw [inTurn, shape, List.append_assoc, List.cons_append]

/-- The last name on the way to a module has the ending of modules. -/
theorem pieces_moduleName (schema : String) :
    ∃ front stem, pieces (moduleName schema) =
      front ++ [String.ofList (stem ++ moduleEnding)] := by
  obtain ⟨stem, shape⟩ := joinFields_moduleFields_ending (fields_ne_nil '/' schema.toList)
  obtain ⟨front, last, cuts⟩ :=
    Text.fields_append (show '.' ∉ moduleEnding by decide) stem
  have notEmpty : String.ofList (last ++ moduleEnding) ≠ "" := by
    intro empty
    rw [String.ofList_eq_empty_iff] at empty
    exact absurd (List.append_eq_nil_iff.mp empty).2 (by decide)
  refine ⟨(front.map String.ofList).filter (· ≠ ""), last, ?_⟩
  have kept : [String.ofList (last ++ moduleEnding)].filter (· ≠ "") =
      [String.ofList (last ++ moduleEnding)] := List.filter_cons_of_pos (decide_eq_true notEmpty)
  rw [pieces, cut, moduleName, String.toList_ofList, shape, cuts, List.map_append,
    List.filter_append, List.map_singleton, kept]

/-- The suffixes of the files of a module. -/
def moduleSuffixes : List String := [sourceSuffix, stubSuffix]

/-- The names of the files that a package has besides those of its modules. -/
def besideNames : List String := [initName, buffersName ++ sourceSuffix]

theorem fileName_ne (stem : List Char) {suffix other : String} (isSuffix : suffix ∈ moduleSuffixes)
    (beside : other ∈ besideNames) : String.ofList (stem ++ moduleEnding) ++ suffix ≠ other := by
  have apart : ∀ suffix ∈ moduleSuffixes, ∀ other ∈ besideNames,
      ¬ moduleEnding ++ suffix.toList <:+ other.toList := by decide
  intro same
  refine apart suffix isSuffix other beside ⟨stem, ?_⟩
  rw [← same, String.toList_append, String.toList_ofList, List.append_assoc]

/-- A file of a module is none of the other files of a package. -/
theorem fileOf_ne {name suffix other : String} {schemas : List String}
    (isModule : name ∈ modulesOf schemas) (isSuffix : suffix ∈ moduleSuffixes)
    (beside : other ∈ besideNames) (package : Place) : fileOf name suffix ≠ package ++ [other] := by
  obtain ⟨schema, -, rfl⟩ := mem_modulesOf.mp isModule
  obtain ⟨front, stem, shape⟩ := pieces_moduleName schema
  intro same
  rw [fileOf, shape, List.dropLast_concat, List.getLastD_concat] at same
  have last := (List.append_inj' same rfl).2
  exact fileName_ne stem isSuffix beside (List.cons.inj last).1

/-! ### Different files for different modules -/

/-- No part of a dotted name is empty. -/
def IsFull (name : String) : Prop := "" ∉ cut '.' name

instance (name : String) : Decidable (IsFull name) := by
  unfold IsFull
  infer_instance

theorem IsFull.pieces_eq {name : String} (full : IsFull name) : pieces name = cut '.' name := by
  rw [pieces, List.filter_eq_self]
  intro piece inside
  have different : piece ≠ "" := fun empty => full (empty ▸ inside)
  simpa using different

/-- A dotted name is known by its parts. -/
theorem eq_of_cut_eq {name other : String} (same : cut '.' name = cut '.' other) :
    name = other := by
  have fieldsSame : fields '.' name.toList = fields '.' other.toList :=
    (List.map_inj_right fun _ _ => String.ofList_inj.mp).mp same
  have chars := congrArg (joinFields '.') fieldsSame
  rw [joinFields_fields, joinFields_fields] at chars
  exact String.toList_inj.mp chars

/-- The last name on the way to a module holds no point. -/
theorem point_not_mem_last {name : String} (named : IsModuleName name) :
    pieces name = (pieces name).dropLast ++ [(pieces name).getLastD ""] ∧
      '.' ∉ ((pieces name).getLastD "").toList := by
  have someNames := pieces_ne_nil named
  rw [List.getLastD_eq_getLast?, List.getLast?_eq_some_getLast someNames]
  refine ⟨(List.dropLast_concat_getLast someNames).symm, ?_⟩
  exact point_not_mem_piece (List.mem_filter.mp (List.getLast_mem someNames)).1

/-- A file of a module is that of no other module, nor another file of the same one. -/
theorem fileOf_inj {name other suffix otherSuffix : String} (named : IsModuleName name)
    (otherNamed : IsModuleName other) (full : IsFull name) (otherFull : IsFull other)
    (isSuffix : suffix ∈ moduleSuffixes) (otherIsSuffix : otherSuffix ∈ moduleSuffixes)
    (same : fileOf name suffix = fileOf other otherSuffix) :
    name = other ∧ suffix = otherSuffix := by
  have points : ∀ suffix ∈ moduleSuffixes, suffix.toList = '.' :: suffix.toList.tail := by decide
  obtain ⟨shape, noPoint⟩ := point_not_mem_last named
  obtain ⟨otherShape, otherNoPoint⟩ := point_not_mem_last otherNamed
  obtain ⟨fronts, lasts⟩ := List.append_inj' same rfl
  have chars := congrArg String.toList (List.cons.inj lasts).1
  rw [String.toList_append, String.toList_append, points suffix isSuffix,
    points otherSuffix otherIsSuffix] at chars
  have passes : ∀ {text : List Char}, '.' ∉ text → ∀ each ∈ text, (each != '.') = true := by
    intro text absent each member
    rw [bne_iff_ne]
    rintro rfl
    exact absent member
  obtain ⟨names, tails⟩ := Text.eq_of_append_eq (passes noPoint) (passes otherNoPoint) rfl chars
  refine ⟨eq_of_cut_eq ?_, String.toList_inj.mp ?_⟩
  · rw [← full.pieces_eq, ← otherFull.pieces_eq, shape, otherShape, fronts,
      String.toList_inj.mp names]
  · rw [points suffix isSuffix, points otherSuffix otherIsSuffix, tails]

/-- Dotted names without empty parts begin with no point. -/
theorem undotted_of_isFull {generated : List String} (full : ∀ name ∈ generated, IsFull name) :
    Undotted generated := by
  intro name member atFront
  obtain ⟨rest, shape⟩ := List.head?_eq_some_iff.mp atFront
  refine full name member ?_
  rw [cut, shape, fields, if_pos rfl]
  exact List.mem_cons_self

/-! ### What is read and written again -/

/-- Making the imports of a text relative brings no carriage returns into it. -/
theorem cr_not_mem_rewriteImports (depth : Int) (generated : List String) {source : List Char}
    (absent : '\r' ∉ source) : '\r' ∉ rewriteImports depth generated source := by
  intro member
  rcases mem_joinFields member with same | ⟨line, inLines, inLine⟩
  · exact absurd same (by decide)
  · obtain ⟨old, inSource, rfl⟩ := List.mem_map.mp inLines
    refine not_mem_relativeLine depth (by decide) (fun inOld => absent ?_) inLine
    rw [← joinFields_fields '\n' source]
    exact mem_joinFields_of_mem inSource inOld

/-- A source whose imports were made relative stays as it is when that is done again. -/
theorem relativeImports_relativeImports {generated : List String} (undotted : Undotted generated)
    (depth : Nat) (source : String) :
    relativeImports depth generated
        (withUnixLines (relativeImports depth generated (withUnixLines source))) =
      relativeImports depth generated (withUnixLines source) := by
  have noReturn : '\r' ∉ rewriteImports depth generated (unifyNewlines source.toList) :=
    cr_not_mem_rewriteImports depth generated (cr_not_mem_unifyNewlines _)
  unfold relativeImports withUnixLines
  simp only [String.toList_ofList]
  rw [unifyNewlines_of_not_mem _ noReturn, rewriteImports_rewriteImports undotted]

end Package

/-! ### Files of trees -/

open Package

/-- A file that is a text. -/
def Node.IsText (node : Node) : Prop :=
  ∃ bytes mode source, node = .file bytes mode ∧ textOf bytes = .ok source

/-- A file with its imports made relative, if it is a text. -/
def Node.rewrite (generated : List String) (depth : Nat) : Node → Node
  | .file bytes mode =>
    match textOf bytes with
    | .ok source => .file (bytesOf (relativeImports depth generated (withUnixLines source))) mode
    | .error _ => .file bytes mode
  | node => node

namespace Node

variable {generated : List String} {depth : Nat} {node : Node}

theorem rewrite_of_text {bytes : List UInt8} {mode : Mode} {source : String}
    (decoded : textOf bytes = .ok source) :
    (Node.file bytes mode).rewrite generated depth =
      .file (bytesOf (relativeImports depth generated (withUnixLines source))) mode := by
  rw [rewrite, decoded]

/-- What is no text stays. -/
theorem rewrite_of_not_isText (noText : ¬ node.IsText) : node.rewrite generated depth = node := by
  unfold rewrite
  split
  next bytes mode =>
    split
    next source decoded => exact absurd ⟨bytes, mode, source, rfl, decoded⟩ noText
    next => rfl
  next => rfl

theorem isText_rewrite_iff : (node.rewrite generated depth).IsText ↔ node.IsText := by
  by_cases isText : node.IsText
  · obtain ⟨bytes, mode, source, rfl, decoded⟩ := id isText
    rw [rewrite_of_text decoded]
    exact iff_of_true ⟨_, _, _, rfl, textOf_bytesOf _⟩ isText
  · rw [rewrite_of_not_isText isText]

theorem rewrite_rewrite (undotted : Undotted generated) :
    (node.rewrite generated depth).rewrite generated depth = node.rewrite generated depth := by
  by_cases isText : node.IsText
  · obtain ⟨bytes, mode, source, rfl, decoded⟩ := isText
    rw [rewrite_of_text decoded, rewrite_of_text (textOf_bytesOf _),
      relativeImports_relativeImports undotted]
  · rw [rewrite_of_not_isText isText, rewrite_of_not_isText isText]

end Node

namespace Tree

variable {generated : List String} {tree : Tree} {place other : Place}

/-- Making the imports of one file relative changes that file alone. -/
theorem rewrite_apply {depth : Nat} : rewrite generated depth place tree other =
    if other = place then (tree place).map (Node.rewrite generated depth) else tree other := by
  have kept : tree place = (tree place).map (Node.rewrite generated depth) →
      tree other =
        if other = place then (tree place).map (Node.rewrite generated depth) else tree other := by
    intro same
    split
    next atPlace => rw [atPlace, ← same]
    next => rfl
  unfold rewrite
  cases found : tree place with
  | none =>
    rw [found] at kept
    exact kept rfl
  | some node =>
    rw [found] at kept
    cases node with
    | directory | link => exact kept rfl
    | file bytes mode =>
      dsimp only
      cases decoded : textOf bytes with
      | error fault =>
        refine kept ?_
        rw [Option.map_some, Node.rewrite_of_not_isText]
        rintro ⟨_, _, source, ⟨⟩, isText⟩
        cases isText.symm.trans decoded
      | ok source =>
        dsimp only
        rw [Option.map_some, Node.rewrite_of_text decoded, write, found]
        rfl

theorem mark_apply_of_ne {package : Place} (different : other ≠ package ++ [initName]) :
    mark tree package other = tree other := by
  unfold mark
  split
  next => rfl
  next => exact if_neg different

theorem foldl_mark_apply_of_ne {packages : List Place}
    (different : ∀ package, other ≠ package ++ [initName]) :
    packages.foldl mark tree other = tree other := by
  induction packages generalizing tree with
  | nil => rfl
  | cons package rest inductionHypothesis =>
    rw [List.foldl_cons, inductionHypothesis, mark_apply_of_ne (different package)]

theorem write_apply_of_ne {bytes : List UInt8} (different : other ≠ place) :
    tree.write place bytes other = tree other := if_neg different

/-! ### Files of modules in finished trees -/

section Modules

variable {schemas : List String} {name module suffix : String}

/-- Finishing a module changes its own files and those of no other module. -/
theorem finishModule_file (full : ∀ each ∈ modulesOf schemas, IsFull each)
    (isModule : name ∈ modulesOf schemas) (otherIsModule : module ∈ modulesOf schemas)
    (isSuffix : suffix ∈ moduleSuffixes) :
    finishModule generated tree name (fileOf module suffix) =
      if module = name then (tree (fileOf module suffix)).map (Node.rewrite generated (depth name))
      else tree (fileOf module suffix) := by
  have named := isModuleName_of_mem_modulesOf isModule
  have otherNamed := isModuleName_of_mem_modulesOf otherIsModule
  have notInit : ∀ package, fileOf module suffix ≠ package ++ [initName] :=
    fileOf_ne otherIsModule isSuffix List.mem_cons_self
  have apart : ∀ {each}, each ∈ moduleSuffixes → module ≠ name ∨ suffix ≠ each →
      fileOf module suffix ≠ fileOf name each := by
    intro each isEach different same
    obtain ⟨sameName, sameSuffix⟩ := fileOf_inj otherNamed named (full _ otherIsModule)
      (full _ isModule) isSuffix isEach same
    exact different.elim (absurd sameName) (absurd sameSuffix)
  rw [finishModule, foldl_mark_apply_of_ne notInit]
  by_cases same : module = name
  · subst same
    rw [if_pos rfl]
    have oneOf : suffix = sourceSuffix ∨ suffix = stubSuffix := by
      simpa [moduleSuffixes] using isSuffix
    rcases oneOf with rfl | rfl
    · rw [rewrite_apply, if_neg (apart (by decide) (.inr (by decide))), rewrite_apply, if_pos rfl]
    · rw [rewrite_apply, if_pos rfl, rewrite_apply,
        if_neg (apart (by decide) (.inr (by decide)))]
  · rw [if_neg same, rewrite_apply, if_neg (apart (by decide) (.inl same)), rewrite_apply,
      if_neg (apart (by decide) (.inl same))]

/-- Modules that are finished in turn, be it several times, have their imports made relative. -/
theorem foldl_finishModule_file (full : ∀ each ∈ modulesOf schemas, IsFull each)
    {names : List String} (areModules : ∀ each ∈ names, each ∈ modulesOf schemas)
    (isModule : module ∈ modulesOf schemas) (isSuffix : suffix ∈ moduleSuffixes) :
    names.foldl (finishModule (modulesOf schemas)) tree (fileOf module suffix) =
      if module ∈ names then
        (tree (fileOf module suffix)).map (Node.rewrite (modulesOf schemas) (depth module))
      else tree (fileOf module suffix) := by
  induction names generalizing tree with
  | nil => rfl
  | cons name rest inductionHypothesis =>
    rw [List.foldl_cons, inductionHypothesis fun each member =>
        areModules each (List.mem_cons_of_mem _ member),
      finishModule_file full (areModules name List.mem_cons_self) isModule isSuffix]
    by_cases same : module = name
    · subst same
      rw [if_pos rfl, if_pos List.mem_cons_self]
      split
      next =>
        rw [Option.map_map]
        exact congrArg (Option.map · _)
          (funext fun node => Node.rewrite_rewrite (undotted_of_isFull full))
      next => rfl
    · simp only [List.mem_cons, same, false_or, if_false]

/-- What is found in the end of a file of a module is what the compiler wrote, with its imports
made relative. -/
theorem finish_file (full : ∀ each ∈ modulesOf schemas, IsFull each) (policy : Policy)
    (isModule : module ∈ modulesOf schemas) (isSuffix : suffix ∈ moduleSuffixes) :
    finish (modulesOf schemas) policy tree (fileOf module suffix) =
      (tree (fileOf module suffix)).map (Node.rewrite (modulesOf schemas) (depth module)) := by
  have notInit : fileOf module suffix ≠ [initName] :=
    fileOf_ne isModule isSuffix List.mem_cons_self []
  have notBuffers : fileOf module suffix ≠ buffersPlace :=
    fileOf_ne isModule isSuffix (by decide) []
  have supported : ∀ other : Tree,
      support policy other (fileOf module suffix) = other (fileOf module suffix) := by
    intro other
    unfold support
    split
    next => exact write_apply_of_ne notBuffers
    next => rfl
  rw [finish, write_apply_of_ne notInit, supported,
    foldl_finishModule_file full (fun _ member => member) isModule isSuffix, if_pos isModule]

end Modules

/-! ### Modules that the compiler wrote -/

/-- A file at a place is a text. -/
def Readable (tree : Tree) (place : Place) : Prop := ∃ node, tree place = some node ∧ node.IsText

/-- A module was written: its source is a text, and so is its stub if there is one. -/
def HasModule (tree : Tree) (name : String) : Prop :=
  tree.Readable (fileOf name sourceSuffix) ∧
    (tree (fileOf name stubSuffix) ≠ none → tree.Readable (fileOf name stubSuffix))

theorem readable_rewrite_iff {depth : Nat} :
    (rewrite generated depth place tree).Readable other ↔ tree.Readable other := by
  unfold Readable
  rw [rewrite_apply]
  split
  next same =>
    subst same
    simp only [Option.map_eq_some_iff]
    constructor
    · rintro ⟨_, ⟨node, found, rfl⟩, isText⟩
      exact ⟨node, found, Node.isText_rewrite_iff.mp isText⟩
    · rintro ⟨node, found, isText⟩
      exact ⟨_, ⟨node, found, rfl⟩, Node.isText_rewrite_iff.mpr isText⟩
  next => exact Iff.rfl

theorem HasModule.hasFile {name : String} (hasModule : tree.HasModule name) :
    tree.HasFile (fileOf name sourceSuffix) := by
  obtain ⟨⟨node, found, bytes, mode, source, shape, -⟩, -⟩ := hasModule
  exact ⟨bytes, mode, shape ▸ found⟩

/-- Every file of a module that was written is a text. -/
theorem HasModule.readable {name suffix : String} (hasModule : tree.HasModule name)
    (isSuffix : suffix ∈ moduleSuffixes) (there : tree (fileOf name suffix) ≠ none) :
    tree.Readable (fileOf name suffix) := by
  have oneOf : suffix = sourceSuffix ∨ suffix = stubSuffix := by
    simpa [moduleSuffixes] using isSuffix
  rcases oneOf with rfl | rfl
  · exact hasModule.1
  · exact hasModule.2 there

/-- In a finished package every file of a module is the text that the compiler wrote, with its
imports made relative. -/
theorem finish_text {schemas : List String} {module suffix : String}
    (full : ∀ each ∈ modulesOf schemas, IsFull each) (policy : Policy)
    (isModule : module ∈ modulesOf schemas) (hasModule : tree.HasModule module)
    (isSuffix : suffix ∈ moduleSuffixes) (there : tree (fileOf module suffix) ≠ none) :
    ∃ bytes mode source, tree (fileOf module suffix) = some (.file bytes mode) ∧
      textOf bytes = .ok source ∧
      finish (modulesOf schemas) policy tree (fileOf module suffix) =
        some (.file (bytesOf (relativeImports (depth module) (modulesOf schemas)
          (withUnixLines source))) mode) := by
  obtain ⟨_, found, bytes, mode, source, rfl, decoded⟩ := hasModule.readable isSuffix there
  refine ⟨bytes, mode, source, found, decoded, ?_⟩
  rw [finish_file full policy isModule isSuffix, found, Option.map_some,
    Node.rewrite_of_text decoded]

/-- Whether a module was written does not change when modules are finished. -/
theorem hasModule_finishModule_iff {schemas : List String} {name module : String}
    (isModule : module ∈ modulesOf schemas) :
    (finishModule generated tree name).HasModule module ↔ tree.HasModule module := by
  have notInit : ∀ {suffix}, suffix ∈ moduleSuffixes → ∀ package,
      fileOf module suffix ≠ package ++ [initName] := fun isSuffix =>
    fileOf_ne isModule isSuffix List.mem_cons_self
  have readable : ∀ {suffix}, suffix ∈ moduleSuffixes →
      ((finishModule generated tree name).Readable (fileOf module suffix) ↔
        tree.Readable (fileOf module suffix)) := by
    intro suffix isSuffix
    rw [Readable, finishModule, foldl_mark_apply_of_ne (notInit isSuffix)]
    exact readable_rewrite_iff.trans readable_rewrite_iff
  have there : finishModule generated tree name (fileOf module stubSuffix) ≠ none ↔
      tree (fileOf module stubSuffix) ≠ none := by
    rw [finishModule, foldl_mark_apply_of_ne (notInit (by decide)), rewrite_ne_none_iff,
      rewrite_ne_none_iff]
  rw [HasModule, readable (by decide), readable (by decide), there, HasModule]

end Tree

end Bindery
