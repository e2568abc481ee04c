/-
This file compares what is taken from the name of a module in different ways.

How many packages a module lies in is counted by the points of its name, where its file lies follows
from the words between them, and the package exports the first of these words. Where the file lies,
empty words do not count; for the others they do. So a relative import climbs to the root exactly if
no word is empty, and the exported name is that of an entry below the root exactly if the first word
is not. Words are empty where a directory's or a schema's name begins with a point or has two of
them in a row, and where a directory's name ends with one.
-/

import Bindery.Proofs.Invocation.Validated
import Bindery.Proofs.Package.Rework
import Bindery.Proofs.Package.Words

namespace Bindery

open Text

/-! ### First fields -/

/-- The front that is cut off once is the first field. -/
theorem Text.cutOnce_fst (separator : Char) (text : List Char) :
    (cutOnce separator text).1 = (fields separator text).headD [] := by
  induction text with
  | nil => rfl
  | cons c rest inductionHypothesis =>
    rw [cutOnce, fields]
    by_cases same : c = separator
    · rw [if_pos same, if_pos same]
      rfl
    · rw [if_neg same, if_neg same]
      show c :: (cutOnce separator rest).1 = _
      obtain ⟨field, others, shape⟩ := List.exists_cons_of_ne_nil (fields_ne_nil separator rest)
      rw [inductionHypothesis, shape]
      rfl

namespace Package

/-! ### Names in increasing order -/

theorem mem_insertName {name other : String} {names : List String} :
    other ∈ insertName name names ↔ other = name ∨ other ∈ names := by
  induction names with
  | nil => simp [insertName]
  | cons first rest inductionHypothesis =>
    unfold insertName
    split
    next => exact List.mem_cons
    next =>
      split
      next same => simp [same]
      next => simp [inductionHypothesis, or_left_comm]

theorem mem_nameSet {name : String} {names : List String} :
    name ∈ nameSet names ↔ name ∈ names := by
  induction names with
  | nil => exact Iff.rfl
  | cons first rest inductionHypothesis =>
    show name ∈ insertName first (nameSet rest) ↔ _
    rw [mem_insertName, inductionHypothesis, List.mem_cons]

/-- The package's own module imports the first word of every module's name. -/
theorem importLine_mem_initLines {name : String} {modules : List String} (member : name ∈ modules)
    (policy : Policy) : importLine (topName name) ∈ initLines modules policy := by
  have isTop : topName name ∈ topNames modules := mem_nameSet.mpr (List.mem_map_of_mem member)
  simp only [initLines, List.mem_append]
  exact .inl (.inl (.inl (.inl (.inr (List.mem_map_of_mem isTop)))))

/-! ### Words and views -/

/-- No word of the name of a schema's module is empty. -/
def EveryWord (schema : String) : Prop := [] ∉ wordsAbove schema

/-- The first word of the name of a schema's module is not empty. -/
def FirstWord (schema : String) : Prop := (wordsAbove schema).head? ≠ some []

instance (schema : String) : Decidable (EveryWord schema) := by
  unfold EveryWord
  infer_instance

instance (schema : String) : Decidable (FirstWord schema) := by
  unfold FirstWord
  infer_instance

/-- The name under which what lies at a place is imported from the root of its package: that of the
directory at the top, or that of the file, without the suffix of modules. -/
def importedAs : Place → String
  | [] => ""
  | [file] => String.ofList ((beforeBack? sourceSuffix.toList file.toList).getD file.toList)
  | directory :: _ :: _ => directory

theorem depth_moduleName (schema : String) :
    depth (moduleName schema) = (wordsAbove schema).length := by
  have length := Text.length_fields '.' (moduleName schema).toList
  rw [fields_moduleName, List.length_append, List.length_singleton] at length
  exact (Nat.succ.inj length).symm

theorem topName_moduleName (schema : String) :
    topName (moduleName schema) =
      String.ofList ((wordsAbove schema ++ [lastWord schema ++ moduleEnding]).headD []) := by
  rw [topName, cutOnce_fst, fields_moduleName]

/-- The directories that the file of a module lies in. -/
theorem dropLast_fileOf_moduleName (schema suffix : String) :
    (fileOf (moduleName schema) suffix).dropLast =
      ((wordsAbove schema).filter (· ≠ [])).map String.ofList := by
  rw [fileOf_moduleName, List.dropLast_concat]

/-- A module lies in as many packages as its name has points, or in fewer. -/
theorem length_directories_le (schema suffix : String) :
    (fileOf (moduleName schema) suffix).dropLast.length ≤ depth (moduleName schema) := by
  rw [dropLast_fileOf_moduleName, List.length_map, depth_moduleName]
  exact List.length_filter_le _ _

theorem depth_eq_iff (schema suffix : String) :
    depth (moduleName schema) = (fileOf (moduleName schema) suffix).dropLast.length ↔
      EveryWord schema := by
  rw [dropLast_fileOf_moduleName, List.length_map, depth_moduleName, eq_comm,
    List.length_filter_eq_length_iff]
  constructor
  · intro all empty
    exact absurd (all [] empty) (by decide)
  · intro everyWord word member
    exact decide_eq_true fun empty => everyWord (empty ▸ member)

/-- From within the directories that a module lies in, as many points as are written for it lead up
to the root or above it. -/
theorem resolve_directories (schema suffix : String) (path name : List Char) :
    resolve ((fileOf (moduleName schema) suffix).dropLast.map String.toList)
        (depth (moduleName schema) + 1) path name =
      if EveryWord schema then some ((if path = [] then [] else fields '.' path) ++ [name])
      else none := by
  have atMost := length_directories_le schema suffix
  rw [resolve, List.length_map]
  by_cases everyWord : EveryWord schema
  · rw [if_pos everyWord, (depth_eq_iff schema suffix).mpr everyWord, if_neg (Nat.lt_irrefl _),
      Nat.sub_self, List.take_zero, List.nil_append]
  · have different := mt (depth_eq_iff schema suffix).mp everyWord
    rw [if_neg everyWord, if_pos (by omega)]

/-- The name under which the file of a module is imported is its first word that is not empty. -/
theorem importedAs_fileOf (schema : String) :
    importedAs (fileOf (moduleName schema) sourceSuffix) = String.ofList
      (((wordsAbove schema).filter (· ≠ []) ++ [lastWord schema ++ moduleEnding]).headD []) := by
  rw [fileOf_moduleName]
  cases (wordsAbove schema).filter (· ≠ []) with
  | nil =>
    show String.ofList ((beforeBack? _ (String.toList _)).getD _) = _
    rw [String.toList_append, (beforeBack?_eq_some_iff _ _ _).mpr rfl, Option.getD_some,
      String.toList_ofList]
    rfl
  | cons word rest =>
    obtain ⟨next, others, shape⟩ : ∃ next others, rest.map String.ofList ++
        [String.ofList (lastWord schema ++ moduleEnding) ++ sourceSuffix] = next :: others :=
      List.exists_cons_of_ne_nil (by simp)
    rw [List.map_cons, List.cons_append, shape]
    rfl

/-- The exported name is empty exactly if the first word is. -/
theorem topName_ne_empty_iff (schema : String) :
    topName (moduleName schema) ≠ "" ↔ FirstWord schema := by
  rw [topName_moduleName, FirstWord, ne_eq, String.ofList_eq_empty_iff, not_iff_not]
  cases wordsAbove schema with
  | nil => exact iff_of_false (lastWord_append_ne_nil schema) (by simp)
  | cons word rest => simp

theorem topName_eq_importedAs_iff (schema : String) :
    topName (moduleName schema) = importedAs (fileOf (moduleName schema) sourceSuffix) ↔
      FirstWord schema := by
  rw [← topName_ne_empty_iff]
  constructor
  · intro same
    have counts : ∀ word ∈ (wordsAbove schema).filter (· ≠ []) ++ [lastWord schema ++ moduleEnding],
        word ≠ [] := by
      intro word member
      rcases List.mem_append.mp member with above | last
      · exact of_decide_eq_true (List.mem_filter.mp above).2
      · rw [List.mem_singleton.mp last]
        exact lastWord_append_ne_nil schema
    rw [same, importedAs_fileOf, ne_eq, String.ofList_eq_empty_iff]
    obtain ⟨first, others, shape⟩ : ∃ first others, (wordsAbove schema).filter (· ≠ []) ++
        [lastWord schema ++ moduleEnding] = first :: others :=
      List.exists_cons_of_ne_nil (by simp)
    rw [shape]
    exact counts first (shape ▸ List.mem_cons_self)
  · intro some
    have firstWord := (topName_ne_empty_iff schema).mp some
    rw [topName_moduleName, importedAs_fileOf]
    unfold FirstWord at firstWord
    cases words : wordsAbove schema with
    | nil => rfl
    | cons word rest =>
      have counts : word ≠ [] := fun empty => firstWord (by rw [words, empty]; rfl)
      simp [counts]

/-! ### What the package's own module imports -/

/-- There is something in a tree that is imported from its root under a name: a directory or a
module. -/
def Offers (tree : Tree) (name : String) : Prop :=
  (∃ mode, tree [name] = some (.directory mode)) ∨ tree.HasFile [name ++ sourceSuffix]

/-- Where the file of a module is there, so is what its first word names, unless that is empty. -/
theorem offers_topName {disk : Disk} {top : Place} {schema : String} (isTree : disk.IsTree)
    (there : (disk.tree top).HasFile (fileOf (moduleName schema) sourceSuffix))
    (firstWord : FirstWord schema) : Offers (disk.tree top) (topName (moduleName schema)) := by
  rw [(topName_eq_importedAs_iff schema).mpr firstWord, importedAs_fileOf]
  rw [fileOf_moduleName] at there
  cases words : (wordsAbove schema).filter (· ≠ []) with
  | nil =>
    rw [words] at there
    exact .inr there
  | cons word rest =>
    rw [words] at there
    refine .inl ?_
    obtain ⟨bytes, mode, found⟩ := there
    rw [Disk.tree, List.map_cons, List.cons_append, List.append_cons] at found
    exact isTree.hasDirectory_above _ (List.append_ne_nil_of_right_ne_nil _ (List.cons_ne_nil _ _))
      (Option.ne_none_iff_exists'.mpr ⟨_, found⟩)

/-- The views that are taken of a module's name agree exactly if no word is empty, or if the first
one is not. The points that are written for it lead from its directories up to the root if no word
is empty, and above the root if one is; what a finished package imports from its root under the
first word is there unless that word is empty. -/
theorem views_agree_iff_worded (root : Path) :
    (∀ schema : String, ∃ place : Place,
      modulePath root (moduleName schema) sourceSuffix = .ok (root.down place) ∧
      (depth (moduleName schema) = place.dropLast.length ↔ EveryWord schema) ∧
      (∀ path name, resolve (place.dropLast.map String.toList) (depth (moduleName schema) + 1)
        path name =
          if EveryWord schema then some ((if path = [] then [] else fields '.' path) ++ [name])
          else none) ∧
      (topName (moduleName schema) = importedAs place ↔ FirstWord schema) ∧
      (topName (moduleName schema) ≠ "" ↔ FirstWord schema)) ∧
    ∀ (top : Place) (schemas modules : List String) (policy : Policy)
      (before after : Machine), Disk.Rooted before.host.here root top before.disk →
      (finalize root schemas policy).on before = (.ok modules, after) →
        (∃ mode, after.disk.tree top [initName] =
          some (.file (bytesOf (join "\n" (initLines modules policy))) mode)) ∧
        ∀ schema ∈ schemas,
          importLine (topName (moduleName schema)) ∈ initLines modules policy ∧
          (FirstWord schema → Offers (after.disk.tree top) (topName (moduleName schema))) := by
  constructor
  · intro schema
    refine ⟨fileOf (moduleName schema) sourceSuffix,
      modulePath_eq root (isModuleName_moduleName schema) (by decide), depth_eq_iff schema _,
      resolve_directories schema _, topName_eq_importedAs_iff schema, topName_ne_empty_iff schema⟩
  · intro top schemas modules policy before after rooted ran
    have same := finalize_value ran
    subst same
    have untouched : (Disk.Rooted.ground before.host.here root top).Untouched before :=
      ⟨rfl, rooted⟩
    have reworked := (Disk.Ground.reworks_finalize schemas policy before untouched).of_on ran
    obtain ⟨demanded, changed⟩ := reworked.succeeded _ rfl
    replace changed : after.disk.tree top = Tree.finish (modulesOf schemas) policy
      (before.disk.tree top) := changed
    constructor
    · rw [changed, Tree.finish, Tree.write, if_pos rfl]
      exact ⟨_, rfl⟩
    · intro schema member
      have isModule : moduleName schema ∈ modulesOf schemas :=
        (sorted_perm _).mem_iff.mpr (List.mem_map_of_mem member)
      refine ⟨importLine_mem_initLines isModule policy, fun firstWord => ?_⟩
      refine offers_topName reworked.untouched.2.isTree ?_ firstWord
      rw [changed]
      exact (demanded _ isModule).hasFile.finish _ _

/-- A machine with a schema in a directory whose name begins with a point, for which the compiler
wrote a module. -/
def pointedDirectory : Machine :=
  Machine.fresh {} ⟨[
    (["in"], .directory Disk.directoryMode),
    (["in", ".d"], .directory Disk.directoryMode),
    (["in", ".d", "x.proto"], .file [] Disk.fileMode),
    (["p"], .directory Disk.directoryMode),
    (["p", "d"], .directory Disk.directoryMode),
    (["p", "d", "x_pb2.py"], .file [] Disk.fileMode)]⟩

/-- The schema is accepted. Its module lies in one directory, but two packages are counted; the
package is made, and its own module imports nothing by its name. -/
theorem pointed_directory_unnamed :
    (∃ invocation : Invocation, invocation.Validated ∧
      invocation.virtualPaths = .ok [".d/x.proto"]) ∧
    depth (moduleName ".d/x.proto") = 2 ∧
    modulePath (Path.parse "/p") (moduleName ".d/x.proto") sourceSuffix =
      .ok (Path.parse "/p/d/x_pb2.py") ∧
    (∃ modules after, (finalize (Path.parse "/p") [".d/x.proto"] .standard).on pointedDirectory =
        (.ok modules, after) ∧
      (∃ mode, after.disk.tree ["p"] [initName] =
        some (.file (bytesOf (join "\n" (initLines modules .standard))) mode)) ∧
      "from . import " ∈ initLines modules .standard) ∧
    topName (moduleName ".d/x.proto") = "" := by
  have unnamed : topName (moduleName ".d/x.proto") = "" := by
    obtain ⟨place, -, -, -, -, named⟩ :=
      (views_agree_iff_worded (Path.parse "/p")).1 ".d/x.proto"
    by_contra some
    exact absurd (named.mp some) (by decide)
  have rooted : Disk.Rooted [] (Path.parse "/p") ["p"] pointedDirectory.disk :=
    ⟨Disk.isTree_of_entries (by decide +kernel), Disk.hasDirectory_top _,
      ⟨Disk.directoryMode, by decide +kernel⟩,
      fun place target _ => Disk.linkless_of_entries (by decide +kernel) place target⟩
  have ran : (finalize (Path.parse "/p") [".d/x.proto"] .standard).on pointedDirectory =
      (.ok [".d.x_pb2"], ((finalize (Path.parse "/p") [".d/x.proto"] .standard).on
        pointedDirectory).2) := Action.on_eq (by decide +kernel)
  obtain ⟨written, imported⟩ := (views_agree_iff_worded (Path.parse "/p")).2 ["p"]
    [".d/x.proto"] [".d.x_pb2"] .standard pointedDirectory _ rooted ran
  have line := (imported _ List.mem_cons_self).1
  rw [unnamed] at line
  refine ⟨⟨⟨Path.parse "/in", [Path.parse "/in/.d/x.proto"], Path.parse "/p", none⟩, ?_, ?_⟩,
    by decide +kernel, by decide +kernel, ⟨_, _, ran, written, line⟩, unnamed⟩
  · have accepted : ((Invocation.ofPaths (Path.parse "/in") [Path.parse ".d/x.proto"]
        (Path.parse "/p") none).on pointedDirectory).1 =
          .ok ⟨Path.parse "/in", [Path.parse "/in/.d/x.proto"], Path.parse "/p", none⟩ := by
      decide +kernel
    have regular : Path.IsRegular ⟨.root, pointedDirectory.host.here⟩ :=
      fun _ impossible => by cases impossible
    exact ⟨pointedDirectory, _, _, _, "/p", _, regular, Action.on_eq accepted⟩
  · decide +kernel

end Package

end Bindery
