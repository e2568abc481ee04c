/-
This file compares the names of modules with those that the compiler gives them.

The compiler takes the ending off the path of a schema, puts an underscore for every dash and a
point for every slash, and adds the ending of modules; the points of that name lead to the file. The
names that are computed here keep the dashes of directories. So name and file are those of the
compiler exactly if no directory on the way to the schema has a dash in its name. Where that holds
of all schemas, making a package finds the modules that the compiler wrote; where it does not,
a package cannot be made of what the compiler writes.
-/

import Bindery.Proofs.Package.Found
import Bindery.Proofs.Package.Words

namespace Bindery

open Text

namespace Package

/-! ### What the compiler writes -/

/-- A character of a schema's path in the spelling of the compiler. -/
def emittedChar (c : Char) : Char := if c = '-' then '_' else if c = '/' then '.' else c

/-- The name that the compiler gives to the module of a schema. -/
def emittedName (schema : String) : String :=
  String.ofList ((schemaStem schema.toList).map emittedChar ++ moduleEnding)

/-- A character of a module's name in the path of its file. -/
def pathChar (c : Char) : Char := if c = '.' then '/' else c

/-- The file that the compiler writes for a schema, seen from the directory that it writes to. -/
def emittedFile (schema : String) : Path :=
  Path.parse ("./" ++ String.ofList ((emittedName schema).toList.map pathChar) ++ sourceSuffix)

/-- No directory on the way to a schema has a dash in its name. -/
def Undashed (schema : String) : Prop := ∀ directory ∈ directoriesOf schema, '-' ∉ directory

instance (schema : String) : Decidable (Undashed schema) := by
  unfold Undashed
  infer_instance

/-! ### Dashes -/

theorem dash_not_mem_moduleStem (stem : List Char) : '-' ∉ moduleStem stem := by
  intro member
  obtain ⟨c, -, same⟩ := List.mem_map.mp member
  by_cases dash : c = '-'
  · rw [if_pos dash] at same
    exact absurd same (by decide)
  · rw [if_neg dash] at same
    exact dash same

theorem moduleStem_of_not_mem {stem : List Char} (absent : '-' ∉ stem) :
    moduleStem stem = stem := by
  have kept : ∀ c ∈ stem, (if c = '-' then '_' else c) = c := by
    intro c member
    have notDash : c ≠ '-' := fun dash => absent (dash ▸ member)
    rw [if_neg notDash]
  rw [moduleStem, List.map_congr_left kept, List.map_id']

/-- The dashes in the name of a module are those of the directories. -/
theorem dash_not_mem_moduleName_iff (schema : String) :
    '-' ∉ (moduleName schema).toList ↔ Undashed schema := by
  rw [toList_moduleName]
  constructor
  · intro absent directory onWay inDirectory
    exact absent (mem_joinFields_of_mem (List.mem_append_left _ onWay) inDirectory)
  · intro undashed member
    rcases mem_joinFields member with same | ⟨field, inside, found⟩
    · exact absurd same (by decide)
    rcases List.mem_append.mp inside with onWay | final
    · exact undashed field onWay found
    · rw [List.mem_singleton.mp final] at found
      rcases List.mem_append.mp found with inStem | inEnding
      · exact dash_not_mem_moduleStem _ inStem
      · exact absurd inEnding (by decide)

/-! ### Names -/

/-- The name that the compiler gives to a module is the one that is computed, with an underscore for
every dash. -/
theorem toList_emittedName {schema : String} (ending : schemaEnding <:+ schema.toList) :
    (emittedName schema).toList = moduleStem (moduleName schema).toList := by
  obtain ⟨path, whole⟩ := ending
  have stripped : ∀ text : List Char, schemaStem (text ++ schemaEnding) = text := by
    intro text
    rw [schemaStem, (beforeBack?_eq_some_iff _ _ _).mpr rfl, Option.getD_some]
  have cuts : fields '/' schema.toList =
      (fields '/' path).dropLast ++ [(fields '/' path).getLastD [] ++ schemaEnding] := by
    rw [← whole, fields_append_of_not_mem (by decide)]
  have directories : directoriesOf schema = (fields '/' path).dropLast := by
    rw [directoriesOf, cuts, List.dropLast_concat]
  have stem : stemOf schema = moduleStem ((fields '/' path).getLastD []) := by
    rw [stemOf, cuts, List.getLastD_concat, stripped]
  have spelled : ∀ field ∈ fields '/' path, field.map emittedChar = moduleStem field := by
    intro field isField
    refine List.map_congr_left fun c member => ?_
    have notSlash : c ≠ '/' := fun slash =>
      not_mem_of_mem_fields '/' path field isField (slash ▸ member)
    rw [emittedChar, if_neg notSlash]
  have noDash : '-' ∉ stemOf schema ++ moduleEnding := by
    rw [List.mem_append]
    exact fun held => held.elim (dash_not_mem_moduleStem _) (by decide)
  have pathSpelled : path.map emittedChar =
      joinFields '.' ((directoriesOf schema).map moduleStem ++ [stemOf schema]) := by
    calc path.map emittedChar
        = (joinFields '/' (fields '/' path)).map emittedChar := by rw [joinFields_fields]
      _ = joinFields '.' ((fields '/' path).map (List.map emittedChar)) :=
          map_joinFields '/' emittedChar _
      _ = joinFields '.' ((fields '/' path).map moduleStem) := by
          rw [List.map_congr_left spelled]
      _ = joinFields '.' ((directoriesOf schema).map moduleStem ++ [stemOf schema]) := by
          rw [directories, stem, ← List.map_singleton, ← List.map_append, ← fields_eq_concat]
  have nameSpelled : moduleStem (moduleName schema).toList = joinFields '.'
      ((directoriesOf schema).map moduleStem ++ [stemOf schema ++ moduleEnding]) := by
    rw [toList_moduleName, moduleStem, map_joinFields, List.map_append, List.map_singleton]
    show joinFields '.' ((directoriesOf schema).map moduleStem ++ [moduleStem _]) = _
    rw [moduleStem_of_not_mem noDash]
  rw [nameSpelled, emittedName, String.toList_ofList, ← whole, stripped, pathSpelled,
    joinFields_concat, joinFields_concat, List.append_assoc]

/-- The name that is computed for a module is the compiler's exactly if no directory on the way to
the schema has a dash in its name. -/
theorem moduleName_eq_iff {schema : String} (ending : schemaEnding <:+ schema.toList) :
    moduleName schema = emittedName schema ↔ Undashed schema := by
  rw [← dash_not_mem_moduleName_iff, ← String.toList_inj, toList_emittedName ending]
  constructor
  · intro same
    rw [same]
    exact dash_not_mem_moduleStem _
  · exact fun absent => (moduleStem_of_not_mem absent).symm

/-! ### Files -/

/-- A slash for every point of a dotted name makes the path of its file. -/
theorem parse_dotted {name : String} (noSlash : '/' ∉ name.toList)
    {front : List (List Char)} {last : List Char}
    (words : fields '.' name.toList = front ++ [last]) (lastCounts : last ≠ []) :
    Path.parse ("./" ++ String.ofList (name.toList.map pathChar) ++ sourceSuffix) =
      ⟨.relative, fileOf name sourceSuffix⟩ := by
  have kept : ∀ field ∈ fields '.' name.toList, field.map pathChar = field := by
    intro field isField
    refine (List.map_congr_left fun c member => ?_).trans (List.map_id' field)
    have notPoint : c ≠ '.' := fun point =>
      not_mem_of_mem_fields '.' _ field isField (point ▸ member)
    rw [pathChar, if_neg notPoint]
  have slashed : fields '/' (name.toList.map pathChar) = front ++ [last] := by
    have new : ∀ c ∈ name.toList, pathChar c = '/' → c = '.' := by
      intro c member became
      by_contra notPoint
      rw [pathChar, if_neg notPoint] at became
      exact noSlash (became ▸ member)
    rw [fields_map (show pathChar '.' = '/' by decide) new, List.map_congr_left kept, List.map_id',
      words]
  have pointless : ∀ field ∈ front, '.' ∉ field := fun field member =>
    not_mem_of_mem_fields '.' name.toList field (words ▸ List.mem_append_left _ member)
  have frontParts : front.filter Path.isPart = front.filter (· ≠ []) := by
    refine List.filter_congr fun field member => ?_
    have notPoint : field ≠ ['.'] := by
      intro same
      exact pointless field member (same ▸ List.mem_cons_self)
    simp [Path.isPart, notPoint]
  have lastPart : [last ++ sourceSuffix.toList].filter Path.isPart =
      [last ++ sourceSuffix.toList] := by
    refine List.filter_cons_of_pos (Path.isPart_iff.mpr ⟨by simp [lastCounts], fun same => ?_⟩)
    -- The suffix alone is longer than a point.
    have lengths := congrArg List.length same
    rw [List.length_append, show sourceSuffix.toList.length = 3 by decide] at lengths
    exact absurd lengths (by simp)
  have parts : ∀ text : List Char, fields '/' ('.' :: '/' :: text) = ['.'] :: fields '/' text :=
    fun text => fields_append_cons '/' ['.'] text (by decide)
  have chars : ("./" ++ String.ofList (name.toList.map pathChar) ++ sourceSuffix).toList =
      '.' :: '/' :: (name.toList.map pathChar ++ sourceSuffix.toList) := by
    simp only [String.toList_append, String.toList_ofList]
    rfl
  unfold Path.parse
  rw [chars, parts, fields_append_of_not_mem (by decide), slashed, List.dropLast_concat,
    List.getLastD_concat, List.filter_cons_of_neg (by decide), List.filter_append, frontParts,
    lastPart, fileOf_of_fields words lastCounts, List.map_append, List.map_singleton,
    String.ofList_append, String.ofList_toList]
  rfl

theorem slash_not_mem_emittedName (schema : String) : '/' ∉ (emittedName schema).toList := by
  have never : ∀ c, emittedChar c ≠ '/' := by
    intro c
    unfold emittedChar
    by_cases dash : c = '-'
    · rw [if_pos dash]
      decide
    · by_cases slash : c = '/'
      · rw [if_neg dash, if_pos slash]
        decide
      · rw [if_neg dash, if_neg slash]
        exact slash
  rw [emittedName, String.toList_ofList, List.mem_append, List.mem_map]
  intro member
  rcases member with ⟨c, -, became⟩ | inEnding
  · exact never c became
  · exact absurd inEnding (by decide)

/-- The file that the compiler writes has the place that belongs to the compiler's name. -/
theorem emittedFile_eq (schema : String) :
    emittedFile schema = ⟨.relative, fileOf (emittedName schema) sourceSuffix⟩ := by
  have words := fields_append_of_not_mem (show '.' ∉ moduleEnding by decide)
    ((schemaStem schema.toList).map emittedChar)
  rw [← String.toList_ofList (l := _ ++ moduleEnding)] at words
  refine parse_dotted (slash_not_mem_emittedName schema) words fun empty => ?_
  exact absurd (List.append_eq_nil_iff.mp empty).2 (by decide)

/-- On the way to the file of a module stand the characters of the module's name, but for points. -/
theorem exists_mem_fileOf_iff {c : Char} {name suffix : String} (notPoint : c ≠ '.')
    (notInSuffix : c ∉ suffix.toList) :
    (∃ part ∈ fileOf name suffix, c ∈ part.toList) ↔ c ∈ name.toList := by
  have inPieces : (∃ piece ∈ pieces name, c ∈ piece.toList) ↔ c ∈ name.toList := by
    constructor
    · intro ⟨piece, member, held⟩
      by_contra absent
      exact not_mem_piece absent (List.mem_filter.mp member).1 held
    · intro member
      rw [← joinFields_fields '.' name.toList] at member
      obtain ⟨field, isField, held⟩ := (mem_joinFields member).resolve_left notPoint
      have counts : String.ofList field ≠ "" := fun empty => by
        rw [String.ofList_eq_empty_iff.mp empty] at held
        exact List.not_mem_nil held
      refine ⟨String.ofList field, List.mem_filter.mpr ⟨List.mem_map_of_mem isField, ?_⟩, ?_⟩
      · exact decide_eq_true counts
      · rwa [String.toList_ofList]
  rw [← inPieces, fileOf]
  by_cases none : pieces name = []
  · simp [none, notInSuffix]
  · have whole := List.dropLast_concat_getLast none
    have last : (pieces name).getLastD "" = (pieces name).getLast none := by
      rw [List.getLastD_eq_getLast?, List.getLast?_eq_some_getLast none, Option.getD_some]
    rw [last]
    conv_rhs => rw [← whole]
    simp [notInSuffix]

/-- The file that is computed for a module is the compiler's exactly if no directory on the way to
the schema has a dash in its name. -/
theorem modulePath_eq_iff {schema : String} (ending : schemaEnding <:+ schema.toList)
    (root : Path) :
    modulePath root (moduleName schema) sourceSuffix = .ok (root ++ emittedFile schema) ↔
      Undashed schema := by
  have appended : root ++ emittedFile schema =
      root.down (fileOf (emittedName schema) sourceSuffix) := by
    rw [emittedFile_eq]
    rfl
  rw [modulePath_eq root (isModuleName_moduleName schema) (by decide), appended]
  constructor
  · intro same
    have files : fileOf (moduleName schema) sourceSuffix =
        fileOf (emittedName schema) sourceSuffix := by
      have parts := congrArg Path.parts (Except.ok.inj same)
      exact List.append_cancel_left parts
    have noDash : '-' ∉ (emittedName schema).toList := by
      rw [toList_emittedName ending]
      exact dash_not_mem_moduleStem _
    have dashes : ∀ name, (∃ part ∈ fileOf name sourceSuffix, '-' ∈ part.toList) ↔
        '-' ∈ name.toList := fun name => exists_mem_fileOf_iff (by decide) (by decide)
    rwa [← dash_not_mem_moduleName_iff, ← dashes, files, dashes]
  · intro undashed
    rw [(moduleName_eq_iff ending).mpr undashed]

/-! ### Making a package of what the compiler wrote -/

/-- The compiler wrote a module for each of the schemas. -/
def Compiled (tree : Tree) (schemas : List String) : Prop :=
  ∀ schema ∈ schemas, schemaEnding <:+ schema.toList ∧ tree (emittedFile schema).parts ≠ none

/-- No name of what lies in a tree has a dash, as none has that the compiler gives. -/
def NamesUndashed (tree : Tree) : Prop :=
  ∀ place, tree place ≠ none → ∀ name ∈ place, '-' ∉ name.toList

/-- The modules that the compiler wrote are found if their names are the compiler's. -/
theorem finalize_finds {root : Path} {top : Place} {schemas : List String} {policy : Policy}
    {before : Machine} (rooted : Disk.Rooted before.host.here root top before.disk)
    (spares : before.schedule.SparesMissing) (compiled : Compiled (before.disk.tree top) schemas)
    (undashed : ∀ schema ∈ schemas, Undashed schema) :
    (finalize root schemas policy).Meets before fun result _ =>
      ∀ failure, result = .error failure → ¬ failure.IsMissing := by
  have there : ∀ name ∈ modulesOf schemas,
      before.disk.tree top (fileOf name sourceSuffix) ≠ none := by
    intro name isModule
    obtain ⟨schema, member, same⟩ := mem_modulesOf.mp isModule
    obtain ⟨ending, written⟩ := compiled schema member
    rwa [emittedFile_eq, ← (moduleName_eq_iff ending).mpr (undashed schema member), same]
      at written
  have finds : (Disk.Rooted.ground before.host.here root top).Finds
      (fun place => ∃ name ∈ modulesOf schemas, place = fileOf name sourceSuffix)
      (finalize root schemas policy) :=
    Disk.Ground.finds_finalize (Disk.Rooted.reaches before.host.here root top) schemas policy
      fun name isModule => ⟨name, isModule, rfl⟩
  have untouched : (Disk.Rooted.ground before.host.here root top).Untouched before := ⟨rfl, rooted⟩
  refine (finds before untouched spares fun place needed => ?_).mono fun _ _ found =>
    found.notMissing
  obtain ⟨name, isModule, same⟩ := needed
  rw [same]
  exact there name isModule

/-- No package can be made of what the compiler wrote if a directory on the way to a schema has a
dash in its name. -/
theorem finalize_fails_of_dashed {root : Path} {top : Place} {schemas : List String}
    {policy : Policy} {before : Machine}
    (rooted : Disk.Rooted before.host.here root top before.disk)
    (namesUndashed : NamesUndashed (before.disk.tree top)) {schema : String}
    (member : schema ∈ schemas) (dashed : ¬ Undashed schema) :
    (finalize root schemas policy).Meets before fun result _ =>
      ∀ modules, result ≠ .ok modules := by
  have untouched : (Disk.Rooted.ground before.host.here root top).Untouched before := ⟨rfl, rooted⟩
  refine (Disk.Ground.reworks_finalize schemas policy before untouched).mono ?_
  intro result after reworked modules succeeded
  have isModule : moduleName schema ∈ modulesOf schemas :=
    mem_modulesOf.mpr ⟨schema, member, rfl⟩
  obtain ⟨⟨node, found, -⟩, -⟩ := (reworked.succeeded modules succeeded).1 _ isModule
  have dash : '-' ∈ (moduleName schema).toList := by
    by_contra absent
    exact dashed ((dash_not_mem_moduleName_iff schema).mp absent)
  obtain ⟨part, inFile, held⟩ : ∃ part ∈ fileOf (moduleName schema) sourceSuffix,
      '-' ∈ part.toList := (exists_mem_fileOf_iff (by decide) (by decide)).mpr dash
  replace found : before.disk.tree top (fileOf (moduleName schema) sourceSuffix) = some node :=
    found
  exact namesUndashed _ (by rw [found]; exact Option.some_ne_none _) part inFile held

/-- The name and the file of a module are those that the compiler gives it exactly if no directory
on the way to its schema has a dash in its name. If that holds of all schemas, making a package
never misses a module that the compiler wrote. If it does not, no package can be made of what the
compiler writes. -/
theorem agrees_with_compiler_iff_undashed (root : Path) :
    (∀ schema : String, schemaEnding <:+ schema.toList →
      (moduleName schema = emittedName schema ↔ Undashed schema) ∧
      (modulePath root (moduleName schema) sourceSuffix = .ok (root ++ emittedFile schema) ↔
        Undashed schema)) ∧
    ∀ (top : Place) (schemas : List String) (policy : Policy)
      (before after : Machine) (result : Except Failure (List String)),
      Disk.Rooted before.host.here root top before.disk → before.schedule.SparesMissing →
      Compiled (before.disk.tree top) schemas →
      (finalize root schemas policy).on before = (result, after) →
        ((∀ schema ∈ schemas, Undashed schema) →
          ∀ failure, result = .error failure → ¬ failure.IsMissing) ∧
        ((∃ schema ∈ schemas, ¬ Undashed schema) → NamesUndashed (before.disk.tree top) →
          ∀ modules, result ≠ .ok modules) := by
  constructor
  · intro schema ending
    exact ⟨moduleName_eq_iff ending, modulePath_eq_iff ending root⟩
  · intro top schemas policy before after result rooted spares compiled ran
    constructor
    · intro undashed
      exact (finalize_finds rooted spares compiled undashed).of_on ran
    · intro someDashed namesUndashed
      obtain ⟨schema, member, dashed⟩ := someDashed
      exact (finalize_fails_of_dashed rooted namesUndashed member dashed).of_on ran

/-- A machine on which the compiler wrote the module of a schema in a directory with a dash. -/
def emittedDashed : Machine :=
  Machine.fresh {} ⟨[
    (["p"], .directory Disk.directoryMode),
    (["p", "a_b"], .directory Disk.directoryMode),
    (["p", "a_b", "x_pb2.py"], .file [] Disk.fileMode)]⟩

/-- The module that the compiler wrote is looked for in another directory. -/
theorem dashed_directory_missed :
    moduleName "a-b/x.proto" ≠ emittedName "a-b/x.proto" ∧
    emittedDashed.disk.tree ["p"] (emittedFile "a-b/x.proto").parts ≠ none ∧
    ((finalize (Path.parse "/p") ["a-b/x.proto"] .standard).on emittedDashed).1 =
      .error (.system ⟨Errno.noEntry, ["/p/a-b/x_pb2.py"]⟩) ∧
    ∀ modules, ((finalize (Path.parse "/p") ["a-b/x.proto"] .standard).on emittedDashed).1 ≠
      .ok modules := by
  have ending : schemaEnding <:+ "a-b/x.proto".toList := by decide
  have dashed : ¬ Undashed "a-b/x.proto" := by decide
  have there : emittedDashed.disk.tree ["p"] (emittedFile "a-b/x.proto").parts ≠ none := by
    decide +kernel
  have rooted : Disk.Rooted [] (Path.parse "/p") ["p"] emittedDashed.disk :=
    ⟨Disk.isTree_of_entries (by decide +kernel), Disk.hasDirectory_top _,
      ⟨Disk.directoryMode, by decide +kernel⟩,
      fun place target _ => Disk.linkless_of_entries (by decide +kernel) place target⟩
  have namesUndashed : NamesUndashed (emittedDashed.disk.tree ["p"]) := by
    have entries : ∀ entry ∈ emittedDashed.disk.entries, ∀ name ∈ entry.1, '-' ∉ name.toList := by
      decide
    intro place isThere name member
    obtain ⟨node, found⟩ := Option.ne_none_iff_exists'.mp isThere
    exact entries (["p"] ++ place, node) (Disk.mem_entries_of_get? (by simp) found) name
      (List.mem_append_right _ member)
  have compiled : Compiled (emittedDashed.disk.tree ["p"]) ["a-b/x.proto"] := by
    intro schema member
    rw [List.mem_singleton.mp member]
    exact ⟨ending, there⟩
  have spares : emittedDashed.schedule.SparesMissing := fun _ _ impossible => by cases impossible
  refine ⟨fun same => dashed ?_, there, by decide +kernel, ?_⟩
  · exact ((agrees_with_compiler_iff_undashed (Path.parse "/p")).1 _ ending).1.mp same
  exact ((agrees_with_compiler_iff_undashed (Path.parse "/p")).2 ["p"] ["a-b/x.proto"] .standard
    emittedDashed _ _ rooted spares compiled (Prod.eta _).symm).2
    ⟨_, List.mem_singleton.mpr rfl, dashed⟩ namesUndashed

end Package

end Bindery
