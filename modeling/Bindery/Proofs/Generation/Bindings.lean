/-
This file counts the bindings of a run that succeeds.

The inputs of an invocation that passed its checks are different files, the run reports as many
modules as there are inputs, and the published package has a file for the module of each input. But
modules are named by the words of their schemas: names of files in which an underscore stands for
a dash, and words that are cut at slashes and points alike. So there are as many bindings as inputs
exactly if no two schemas have the same words where their files lie.
-/

import Bindery.Proofs.Generation.Writer
import Bindery.Proofs.Package.Words
import Mathlib.Data.List.Dedup

namespace Bindery

open Text

namespace Package

/-! ### Schemas with the same words -/

/-- The words of the name of a schema's module. -/
def spelling (schema : String) : List (List Char) × List Char :=
  (wordsAbove schema, lastWord schema)

/-- The words that count where the module of a schema lies. -/
def filing (schema : String) : List (List Char) × List Char :=
  ((wordsAbove schema).filter (· ≠ []), lastWord schema)

/-- The file of the module of a schema, below the root of the package. -/
def bindingFile (schema : String) : Place := fileOf (moduleName schema) sourceSuffix

/-- Two schemas have modules of one name exactly if they have the same words. -/
theorem moduleName_eq_moduleName_iff (schema other : String) :
    moduleName schema = moduleName other ↔ spelling schema = spelling other := by
  rw [spelling, spelling, Prod.mk.injEq]
  constructor
  · intro same
    have words := fields_moduleName schema
    rw [same, fields_moduleName other] at words
    have parts := List.append_inj' words (by simp)
    have last := List.append_cancel_right (List.cons.inj parts.2).1
    exact ⟨parts.1.symm, last.symm⟩
  · intro same
    rw [← String.toList_inj, ← joinFields_fields '.' (moduleName schema).toList,
      ← joinFields_fields '.' (moduleName other).toList, fields_moduleName, fields_moduleName,
      same.1, same.2]

/-- Two schemas have modules with one file exactly if the words that count are the same. -/
theorem bindingFile_eq_bindingFile_iff (schema other : String) :
    bindingFile schema = bindingFile other ↔ filing schema = filing other := by
  rw [bindingFile, bindingFile, fileOf_moduleName, fileOf_moduleName, filing, filing,
    Prod.mk.injEq]
  constructor
  · intro same
    have parts := List.append_inj' same (by simp)
    refine ⟨(List.map_inj_right fun _ _ => String.ofList_inj.mp).mp parts.1, ?_⟩
    have chars := congrArg String.toList (List.cons.inj parts.2).1
    rw [String.toList_append, String.toList_append, String.toList_ofList,
      String.toList_ofList] at chars
    exact List.append_cancel_right (List.append_cancel_right chars)
  · intro same
    rw [same.1, same.2]

end Package

/-- What tells elements apart in the same way as something else repeats itself if that does. -/
theorem nodup_map_iff_of_eq_iff {α β γ : Type} {view : α → β} {other : α → γ}
    (alike : ∀ first second, view first = view second ↔ other first = other second)
    (list : List α) : (list.map view).Nodup ↔ (list.map other).Nodup := by
  rw [List.Nodup, List.Nodup, List.pairwise_map, List.pairwise_map]
  simp only [ne_eq, alike]

/-- A list has as many different elements as elements exactly if none repeats itself. -/
theorem length_dedup_eq_iff {α : Type} [DecidableEq α] (list : List α) :
    list.dedup.length = list.length ↔ list.Nodup := by
  constructor
  · intro same
    rw [← (List.dedup_sublist list).eq_of_length same]
    exact List.nodup_dedup list
  · intro nodup
    rw [List.dedup_eq_self.mpr nodup]

namespace Generation

open Package

variable {lookup : Compiler.Lookup} {run : Runner} {invocation : Invocation} {policy : Policy}
  {schemas : List String} {compiler : Compiler} {before after : Machine}

/-! ### What a run reports -/

/-- The record of how many modules were generated. -/
def generatedMessage (count : Nat) (output : Path) : String :=
  "Generated " ++ toString count ++ " binding modules in " ++ output.text

/-- If a run succeeded, a record says how many modules were generated, unless such records are
dropped. -/
def Reports (count : Nat) (output : Path) (result : Except Failure Unit) (after : Machine) : Prop :=
  result = .ok () → after.host.level.deciding ≤ Log.Level.info →
    .logged Log.Level.info (.text (generatedMessage count output)) ∈ after.journal

/-- The modules of the work are those of the schemas. -/
theorem work_modules (staging : Path) (machine : Machine) :
    (work run invocation policy schemas compiler staging).Meets machine fun result _ =>
      ∀ modules, result = .ok modules → modules = modulesOf schemas := by
  refine (work_effort staging machine).mono fun result after effort modules succeeded => ?_
  cases effort with
  | uncompiled | unfinished => cases succeeded
  | attempted _ compiled finished _ _ found finishedIt ended =>
    obtain ⟨outcome, finalized, same⟩ := (finish_ran _ schemas policy compiled).of_on finishedIt
    rw [same found rfl] at finalized
    cases ended with
    | error failure => cases succeeded
    | ok value =>
      cases succeeded
      exact finalize_value finalized

theorem body_reports (listed : invocation.virtualPaths = .ok schemas) (machine : Machine) :
    (body lookup run invocation policy).Meets machine
      (Reports schemas.length invocation.outputDirectory) := by
  have failed : ∀ (failure : Failure) (after : Machine),
      Reports schemas.length invocation.outputDirectory (.error failure) after :=
    fun _ _ impossible => by cases impossible
  unfold body
  refine (Action.meets_on _ machine).bind (fun compiler resolved _ => ?_)
    fun failure after _ => failed failure after
  rw [listed]
  refine (Action.log_logged _ _ resolved).bind (fun _ ready _ => ?_)
    fun failure after _ => failed failure after
  refine (Action.meets_on _ ready).bind (fun staging staged _ => ?_)
    fun failure after _ => failed failure after
  have worked : ((work run invocation policy schemas compiler staging).andFinally
      (cleanUp staging)).Meets staged fun result _ =>
        ∀ modules, result = .ok modules → modules = modulesOf schemas := by
    refine (work_modules staging staged).andFinally fun result left known => ?_
    refine (Action.meets_on _ left).mono fun final after _ => ?_
    cases final with
    | ok _ => exact known
    | error failure => exact fun _ impossible => by cases impossible
  refine worked.bind (fun modules between known => ?_) fun failure after _ => failed failure after
  refine (Action.log_logged _ _ between).mono fun result after logged _ high => ?_
  obtain ⟨-, follows, recorded⟩ := logged
  rw [follows.follows.host] at high
  have count : modules.length = schemas.length := by
    rw [known modules rfl, modulesOf, (sorted_perm _).length_eq, List.length_map]
  rw [← count]
  exact recorded high

/-- A run that succeeds reports as many modules as there are schemas. -/
theorem generate_reports (listed : invocation.virtualPaths = .ok schemas) (machine : Machine) :
    (generate lookup run invocation policy).Meets machine
      (Reports schemas.length invocation.outputDirectory) := by
  unfold generate
  refine (body_reports listed machine).andFinally fun result between reports => ?_
  refine (Action.log_logged _ _ between).mono fun final after ended => ?_
  obtain ⟨rfl, logged, -⟩ := ended
  intro succeeded high
  rw [logged.follows.host] at high
  exact logged.follows.journal.subset (reports succeeded high)

/-! ### What a run publishes -/

/-- What a run that succeeds publishes has a file for the module of every schema. -/
theorem published_hasFile (quiet : Quiet lookup) (confined : ConfinedRunner run invocation policy)
    (validated : invocation.Validated) (isTree : before.disk.IsTree)
    (openWay : OpenWay before invocation.outputDirectory (lastNumber after))
    (listed : invocation.virtualPaths = .ok schemas)
    (ran : (generate lookup run invocation policy).on before = (.ok (), after)) :
    ∃ tree : Tree, after.disk.entryAt before.host.here invocation.outputDirectory = some tree ∧
      ∀ schema ∈ schemas, tree.HasFile (bindingFile schema) := by
  obtain ⟨emission, place, published⟩ := exists_published quiet confined validated.isRegular
    validated.isAbsolute isTree openWay listed ran
  refine ⟨_, published.entry, fun schema member => ?_⟩
  rw [published.tree_eq]
  have isModule : moduleName schema ∈ modulesOf schemas :=
    mem_modulesOf.mpr ⟨schema, member, rfl⟩
  exact (published.complete _ isModule).hasFile.finish _ _

/-- The inputs of a run that succeeds are different files, the run reports as many modules as there
are inputs, and the published package has the file of every input's module. There are as many names
of modules as inputs exactly if no two schemas have the same words, and as many binding files
exactly if no two schemas have the same words where their files lie. -/
theorem binding_per_input_iff (quiet : Quiet lookup)
    (confined : ConfinedRunner run invocation policy) (validated : invocation.Validated)
    (isTree : before.disk.IsTree)
    (openWay : OpenWay before invocation.outputDirectory (lastNumber after))
    (listed : invocation.virtualPaths = .ok schemas)
    (ran : (generate lookup run invocation policy).on before = (.ok (), after)) :
    invocation.inputFiles.Nodup ∧
    (before.host.level.deciding ≤ Log.Level.info → .logged Log.Level.info (.text
      (generatedMessage invocation.inputFiles.length invocation.outputDirectory)) ∈
        after.journal) ∧
    ((schemas.map moduleName).Nodup ↔ (schemas.map spelling).Nodup) ∧
    ∃ tree : Tree, after.disk.entryAt before.host.here invocation.outputDirectory = some tree ∧
      (∀ file ∈ (schemas.map bindingFile).dedup, tree.HasFile file) ∧
      ((schemas.map bindingFile).dedup.length = invocation.inputFiles.length ↔
        (schemas.map filing).Nodup) := by
  have count : schemas.length = invocation.inputFiles.length :=
    Invocation.length_of_seenFrom listed
  have onward := ((generate_meets quiet confined validated.isRegular validated.isAbsolute
    isTree).of_on ran).1
  have reports := (generate_reports listed before).of_on ran
  obtain ⟨tree, entry, holds⟩ :=
    published_hasFile quiet confined validated isTree openWay listed ran
  refine ⟨validated.allAccepted.nodup, fun high => ?_,
    nodup_map_iff_of_eq_iff moduleName_eq_moduleName_iff schemas, tree, entry,
    fun file isFile => ?_, ?_⟩
  · rw [← count]
    exact reports rfl (onward.host ▸ high)
  · obtain ⟨schema, member, same⟩ := List.mem_map.mp (List.mem_dedup.mp isFile)
    exact same ▸ holds schema member
  · rw [← count, ← List.length_map (f := bindingFile), length_dedup_eq_iff]
    exact nodup_map_iff_of_eq_iff bindingFile_eq_bindingFile_iff schemas

/-! ### Two inputs with one binding -/

/-- The bindings of two schemas are to be made, in one of whose names a dash stands for the
underscore of the other. -/
def dashAndUnderscore : Invocation :=
  ⟨Path.parse "/in", [Path.parse "/in/a-b.proto", Path.parse "/in/a_b.proto"], Path.parse "/out",
    none⟩

/-- A machine with the two schemas. -/
def withTwoSchemas : Machine :=
  Machine.fresh {} ⟨[
    (["in"], .directory Disk.directoryMode),
    (["in", "a-b.proto"], .file [] Disk.fileMode),
    (["in", "a_b.proto"], .file [] Disk.fileMode)]⟩

/-- A run with a compiler that writes the one file that both schemas have. -/
def generateTwo : Except Failure Unit × Machine :=
  (generate foundInstalled (writerTo installed dashAndUnderscore .standard 1 "a_b_pb2.py" "new\n")
    dashAndUnderscore .standard).on withTwoSchemas

/-- The invocation is accepted, the run succeeds and reports two modules, but there is one file. -/
theorem two_inputs_share_binding :
    dashAndUnderscore.Validated ∧ generateTwo.1 = .ok () ∧
    .logged Log.Level.info (.text (generatedMessage 2 (Path.parse "/out"))) ∈
      generateTwo.2.journal ∧
    ∃ tree : Tree, generateTwo.2.disk.entryAt [] (Path.parse "/out") = some tree ∧
      tree.HasFile ["a_b_pb2.py"] ∧
      (["a-b.proto", "a_b.proto"].map bindingFile).dedup.length ≠ 2 := by
  have absolute : dashAndUnderscore.outputDirectory.isAbsolute = true := by decide +kernel
  have validated : dashAndUnderscore.Validated := by
    have accepted : ((Invocation.ofPaths (Path.parse "/in") [Path.parse "a-b.proto",
        Path.parse "a_b.proto"] (Path.parse "/out") none).on withTwoSchemas).1 =
          .ok dashAndUnderscore := by
      decide +kernel
    have regular : Path.IsRegular ⟨.root, withTwoSchemas.host.here⟩ :=
      fun _ impossible => by cases impossible
    exact ⟨withTwoSchemas, _, _, _, "/out", _, regular, Action.on_eq accepted⟩
  have openWay : OpenWay withTwoSchemas dashAndUnderscore.outputDirectory
      (lastNumber generateTwo.2) :=
    fun base _ => unobstructed_of_top absolute (by decide +kernel) base
  have succeeded : generateTwo.1 = .ok () := by decide +kernel
  obtain ⟨-, reported, -, tree, entry, holds, counted⟩ := binding_per_input_iff
    quiet_foundInstalled (confined_writerTo absolute (by decide) installed .standard 1 "new\n")
    validated (Disk.isTree_of_entries (by decide +kernel)) openWay
    (show dashAndUnderscore.virtualPaths = .ok ["a-b.proto", "a_b.proto"] by decide +kernel)
    (Action.on_eq succeeded)
  refine ⟨validated, succeeded, reported (by decide), tree, entry, holds _ (by decide +kernel),
    fun same => ?_⟩
  exact absurd (counted.mp same) (by decide +kernel)

end Generation

end Bindery
