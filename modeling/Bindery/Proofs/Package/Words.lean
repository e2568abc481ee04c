/-
This file spells the dotted name of a module as words.

The words of a name are what stands between its points. Those of the name of a schema's module are
the words of the directories on the way to the schema, and then the words of its file's stem, in the
spelling of modules; the last word bears the ending of modules. Words may be empty. Where a module's
file lies, empty words do not count.
-/

import Bindery.Proofs.Package.Files
import Bindery.Proofs.Package.Closure

namespace Bindery

open Text

/-! ### Texts that end with a field -/

/-- Before the last field, a separator follows every field. -/
theorem Text.joinFields_concat (separator : Char) (front : List (List Char)) (last : List Char) :
    joinFields separator (front ++ [last]) = front.flatMap (· ++ [separator]) ++ last := by
  induction front with
  | nil => rfl
  | cons field rest inductionHypothesis =>
    obtain ⟨next, others, shape⟩ : ∃ next others, rest ++ [last] = next :: others :=
      List.exists_cons_of_ne_nil (by simp)
    rw [List.cons_append, shape, joinFields, ← shape, inductionHypothesis]
    simp

/-- The last field of a text, after those before it. -/
theorem Text.fields_eq_concat (separator : Char) (text : List Char) :
    fields separator text =
      (fields separator text).dropLast ++ [(fields separator text).getLastD []] := by
  have some := fields_ne_nil separator text
  rw [List.getLastD_eq_getLast?, List.getLast?_eq_some_getLast some, Option.getD_some,
    List.dropLast_concat_getLast]

/-- What holds no separator and follows a text goes on with its last field. -/
theorem Text.fields_append_of_not_mem {separator : Char} {back : List Char}
    (absent : separator ∉ back) (text : List Char) :
    fields separator (text ++ back) =
      (fields separator text).dropLast ++ [(fields separator text).getLastD [] ++ back] := by
  have inLast : separator ∉ (fields separator text).getLastD [] := by
    refine not_mem_of_mem_fields separator text _ ?_
    rw [List.getLastD_eq_getLast?, List.getLast?_eq_some_getLast (fields_ne_nil separator text)]
    exact List.getLast_mem _
  have joined : text ++ back = joinFields separator
      ((fields separator text).dropLast ++ [(fields separator text).getLastD [] ++ back]) := by
    rw [joinFields_concat, ← List.append_assoc, ← joinFields_concat, ← fields_eq_concat,
      joinFields_fields]
  rw [joined, fields_joinFields separator _ (by simp)]
  intro field member
  rcases List.mem_append.mp member with front | final
  · exact not_mem_of_mem_fields separator text field (List.dropLast_subset _ front)
  · rw [List.mem_singleton.mp final, List.mem_append]
    exact fun held => held.elim inLast absent

/-- Changing every character of a joined text changes the texts and what stands between them. -/
theorem Text.map_joinFields (separator : Char) (change : Char → Char) (list : List (List Char)) :
    (joinFields separator list).map change =
      joinFields (change separator) (list.map (List.map change)) := by
  induction list with
  | nil => rfl
  | cons text others inductionHypothesis =>
    by_cases alone : others = []
    · rw [alone]
      rfl
    · obtain ⟨next, more, shape⟩ := List.exists_cons_of_ne_nil alone
      rw [shape] at inductionHypothesis ⊢
      rw [joinFields, List.map_append, List.map_cons, inductionHypothesis]
      rfl

/-- A text with other characters is cut where the new separators stand. -/
theorem Text.fields_map {separator other : Char} {change : Char → Char} {text : List Char}
    (same : change separator = other) (new : ∀ c ∈ text, change c = other → c = separator) :
    fields other (text.map change) = (fields separator text).map (List.map change) := by
  have joined : text.map change =
      joinFields other ((fields separator text).map (List.map change)) := by
    rw [← same, ← map_joinFields, joinFields_fields]
  rw [joined, fields_joinFields other _ (by simpa using fields_ne_nil separator text)]
  intro field member
  obtain ⟨old, isField, shape⟩ := List.mem_map.mp member
  rw [← shape, List.mem_map]
  intro ⟨c, inOld, became⟩
  have inText : c ∈ text := by
    rw [← joinFields_fields separator text]
    exact mem_joinFields_of_mem isField inOld
  exact not_mem_of_mem_fields separator text old isField (new c inText became ▸ inOld)

/-- The fields of a joined text are those of the texts that were joined. -/
theorem Text.fields_joinFields_flatMap (separator : Char) {list : List (List Char)}
    (some : list ≠ []) :
    fields separator (joinFields separator list) = list.flatMap (fields separator) := by
  induction list with
  | nil => exact absurd rfl some
  | cons text others inductionHypothesis =>
    by_cases alone : others = []
    · rw [alone]
      simp [joinFields]
    · obtain ⟨next, more, shape⟩ := List.exists_cons_of_ne_nil alone
      rw [List.flatMap_cons, ← inductionHypothesis alone, shape, joinFields,
        fields_append_separator]

namespace Package

/-! ### The words of a schema -/

/-- The names of the directories on the way to a schema. -/
def directoriesOf (schema : String) : List (List Char) := (fields '/' schema.toList).dropLast

/-- The stem of a schema's file, in the spelling of modules. -/
def stemOf (schema : String) : List Char :=
  moduleStem (schemaStem ((fields '/' schema.toList).getLastD []))

/-- The words above the module of a schema. -/
def wordsAbove (schema : String) : List (List Char) :=
  (directoriesOf schema).flatMap (fields '.') ++ (fields '.' (stemOf schema)).dropLast

/-- The last word of the name of a schema's module, without the ending of modules. -/
def lastWord (schema : String) : List Char := (fields '.' (stemOf schema)).getLastD []

theorem moduleFields_concat (front : List (List Char)) (file : List Char) :
    moduleFields (front ++ [file]) = front ++ [moduleStem (schemaStem file) ++ moduleEnding] := by
  induction front with
  | nil => rfl
  | cons directory rest inductionHypothesis =>
    obtain ⟨next, others, shape⟩ : ∃ next others, rest ++ [file] = next :: others :=
      List.exists_cons_of_ne_nil (by simp)
    rw [List.cons_append, shape, moduleFields, ← shape, inductionHypothesis, List.cons_append]

/-- The name of a module consists of the directories, the stem and the ending. -/
theorem toList_moduleName (schema : String) :
    (moduleName schema).toList =
      joinFields '.' (directoriesOf schema ++ [stemOf schema ++ moduleEnding]) := by
  rw [moduleName, String.toList_ofList, fields_eq_concat, moduleFields_concat]
  rfl

/-- The words of the name of a module. -/
theorem fields_moduleName (schema : String) :
    fields '.' (moduleName schema).toList =
      wordsAbove schema ++ [lastWord schema ++ moduleEnding] := by
  have ending : '.' ∉ moduleEnding := by decide
  rw [toList_moduleName, fields_joinFields_flatMap '.' (by simp), List.flatMap_append,
    List.flatMap_singleton, fields_append_of_not_mem ending, ← List.append_assoc]
  rfl

/-- Empty words do not count on the way to a file. -/
theorem pieces_of_fields {name : String} {front : List (List Char)} {last : List Char}
    (words : fields '.' name.toList = front ++ [last]) (lastCounts : last ≠ []) :
    pieces name = (front.filter (· ≠ [])).map String.ofList ++ [String.ofList last] := by
  have lastKept : [String.ofList last].filter (· ≠ "") = [String.ofList last] :=
    List.filter_cons_of_pos (decide_eq_true fun empty =>
      lastCounts (String.ofList_eq_empty_iff.mp empty))
  have counts : (fun word : List Char => decide (String.ofList word ≠ "")) =
      fun word => decide (word ≠ []) := by
    funext word
    rw [decide_eq_decide, ne_eq, String.ofList_eq_empty_iff]
  rw [pieces, cut, words, List.map_append, List.filter_append, List.map_singleton, lastKept,
    List.filter_map]
  exact congrArg (fun kept => (List.filter kept front).map String.ofList ++ _) counts

theorem fileOf_of_fields {name : String} {front : List (List Char)} {last : List Char}
    (words : fields '.' name.toList = front ++ [last]) (lastCounts : last ≠ []) (suffix : String) :
    fileOf name suffix =
      (front.filter (· ≠ [])).map String.ofList ++ [String.ofList last ++ suffix] := by
  rw [fileOf, pieces_of_fields words lastCounts, List.dropLast_concat, List.getLastD_concat]

theorem lastWord_append_ne_nil (schema : String) : lastWord schema ++ moduleEnding ≠ [] := by
  intro empty
  exact absurd (List.append_eq_nil_iff.mp empty).2 (by decide)

/-- The file of a module lies in the directories that its words name. -/
theorem fileOf_moduleName (schema suffix : String) :
    fileOf (moduleName schema) suffix =
      ((wordsAbove schema).filter (· ≠ [])).map String.ofList ++
        [String.ofList (lastWord schema ++ moduleEnding) ++ suffix] :=
  fileOf_of_fields (fields_moduleName schema) (lastWord_append_ne_nil schema) suffix

end Package

end Bindery
