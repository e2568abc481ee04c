/-
This file finds the places of generated modules below the root of their package.

Whatever a schema is called, the name of its module holds no slash, and what stands between its
points names directories and, at the end, a file. Empty names vanish. So every file that is read
or written for a module lies below the root, at names that are names of entries.
-/

import Bindery.Package.Finalize
import Bindery.Proofs.Disk.Built
import Bindery.Proofs.Text.Joined
import Mathlib.Data.List.TakeWhile

namespace Bindery

open Text

namespace Package

/-! ### Names of modules -/

/-- Every character of a module's name is a point, stands in the schema's path, or is written
where something else was. -/
theorem mem_moduleFields {list : List (List Char)} {field : List Char}
    (inside : field ∈ moduleFields list) :
    field ∈ list ∨ ∃ file ∈ list, field = moduleStem (schemaStem file) ++ moduleEnding := by
  induction list with
  | nil => cases inside
  | cons file others inductionHypothesis =>
    cases others with
    | nil => exact .inr ⟨file, List.mem_cons_self, List.mem_singleton.mp inside⟩
    | cons next more =>
      rcases List.mem_cons.mp inside with same | later
      · exact .inl (same ▸ List.mem_cons_self)
      · rcases inductionHypothesis later with kept | ⟨other, member, shape⟩
        · exact .inl (List.mem_cons_of_mem _ kept)
        · exact .inr ⟨other, List.mem_cons_of_mem _ member, shape⟩

theorem mem_moduleStem {c : Char} {file : List Char} (member : c ∈ moduleStem (schemaStem file)) :
    c = '_' ∨ c ∈ file := by
  obtain ⟨old, inStem, same⟩ := List.mem_map.mp member
  split at same
  next => exact .inl same.symm
  next =>
    subst same
    unfold schemaStem at inStem
    cases shorter : beforeBack? schemaEnding file with
    | none =>
      rw [shorter] at inStem
      exact .inr inStem
    | some stem =>
      rw [shorter] at inStem
      rw [(beforeBack?_eq_some_iff _ _ _).mp shorter]
      exact .inr (List.mem_append_left _ inStem)

/-- A character of a module's name stands between the slashes of the schema's path, unless it is
one of those that are written there. -/
theorem mem_moduleName {c : Char} {schema : String} (member : c ∈ (moduleName schema).toList) :
    c ∈ '.' :: '_' :: moduleEnding ∨ ∃ field ∈ fields '/' schema.toList, c ∈ field := by
  unfold moduleName at member
  rw [String.toList_ofList] at member
  rcases mem_joinFields member with same | ⟨field, inside, found⟩
  · exact .inl (same ▸ List.mem_cons_self)
  · rcases mem_moduleFields inside with kept | ⟨file, kept, shape⟩
    · exact .inr ⟨field, kept, found⟩
    · rw [shape] at found
      rcases List.mem_append.mp found with inStem | inEnding
      · rcases mem_moduleStem inStem with same | inFile
        · exact .inl (same ▸ List.mem_cons_of_mem _ List.mem_cons_self)
        · exact .inr ⟨file, kept, inFile⟩
      · exact .inl (List.mem_cons_of_mem _ (List.mem_cons_of_mem _ inEnding))

/-- The name of a module holds no slash. -/
theorem slash_not_mem_moduleName (schema : String) : '/' ∉ (moduleName schema).toList := by
  intro member
  rcases mem_moduleName member with written | ⟨field, inside, found⟩
  · exact absurd written (by decide)
  · exact not_mem_of_mem_fields _ _ _ inside found

/-- Where the schema's path can be handed to the system, the name of its module can, too. -/
theorem null_not_mem_moduleName {schema : String} (usable : '\x00' ∉ schema.toList) :
    '\x00' ∉ (moduleName schema).toList := by
  intro member
  rcases mem_moduleName member with written | ⟨field, inside, found⟩
  · exact absurd written (by decide)
  · rw [← joinFields_fields '/' schema.toList] at usable
    exact usable (mem_joinFields_of_mem inside found)

theorem exists_ending_mem_moduleFields {list : List (List Char)} (some : list ≠ []) :
    ∃ field ∈ moduleFields list, '2' ∈ field := by
  induction list with
  | nil => exact absurd rfl some
  | cons file others inductionHypothesis =>
    cases others with
    | nil =>
      exact ⟨_, List.mem_cons_self, List.mem_append_right _ (by decide)⟩
    | cons next more =>
      obtain ⟨field, inside, found⟩ := inductionHypothesis (List.cons_ne_nil _ _)
      exact ⟨field, List.mem_cons_of_mem _ inside, found⟩

/-- What stands between the points of a module's name is not all empty. -/
theorem exists_piece_ne_empty (schema : String) :
    ∃ piece ∈ cut '.' (moduleName schema), piece ≠ "" := by
  obtain ⟨field, inside, found⟩ :=
    exists_ending_mem_moduleFields (fields_ne_nil '/' schema.toList)
  have member : '2' ∈ (moduleName schema).toList := by
    rw [moduleName, String.toList_ofList]
    exact mem_joinFields_of_mem inside found
  rw [← joinFields_fields '.' (moduleName schema).toList] at member
  rcases mem_joinFields member with same | ⟨piece, inPieces, inPiece⟩
  · exact absurd same (by decide)
  · refine ⟨String.ofList piece, List.mem_map_of_mem inPieces, fun empty => ?_⟩
    rw [String.ofList_eq_empty_iff.mp empty] at inPiece
    cases inPiece

/-! ### The order of modules -/

theorem insertSorted_perm (name : String) (names : List String) :
    (insertSorted name names).Perm (name :: names) := by
  induction names with
  | nil => exact .refl _
  | cons first rest inductionHypothesis =>
    unfold insertSorted
    split
    next => exact .refl _
    next => exact (inductionHypothesis.cons first).trans (.swap name first rest)

theorem sorted_perm (names : List String) : (sorted names).Perm names := by
  induction names with
  | nil => exact .refl _
  | cons first rest inductionHypothesis =>
    exact (insertSorted_perm first (sorted rest)).trans (inductionHypothesis.cons first)

theorem insertSorted_pairwise (name : String) {names : List String}
    (increasing : names.Pairwise (· ≤ ·)) : (insertSorted name names).Pairwise (· ≤ ·) := by
  induction increasing with
  | nil => exact List.pairwise_singleton _ _
  | @cons first rest below increasing inductionHypothesis =>
    unfold insertSorted
    split
    next le =>
      refine .cons (fun other member => ?_) (.cons below increasing)
      rcases List.mem_cons.mp member with rfl | later
      · exact le
      · exact String.le_trans le (below other later)
    next notLe =>
      refine .cons (fun other member => ?_) inductionHypothesis
      rcases List.mem_cons.mp ((insertSorted_perm name rest).mem_iff.mp member) with rfl | later
      · exact (String.le_total other first).resolve_left notLe
      · exact below other later

theorem sorted_pairwise (names : List String) : (sorted names).Pairwise (· ≤ ·) := by
  induction names with
  | nil => exact .nil
  | cons first rest inductionHypothesis => exact insertSorted_pairwise first inductionHypothesis

/-- The order in which names are given does not matter. -/
theorem sorted_eq_of_perm {names others : List String} (perm : names.Perm others) :
    sorted names = sorted others :=
  List.Perm.eq_of_pairwise (fun _ _ _ _ => String.le_antisymm) (sorted_pairwise names)
    (sorted_pairwise others) ((sorted_perm names).trans (perm.trans (sorted_perm others).symm))

/-- The modules of schemas, in order. -/
def modulesOf (schemas : List String) : List String := sorted (schemas.map moduleName)

theorem mem_modulesOf {name : String} {schemas : List String} :
    name ∈ modulesOf schemas ↔ ∃ schema ∈ schemas, moduleName schema = name :=
  (sorted_perm _).mem_iff.trans List.mem_map

theorem modulesOf_eq_of_perm {schemas others : List String} (perm : schemas.Perm others) :
    modulesOf schemas = modulesOf others :=
  sorted_eq_of_perm (perm.map moduleName)

/-! ### Places of modules -/

/-- A name of a module: there is no slash in it, and something other than points. -/
def IsModuleName (name : String) : Prop :=
  '/' ∉ name.toList ∧ ∃ piece ∈ cut '.' name, piece ≠ ""

theorem isModuleName_moduleName (schema : String) : IsModuleName (moduleName schema) :=
  ⟨slash_not_mem_moduleName schema, exists_piece_ne_empty schema⟩

theorem isModuleName_of_mem_modulesOf {name : String} {schemas : List String}
    (member : name ∈ modulesOf schemas) : IsModuleName name := by
  obtain ⟨schema, -, rfl⟩ := mem_modulesOf.mp member
  exact isModuleName_moduleName schema

/-- The names on the way from the root of a package to a module. -/
def pieces (name : String) : List String := (cut '.' name).filter (· ≠ "")

/-- The place of a module's file below the root of its package. -/
def fileOf (name suffix : String) : Place :=
  (pieces name).dropLast ++ [(pieces name).getLastD "" ++ suffix]

theorem fileOf_ne_nil (name suffix : String) : fileOf name suffix ≠ [] := by simp [fileOf]

/-- A piece holds no point. -/
theorem point_not_mem_piece {name piece : String} (inside : piece ∈ cut '.' name) :
    '.' ∉ piece.toList := by
  obtain ⟨field, inFields, rfl⟩ := List.mem_map.mp inside
  rw [String.toList_ofList]
  exact not_mem_of_mem_fields _ _ _ inFields

/-- A piece holds no character that the name does not hold. -/
theorem not_mem_piece {c : Char} {name piece : String} (absent : c ∉ name.toList)
    (inside : piece ∈ cut '.' name) : c ∉ piece.toList := by
  obtain ⟨field, inFields, rfl⟩ := List.mem_map.mp inside
  rw [String.toList_ofList]
  intro member
  rw [← joinFields_fields '.' name.toList] at absent
  exact absent (mem_joinFields_of_mem inFields member)

theorem isName_piece {name piece : String} (inside : piece ∈ pieces name) : IsName piece := by
  obtain ⟨inCut, some⟩ := List.mem_filter.mp inside
  have noPoint := point_not_mem_piece inCut
  refine ⟨by simpa using some, ?_, ?_⟩
  · rintro rfl
    exact noPoint (by decide)
  · rintro rfl
    exact noPoint (by decide)

theorem pieces_ne_nil {name : String} (named : IsModuleName name) : pieces name ≠ [] := by
  obtain ⟨-, piece, inside, some⟩ := named
  exact List.ne_nil_of_mem (List.mem_filter.mpr ⟨inside, by simpa using some⟩)

/-- A text without slashes and points is a name, unless it is empty. -/
theorem child_piece (base : Path) {piece : String} (noSlash : '/' ∉ piece.toList)
    (noPoint : '.' ∉ piece.toList) :
    base.child piece = base.down (if piece = "" then [] else [piece]) := by
  have anchor : Path.anchorOf piece.toList = .relative :=
    Path.anchorOf_of_head fun slash => noSlash (List.mem_of_mem_head? slash)
  have parts : (Path.parse piece).parts = if piece = "" then [] else [piece] := by
    unfold Path.parse
    rw [fields_of_not_mem _ _ noSlash]
    by_cases empty : piece = ""
    · subst empty
      rfl
    · have isPart : Path.isPart piece.toList = true :=
        Path.isPart_of_not_mem (by simpa using empty) noPoint
      rw [if_neg empty, List.filter_cons_of_pos isPart]
      simp
  have relative : (Path.parse piece).isAbsolute = false := by
    show decide (Path.anchorOf piece.toList ≠ .relative) = false
    rw [anchor]
    rfl
  show base.append (Path.parse piece) = _
  unfold Path.append
  rw [relative, if_neg (by simp), parts]
  rfl

theorem foldl_child (base : Path) {texts : List String}
    (noSlash : ∀ text ∈ texts, '/' ∉ text.toList) (noPoint : ∀ text ∈ texts, '.' ∉ text.toList) :
    texts.foldl Path.child base = base.down (texts.filter (· ≠ "")) := by
  induction texts generalizing base with
  | nil => simp [Path.down]
  | cons text others inductionHypothesis =>
    rw [List.foldl_cons, child_piece base (noSlash text List.mem_cons_self)
        (noPoint text List.mem_cons_self),
      inductionHypothesis _ (fun each member => noSlash each (List.mem_cons_of_mem _ member))
        (fun each member => noPoint each (List.mem_cons_of_mem _ member)), Path.down_down]
    by_cases empty : text = ""
    · simp [empty]
    · simp [empty]

/-- A name without points is its own stem. -/
theorem stemOf_of_not_mem {name : List Char} (absent : '.' ∉ name) : Path.stemOf name = name := by
  have nothingLeft : name.reverse.dropWhile (· ≠ '.') = [] := by
    rw [List.dropWhile_eq_nil_iff]
    intro c member
    have different : c ≠ '.' := fun same => absent (same ▸ List.mem_reverse.mp member)
    simpa using different
  unfold Path.stemOf
  rw [nothingLeft]
  simp

/-- The file of a module lies below the root. -/
theorem modulePath_eq (root : Path) {name : String} (named : IsModuleName name) {suffix : String}
    (isSuffix : Path.isSuffix suffix.toList = true) :
    modulePath root name suffix = .ok (root.down (fileOf name suffix)) := by
  have folded : (cut '.' name).foldl Path.child root = root.down (pieces name) :=
    foldl_child root (fun piece inside => not_mem_piece named.1 inside)
      (fun piece inside => point_not_mem_piece inside)
  have someNames := pieces_ne_nil named
  have final : (root.down (pieces name)).name = (pieces name).getLastD "" := by
    show (root.parts ++ pieces name).getLastD "" = _
    rw [List.getLastD_eq_getLast?, List.getLastD_eq_getLast?, List.getLast?_append,
      List.getLast?_eq_some_getLast someNames]
    rfl
  have inPieces : (pieces name).getLastD "" ∈ pieces name := by
    rw [List.getLastD_eq_getLast?, List.getLast?_eq_some_getLast someNames]
    exact List.getLast_mem someNames
  have finalNamed := isName_piece inPieces
  have stem : Path.stemOf ((pieces name).getLastD "").toList = ((pieces name).getLastD "").toList :=
    stemOf_of_not_mem (point_not_mem_piece (List.mem_filter.mp inPieces).1)
  unfold modulePath Path.withSuffix
  rw [folded, isSuffix, final, if_neg (by simp), if_neg finalNamed.1, stem, String.ofList_toList]
  show Except.ok (⟨root.anchor, (root.parts ++ pieces name).dropLast ++ _⟩ : Path) = _
  rw [List.dropLast_append_of_ne_nil someNames, List.append_assoc]
  rfl

/-! ### Packages above modules -/

/-- A place and those above it but the top, at most `depth` of them. -/
def placesUp : (depth : Nat) → (place : Place) → List Place
  | 0, _ => []
  | depth + 1, place => if place = [] then [] else place :: placesUp depth place.dropLast

/-- The packages that a module lies in. -/
def packagesOf (name : String) : List Place :=
  placesUp (pieces name).dropLast.length (pieces name).dropLast

/-- There are no more places above one than it has names. -/
theorem placesUp_of_le {depth : Nat} {place : Place} (enough : place.length ≤ depth) :
    placesUp depth place = placesUp place.length place := by
  induction depth generalizing place with
  | zero => rw [List.length_eq_zero_iff.mp (Nat.le_zero.mp enough)]; rfl
  | succ depth inductionHypothesis =>
    by_cases top : place = []
    · subst top
      rfl
    · have shorter : place.dropLast.length + 1 = place.length := by
        rw [List.length_dropLast]
        have := List.length_pos_iff.mpr top
        omega
      rw [← shorter, placesUp, if_neg top, placesUp, if_neg top,
        inductionHypothesis (by omega)]

theorem mem_placesUp_length {place above : Place} :
    above ∈ placesUp place.length place ↔ above ≠ [] ∧ above <+: place := by
  induction place using List.reverseRecOn with
  | nil =>
    constructor
    · intro impossible
      cases impossible
    · rintro ⟨some, prefixed⟩
      exact absurd (List.prefix_nil.mp prefixed) some
  | append_singleton front name inductionHypothesis =>
    rw [List.length_append, List.length_singleton, placesUp, if_neg (by simp), List.mem_cons,
      List.dropLast_concat, inductionHypothesis, List.prefix_concat_iff]
    constructor
    · rintro (rfl | ⟨some, prefixed⟩)
      · exact ⟨by simp, .inl rfl⟩
      · exact ⟨some, .inr prefixed⟩
    · rintro ⟨some, rfl | prefixed⟩
      · exact .inl rfl
      · exact .inr ⟨some, prefixed⟩

/-- The packages of a module are the directories on the way to it. -/
theorem mem_packagesOf {name : String} {place : Place} :
    place ∈ packagesOf name ↔ place ≠ [] ∧ place <+: (pieces name).dropLast :=
  mem_placesUp_length

theorem enclosing_down (root : Path) (depth : Nat) (place : Place) :
    enclosing root depth (root.down place) =
      (placesUp depth place).map fun above => root.down above := by
  induction depth generalizing place with
  | zero => rfl
  | succ depth inductionHypothesis =>
    rw [enclosing, placesUp]
    by_cases top : place = []
    · subst top
      rw [if_pos (by simp [Path.down]), if_pos rfl]
      rfl
    · have different : root.down place ≠ root := by
        intro same
        have parts : root.parts ++ place = root.parts := congrArg Path.parts same
        exact top (by simpa using parts)
      rw [if_neg different, if_neg top, Path.parent_down root top, inductionHypothesis]
      rfl

/-- The directories above a module's file are its packages. -/
theorem packagesAbove_fileOf (root : Path) (name suffix : String) :
    packagesAbove root (root.down (fileOf name suffix)) =
      (packagesOf name).map fun package => root.down package := by
  have above : (root.down (fileOf name suffix)).parent = root.down (pieces name).dropLast := by
    rw [Path.parent_down root (fileOf_ne_nil name suffix), fileOf, List.dropLast_concat]
  have enough : (pieces name).dropLast.length ≤
      (root.down (pieces name).dropLast).parts.length := by
    show _ ≤ (root.parts ++ (pieces name).dropLast).length
    rw [List.length_append]
    omega
  rw [packagesAbove, above, enclosing_down, placesUp_of_le enough]
  rfl

/-- The names on the way to a module's file hold no character that neither the module's name nor the
suffix holds. -/
theorem not_mem_of_mem_fileOf {c : Char} {name suffix part : String} (absent : c ∉ name.toList)
    (absentSuffix : c ∉ suffix.toList) (inside : part ∈ fileOf name suffix) :
    c ∉ part.toList := by
  have inPieces : ∀ piece ∈ pieces name, c ∉ piece.toList := fun piece member =>
    not_mem_piece absent (List.mem_filter.mp member).1
  rcases List.mem_append.mp inside with front | final
  · exact inPieces part (List.dropLast_subset _ front)
  · rw [List.mem_singleton.mp final, String.toList_append]
    intro member
    rcases List.mem_append.mp member with inFinal | inSuffix
    · cases shape : (pieces name).getLast? with
      | none =>
        rw [List.getLastD_eq_getLast?, shape] at inFinal
        cases inFinal
      | some piece =>
        rw [List.getLastD_eq_getLast?, shape] at inFinal
        exact inPieces piece (List.mem_of_getLast? shape) inFinal
    · exact absentSuffix inSuffix

/-- The names on the way to a module's file are names of entries. -/
theorem isName_of_mem_fileOf {name suffix part : String} (long : 2 < suffix.length)
    (inside : part ∈ fileOf name suffix) : IsName part := by
  rcases List.mem_append.mp inside with front | final
  · exact isName_piece (List.dropLast_subset _ front)
  · rw [List.mem_singleton.mp final]
    refine isName_of_length ?_
    rw [String.length_append]
    omega

end Package

end Bindery
