/-
This file proves which lines of a module are made relative, and what becomes of them.

An import line is read exactly when it is the written form of an import whose names are made of
word characters. No such line holds a line feed, so a source is rewritten line by line. The
imports of the second pass are read from what the first one wrote; a line that became relative is
left alone there, since the name of no generated module begins with a point.
-/

import Bindery.Package.Imports
import Mathlib.Data.List.TakeWhile

namespace Bindery

open Text

/-! ### Fields of lines that change -/

/-- The fields that a function leaves without separators are the fields of the changed text. -/
theorem Text.fields_joinFields_map (separator : Char) (change : List Char → List Char)
    (text : List Char)
    (absent : ∀ field, separator ∉ field → separator ∉ change field) :
    fields separator (joinFields separator ((fields separator text).map change)) =
      (fields separator text).map change := by
  refine fields_joinFields separator _ (by simpa using fields_ne_nil separator text) ?_
  intro field member
  obtain ⟨old, isField, rfl⟩ := List.mem_map.mp member
  exact absent old (not_mem_of_mem_fields separator text old isField)

/-- Of a front whose characters pass and a rest that begins with one that does not, the front is
taken. -/
theorem Text.span_append {passes : Char → Bool} {front : List Char} {c : Char}
    (all : ∀ each ∈ front, passes each = true) (stops : passes c = false) (rest : List Char) :
    (front ++ c :: rest).takeWhile passes = front ∧
      (front ++ c :: rest).dropWhile passes = c :: rest := by
  constructor
  · rw [List.takeWhile_append_of_pos all, List.takeWhile_cons_of_neg (by simp [stops]),
      List.append_nil]
  · rw [List.dropWhile_append_of_pos all, List.dropWhile_cons_of_neg (by simp [stops])]

/-- Two texts that are equal have the same fronts whose characters pass, and the same rests. -/
theorem Text.eq_of_append_eq {passes : Char → Bool} {front other : List Char} {c : Char}
    {rest more : List Char} (all : ∀ each ∈ front, passes each = true)
    (otherAll : ∀ each ∈ other, passes each = true) (stops : passes c = false)
    (same : front ++ c :: rest = other ++ c :: more) : front = other ∧ rest = more := by
  obtain ⟨taken, left⟩ := span_append all stops rest
  obtain ⟨otherTaken, otherLeft⟩ := span_append otherAll stops more
  rw [same] at taken left
  exact ⟨taken.symm.trans otherTaken, (List.cons.inj (left.symm.trans otherLeft)).2⟩

/-- A text is the front of it whose characters pass and the rest. -/
theorem Text.eq_span_append {passes : Char → Bool} {text rest : List Char}
    (left : text.dropWhile passes = rest) : text = text.takeWhile passes ++ rest := by
  rw [← left, List.takeWhile_append_dropWhile]

namespace Package

namespace ImportLine

/-! ### Names -/

theorem isName_iff (text : List Char) :
    isName text = true ↔ text ≠ [] ∧ ∀ c ∈ text, isWord c = true := by
  simp [isName]

/-- The name of a generated module is made of word characters. -/
theorem isWord_of_isModule {name : List Char} (named : isModule name = true) :
    ∀ c ∈ name, isWord c = true := by
  unfold isModule at named
  split at named
  next stem shape =>
    rw [(beforeBack?_eq_some_iff _ _ _).mp shape]
    intro c member
    rcases List.mem_append.mp member with inStem | inEnding
    · exact ((isName_iff stem).mp named).2 c inStem
    · have ending : moduleEnding.all isWord = true := by decide
      exact List.all_eq_true.mp ending c inEnding
  next => cases named

/-! ### Reading and writing -/

/-- The names of an import line are such that it is recognized. -/
structure IsWritten (line : ImportLine) : Prop where
  name : isModule line.name = true
  given : isName line.given = true
  package : ∀ package, line.package = some package →
    package ≠ [] ∧ ∀ c ∈ package, inPackage c = true

theorem readNames?_eq_some_iff (text name given : List Char) :
    readNames? text = some (name, given) ↔
      text = name ++ " as ".toList ++ given ∧ isModule name = true ∧ isName given = true := by
  unfold readNames?
  dsimp only
  constructor
  · intro read
    split at read
    next rest found =>
      split at read
      next recognized =>
        cases read
        obtain ⟨named, isGiven⟩ := Bool.and_eq_true_iff.mp recognized
        refine ⟨?_, named, isGiven⟩
        rw [List.append_assoc]
        exact eq_span_append ((afterFront?_eq_some_iff _ _ _).mp found)
      next => cases read
    next => cases read
  · rintro ⟨rfl, named, isGiven⟩
    obtain ⟨taken, left⟩ := span_append (isWord_of_isModule named)
      (show isWord ' ' = false by decide) ("as ".toList ++ given)
    have shape : name ++ " as ".toList ++ given = name ++ ' ' :: ("as ".toList ++ given) :=
      List.append_assoc _ _ _
    have found : afterFront? " as ".toList (' ' :: ("as ".toList ++ given)) = some given :=
      (afterFront?_eq_some_iff _ _ _).mpr rfl
    rw [shape, taken, left, found]
    dsimp only
    rw [named, isGiven]
    rfl

/-- A line without a package is read exactly when it is the written form of an import. -/
theorem readPlain?_eq_some_iff (line : List Char) (found : ImportLine) :
    readPlain? line = some found ↔ found.package = none ∧ found.IsWritten ∧ found.text = line := by
  unfold readPlain?
  constructor
  · intro read
    obtain ⟨rest, isImport, read⟩ := Option.bind_eq_some_iff.mp read
    obtain ⟨⟨name, given⟩, names, same⟩ := Option.bind_eq_some_iff.mp read
    cases same
    obtain ⟨rfl, named, isGiven⟩ := (readNames?_eq_some_iff _ _ _).mp names
    refine ⟨rfl, ⟨named, isGiven, fun _ impossible => by cases impossible⟩, ?_⟩
    rw [(afterFront?_eq_some_iff _ _ _).mp isImport]
    simp [text]
  · obtain ⟨package, name, given⟩ := found
    rintro ⟨rfl, ⟨named, isGiven, -⟩, rfl⟩
    have isImport : afterFront? "import ".toList (text ⟨none, name, given⟩) =
        some (name ++ " as ".toList ++ given) := by
      rw [afterFront?_eq_some_iff]
      simp [text]
    rw [isImport]
    show (readNames? _).bind _ = _
    rw [(readNames?_eq_some_iff _ _ _).mpr ⟨rfl, named, isGiven⟩]
    rfl

/-- A line with a package is read exactly when it is the written form of an import. -/
theorem readFrom?_eq_some_iff (line : List Char) (found : ImportLine) :
    readFrom? line = some found ↔ found.package ≠ none ∧ found.IsWritten ∧ found.text = line := by
  unfold readFrom?
  constructor
  · intro read
    obtain ⟨rest, isImport, read⟩ := Option.bind_eq_some_iff.mp read
    obtain ⟨tail, between, read⟩ := Option.bind_eq_some_iff.mp read
    obtain ⟨⟨name, given⟩, names, same⟩ := Option.bind_eq_some_iff.mp read
    dsimp only at same
    split at same
    next => cases same
    next some =>
      cases same
      obtain ⟨rfl, named, isGiven⟩ := (readNames?_eq_some_iff _ _ _).mp names
      refine ⟨Option.some_ne_none _, ⟨named, isGiven, ?_⟩, ?_⟩
      · intro package same
        cases same
        exact ⟨some, fun c member => List.mem_takeWhile_imp member⟩
      · have whole := eq_span_append ((afterFront?_eq_some_iff _ _ _).mp between)
        rw [(afterFront?_eq_some_iff _ _ _).mp isImport]
        show "from ".toList ++ rest.takeWhile inPackage ++ " import ".toList ++ name ++
          " as ".toList ++ given = "from ".toList ++ rest
        simp only [List.append_assoc] at whole ⊢
        exact congrArg _ whole.symm
  · obtain ⟨package, name, given⟩ := found
    rintro ⟨isSome, ⟨named, isGiven, inPackages⟩, rfl⟩
    obtain ⟨front, rfl⟩ := Option.ne_none_iff_exists'.mp isSome
    obtain ⟨some, allIn⟩ := inPackages front rfl
    have isImport : afterFront? "from ".toList (text ⟨.some front, name, given⟩) =
        .some (front ++ ' ' :: ("import ".toList ++ (name ++ " as ".toList ++ given))) := by
      rw [afterFront?_eq_some_iff]
      simp [text]
    obtain ⟨taken, left⟩ := span_append allIn (show inPackage ' ' = false by decide)
      ("import ".toList ++ (name ++ " as ".toList ++ given))
    have between : afterFront? " import ".toList
        (' ' :: ("import ".toList ++ (name ++ " as ".toList ++ given))) =
          .some (name ++ " as ".toList ++ given) := (afterFront?_eq_some_iff _ _ _).mpr rfl
    rw [isImport]
    show (afterFront? " import ".toList (List.dropWhile inPackage _)).bind _ = _
    rw [left, between]
    show (readNames? _).bind _ = _
    rw [(readNames?_eq_some_iff _ _ _).mpr ⟨rfl, named, isGiven⟩, taken]
    exact if_neg some

/-- The names of an import line can be told apart from what stands between them. -/
structure IsSpelled (line : ImportLine) : Prop where
  name : ∀ c ∈ line.name, isWord c = true
  package : ∀ package, line.package = some package → ∀ c ∈ package, inPackage c = true

theorem IsWritten.isSpelled {line : ImportLine} (written : line.IsWritten) : line.IsSpelled :=
  ⟨isWord_of_isModule written.name, fun package same => (written.package package same).2⟩

theorem names_eq_of_append_eq {name given otherName otherGiven : List Char}
    (words : ∀ c ∈ name, isWord c = true) (otherWords : ∀ c ∈ otherName, isWord c = true)
    (same : name ++ " as ".toList ++ given = otherName ++ " as ".toList ++ otherGiven) :
    name = otherName ∧ given = otherGiven := by
  rw [List.append_assoc, List.append_assoc] at same
  obtain ⟨names, rest⟩ : name = otherName ∧ "as ".toList ++ given = "as ".toList ++ otherGiven :=
    eq_of_append_eq words otherWords (show isWord ' ' = false by decide) same
  exact ⟨names, List.append_cancel_left rest⟩

/-- An import has one written form, which no other import has. -/
theorem IsSpelled.eq_of_text_eq {line other : ImportLine} (spelled : line.IsSpelled)
    (otherSpelled : other.IsSpelled) (same : line.text = other.text) : line = other := by
  obtain ⟨package, name, given⟩ := line
  obtain ⟨otherPackage, otherName, otherGiven⟩ := other
  obtain ⟨words, inPackages⟩ := spelled
  obtain ⟨otherWords, otherInPackages⟩ := otherSpelled
  cases package with
  | none =>
    cases otherPackage with
    | none =>
      obtain ⟨rfl, rfl⟩ := names_eq_of_append_eq words otherWords (by simpa [text] using same)
      rfl
    | some otherPackage => simp [text] at same
  | some package =>
    cases otherPackage with
    | none => simp [text] at same
    | some otherPackage =>
      have fronts : package ++ ' ' :: ("import ".toList ++ (name ++ " as ".toList ++ given)) =
          otherPackage ++ ' ' ::
            ("import ".toList ++ (otherName ++ " as ".toList ++ otherGiven)) := by
        simpa [text] using same
      obtain ⟨rfl, rest⟩ := eq_of_append_eq (inPackages package rfl)
        (otherInPackages otherPackage rfl) (show inPackage ' ' = false by decide) fronts
      obtain ⟨rfl, rfl⟩ := names_eq_of_append_eq words otherWords (List.append_cancel_left rest)
      rfl

/-! ### Relative imports -/

section Relative

variable {dots : List Char} {line : ImportLine}

/-- An import that was made relative is again recognized as one. -/
theorem IsWritten.relative (written : line.IsWritten) (some : dots ≠ [])
    (points : ∀ c ∈ dots, c = '.') : (line.relative dots).IsWritten := by
  refine ⟨written.name, written.given, fun package same => ?_⟩
  cases same
  refine ⟨by simp [some], fun c member => ?_⟩
  rcases List.mem_append.mp member with inDots | inPackages
  · rw [points c inDots]
    decide
  · cases isPackage : line.package with
    | none =>
      rw [isPackage] at inPackages
      cases inPackages
    | some package =>
      rw [isPackage] at inPackages
      exact (written.package package isPackage).2 c inPackages

theorem target_relative (dots : List Char) (line : ImportLine) :
    (line.relative dots).target = dots ++ line.package.getD [] ++ '.' :: line.name := rfl

/-- Without points an import from a package stays the same. -/
theorem relative_nil (isSome : line.package ≠ none) : line.relative [] = line := by
  obtain ⟨package, name, given⟩ := line
  obtain ⟨package, rfl⟩ := Option.ne_none_iff_exists'.mp isSome
  rfl

theorem text_relative (dots : List Char) (line : ImportLine) :
    (line.relative dots).text = "from ".toList ++ (dots ++ line.package.getD []) ++
      " import ".toList ++ line.name ++ " as ".toList ++ line.given := rfl

/-- Making an import relative adds no other characters than those of its words. -/
theorem not_mem_text_relative {c : Char} (other : c ∉ "from . import".toList)
    (points : ∀ c ∈ dots, c = '.') (absent : c ∉ line.text) : c ∉ (line.relative dots).text := by
  have inDots : c ∉ dots := fun member => other (points c member ▸ by decide)
  obtain ⟨package, name, given⟩ := line
  cases package with
  | none =>
    simp [text] at absent other
    simp [text_relative, inDots, absent, other]
  | some package =>
    simp [text] at absent
    simp [text_relative, inDots, absent]

end Relative

end ImportLine

theorem eq_point_of_mem_dotsFor {depth : Int} {c : Char} (member : c ∈ dotsFor depth) : c = '.' :=
  (List.mem_replicate.mp member).2

theorem dotsFor_of_neg {depth : Int} (negative : depth < 0) : dotsFor depth = [] := by
  have count : (depth + 1).toNat = 0 := by omega
  rw [dotsFor, count, List.replicate_zero]

/-- At least one dot leads up to the root. -/
theorem dotsFor_eq (depth : Nat) : dotsFor depth = '.' :: List.replicate depth '.' := by
  have count : ((depth : Int) + 1).toNat = depth + 1 := by omega
  rw [dotsFor, count, List.replicate_succ]

/-! ### Lines of a source -/

/-- A line of a source after both passes. -/
def relativeLine (depth : Int) (generated : List String) (line : List Char) : List Char :=
  rewriteLine ImportLine.readFrom? depth generated
    (rewriteLine ImportLine.readPlain? depth generated line)

/-- A line is an import of a generated module. -/
structure Imports (generated : List String) (line : List Char) (found : ImportLine) : Prop where
  written : found.IsWritten
  text : found.text = line
  generates : String.ofList found.target ∈ generated

/-- No name of a generated module begins with a point. -/
def Undotted (generated : List String) : Prop := ∀ name ∈ generated, name.toList.head? ≠ some '.'

section Rewriting

variable {generated : List String} {line : List Char} {found : ImportLine}
  {read? : List Char → Option ImportLine}

theorem rewriteLine_of_none {depth : Int} (unread : read? line = none) :
    rewriteLine read? depth generated line = line := by
  unfold rewriteLine
  rw [unread]

theorem rewriteLine_of_some {depth : Int} (isRead : read? line = some found)
    (generates : String.ofList found.target ∈ generated) :
    rewriteLine read? depth generated line = (found.relative (dotsFor depth)).text := by
  unfold rewriteLine
  rw [isRead]
  exact if_pos (List.contains_iff_mem.mpr generates)

theorem rewriteLine_of_not_mem {depth : Int} (isRead : read? line = some found)
    (other : String.ofList found.target ∉ generated) :
    rewriteLine read? depth generated line = line := by
  unfold rewriteLine
  rw [isRead]
  exact if_neg fun contained => other (List.contains_iff_mem.mp contained)

/-- An import that was made relative is no import of a generated module any more. -/
theorem not_imports_relative (undotted : Undotted generated) (written : found.IsWritten)
    (depth : Nat) (other : ImportLine) :
    ¬ Imports generated (found.relative (dotsFor depth)).text other := by
  rintro ⟨otherWritten, same, generates⟩
  have relativeWritten : (found.relative (dotsFor depth)).IsWritten :=
    written.relative (by simp [dotsFor_eq]) fun c member => eq_point_of_mem_dotsFor member
  cases otherWritten.isSpelled.eq_of_text_eq relativeWritten.isSpelled same
  refine undotted _ generates ?_
  rw [String.toList_ofList, ImportLine.target_relative, dotsFor_eq]
  rfl

/-- A line that is no import of a generated module stays. -/
theorem relativeLine_of_not_imports {depth : Int}
    (other : ∀ found, ¬ Imports generated line found) :
    relativeLine depth generated line = line := by
  have plain : rewriteLine ImportLine.readPlain? depth generated line = line := by
    cases isRead : ImportLine.readPlain? line with
    | none => exact rewriteLine_of_none isRead
    | some found =>
      obtain ⟨-, written, text⟩ := (ImportLine.readPlain?_eq_some_iff _ _).mp isRead
      exact rewriteLine_of_not_mem isRead fun generates => other found ⟨written, text, generates⟩
  rw [relativeLine, plain]
  cases isRead : ImportLine.readFrom? line with
  | none => exact rewriteLine_of_none isRead
  | some found =>
    obtain ⟨-, written, text⟩ := (ImportLine.readFrom?_eq_some_iff _ _).mp isRead
    exact rewriteLine_of_not_mem isRead fun generates => other found ⟨written, text, generates⟩

/-- The second pass leaves what was made relative. Without points that lead up, it may read what was
imported from a package once more, which then stays the same. -/
theorem rewriteLine_relative (undotted : Undotted generated) (written : found.IsWritten)
    (depth : Int) :
    rewriteLine ImportLine.readFrom? depth generated (found.relative (dotsFor depth)).text =
      (found.relative (dotsFor depth)).text := by
  cases again : ImportLine.readFrom? (found.relative (dotsFor depth)).text with
  | none => exact rewriteLine_of_none again
  | some other =>
    obtain ⟨isSome, otherWritten, same⟩ := (ImportLine.readFrom?_eq_some_iff _ _).mp again
    by_cases generates : String.ofList other.target ∈ generated
    · by_cases negative : depth < 0
      · rw [rewriteLine_of_some again generates, dotsFor_of_neg negative,
          ImportLine.relative_nil isSome, same, dotsFor_of_neg negative]
      · obtain ⟨above, rfl⟩ := Int.eq_ofNat_of_zero_le (Int.not_lt.mp negative)
        exact absurd ⟨otherWritten, same, generates⟩
          (not_imports_relative undotted written above other)
    · exact rewriteLine_of_not_mem again generates

/-- An import of a generated module becomes relative: in the first pass, whose result the second
one leaves alone, or in the second pass, as the first one does not read it. -/
theorem relativeLine_of_imports (undotted : Undotted generated) (depth : Int)
    (imports : Imports generated line found) :
    relativeLine depth generated line = (found.relative (dotsFor depth)).text := by
  obtain ⟨written, text, generates⟩ := imports
  by_cases plain : found.package = none
  · have isRead := (ImportLine.readPlain?_eq_some_iff line found).mpr ⟨plain, written, text⟩
    rw [relativeLine, rewriteLine_of_some isRead generates]
    exact rewriteLine_relative undotted written depth
  · have unread : ImportLine.readPlain? line = none := by
      rw [Option.eq_none_iff_forall_ne_some]
      intro other isRead
      obtain ⟨otherPlain, otherWritten, otherText⟩ :=
        (ImportLine.readPlain?_eq_some_iff _ _).mp isRead
      cases written.isSpelled.eq_of_text_eq otherWritten.isSpelled (text.trans otherText.symm)
      exact plain otherPlain
    have isRead := (ImportLine.readFrom?_eq_some_iff line found).mpr ⟨plain, written, text⟩
    rw [relativeLine, rewriteLine_of_none unread, rewriteLine_of_some isRead generates]

/-- What both passes make of a line: the relative import of the module that it imports, or the
line itself. -/
theorem relativeLine_cases (undotted : Undotted generated) (depth : Int) (line : List Char) :
    (∃ found, Imports generated line found ∧
      relativeLine depth generated line = (found.relative (dotsFor depth)).text) ∨
    (∀ found, ¬ Imports generated line found) ∧ relativeLine depth generated line = line := by
  by_cases imports : ∃ found, Imports generated line found
  · obtain ⟨found, imports⟩ := imports
    exact .inl ⟨found, imports, relativeLine_of_imports undotted depth imports⟩
  · have other : ∀ found, ¬ Imports generated line found := not_exists.mp imports
    exact .inr ⟨other, relativeLine_of_not_imports other⟩

/-- No line of the result is an import of a generated module. -/
theorem not_imports_relativeLine (undotted : Undotted generated) (depth : Nat)
    (line : List Char) (other : ImportLine) :
    ¬ Imports generated (relativeLine depth generated line) other := by
  rcases relativeLine_cases undotted depth line with ⟨found, imports, same⟩ | ⟨others, same⟩
  · rw [same]
    exact not_imports_relative undotted imports.written depth other
  · rw [same]
    exact others other

theorem not_mem_rewriteLine {depth : Int} {c : Char} (other : c ∉ "from . import".toList)
    (isText : ∀ line found, read? line = some found → found.text = line)
    (absent : c ∉ line) : c ∉ rewriteLine read? depth generated line := by
  unfold rewriteLine
  split
  next found isRead =>
    split
    next =>
      refine ImportLine.not_mem_text_relative other
        (fun c member => eq_point_of_mem_dotsFor member) ?_
      rwa [isText line found isRead]
    next => exact absent
  next => exact absent

/-- Neither line feeds nor carriage returns come into a line. -/
theorem not_mem_relativeLine (depth : Int) {c : Char} (other : c ∉ "from . import".toList)
    (absent : c ∉ line) : c ∉ relativeLine depth generated line := by
  have plain : c ∉ rewriteLine ImportLine.readPlain? depth generated line :=
    not_mem_rewriteLine other
      (fun _ _ isRead => ((ImportLine.readPlain?_eq_some_iff _ _).mp isRead).2.2) absent
  exact not_mem_rewriteLine other
    (fun _ _ isRead => ((ImportLine.readFrom?_eq_some_iff _ _).mp isRead).2.2) plain

/-- The lines of the result are those of the source, each after both passes. -/
theorem fields_rewriteImports (depth : Int) (generated : List String) (source : List Char) :
    fields '\n' (rewriteImports depth generated source) =
      (fields '\n' source).map (relativeLine depth generated) := by
  exact fields_joinFields_map '\n' (relativeLine depth generated) source fun line absent =>
    not_mem_relativeLine depth (by decide) absent

/-- Rewriting a second time changes nothing. -/
theorem rewriteImports_rewriteImports (undotted : Undotted generated) (depth : Nat)
    (source : List Char) :
    rewriteImports depth generated (rewriteImports depth generated source) =
      rewriteImports depth generated source := by
  have again : ∀ line, relativeLine depth generated (relativeLine depth generated line) =
      relativeLine depth generated line := fun line =>
    relativeLine_of_not_imports fun other => not_imports_relativeLine undotted depth line other
  show joinFields '\n' ((fields '\n' (rewriteImports depth generated source)).map
    (relativeLine depth generated)) =
      joinFields '\n' ((fields '\n' source).map (relativeLine depth generated))
  rw [fields_rewriteImports, List.map_map]
  exact congrArg _ (List.map_congr_left fun line _ => again line)

end Rewriting

end Package

end Bindery
