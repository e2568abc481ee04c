/-
This file reads the package's own module back and tells when two of them are the same.

The lines of the module can be told apart by how they begin, whatever the names are: an import from
the package, the import from the support module, and between two fixed lines the exports. So the
names that were written are read again, each as it is, and two modules with the same text have the
same names. That the same names give the same text is because they are written in increasing order,
each of them once: there is only one such list.
-/

import Bindery.Proofs.Package.Exports
import Bindery.Proofs.Text.Joined

namespace Bindery.Package

open Text

variable {modules others : List String} {policy : Policy} {name : String}

/-! ### Reading the module -/

/-- What stands in a package's own module. -/
structure Listing where
  /-- The names that are imported from the package. -/
  imported : List String
  /-- The names that are imported from the support module. -/
  helpers : List String
  /-- The names that are exported. -/
  exported : List String

/-- What an import from the package begins with. -/
def importFront : List Char := "from . import ".toList

/-- What an import from the support module begins with. -/
def helpersFront : List Char := "from ._buffers import ".toList

/-- The line before the exports. -/
def exportsOpening : List Char := "__all__ = [".toList

/-- The line behind the exports. -/
def exportsClosing : List Char := "]".toList

/-- The name in an import from the package. -/
def readImport? (line : List Char) : Option String :=
  (afterFront? importFront line).map String.ofList

/-- The names in the import from the support module: those between commas, without the blanks around
them. -/
def readHelpers? (line : List Char) : Option (List String) :=
  (afterFront? helpersFront line).map fun names =>
    (fields ',' names).map fun name => String.ofList (trimBlank name)

/-- The name in a line of the exports. -/
def readExport? (line : List Char) : Option String :=
  ((afterFront? "    \"".toList line).bind (beforeBack? "\",".toList)).map String.ofList

/-- The lines between the one before the exports and the one behind them. -/
def exportsBlock (lines : List (List Char)) : List (List Char) :=
  ((lines.dropWhile (· ≠ exportsOpening)).drop 1).takeWhile (· ≠ exportsClosing)

/-- What stands in a text, line by line; nothing if a line among the exports is none. -/
def readListing? (text : String) : Option Listing :=
  let lines := fields '\n' text.toList
  ((exportsBlock lines).mapM readExport?).map fun exported =>
    { imported := lines.filterMap readImport?
      helpers := (lines.filterMap readHelpers?).flatten
      exported := exported }

/-- What stands before the first point of each name. -/
def firstWords (modules : List String) : List String :=
  modules.filterMap fun each => (cut '.' each).head?

/-! ### The names at the top -/

theorem head?_cut (name : String) : (cut '.' name).head? = some (topName name) := by
  obtain ⟨field, rest, shape⟩ := List.exists_cons_of_ne_nil (fields_ne_nil '.' name.toList)
  rw [cut, topName, cutOnce_fst, shape]
  rfl

theorem mem_firstWords_iff : name ∈ firstWords modules ↔ name ∈ topNames modules := by
  rw [topNames, mem_nameSet, List.mem_map, firstWords, List.mem_filterMap]
  simp only [head?_cut, Option.some.injEq]

/-- There is only one list of some names in increasing order. -/
theorem eq_of_increasing {first second : List String} (firstIncreasing : first.Pairwise (· < ·))
    (secondIncreasing : second.Pairwise (· < ·)) (same : ∀ name, name ∈ first ↔ name ∈ second) :
    first = second := by
  have perm : first.Perm second :=
    (List.perm_ext_iff_of_nodup (firstIncreasing.imp String.ne_of_lt)
      (secondIncreasing.imp String.ne_of_lt)).mpr same
  exact perm.eq_of_pairwise (fun _ _ _ _ less greater => absurd greater (String.lt_asymm less))
    firstIncreasing secondIncreasing

/-- The names at the top are the same exactly if the first words are, in whatever order and however
often they come. -/
theorem topNames_eq_iff : topNames modules = topNames others ↔
    ∀ name, name ∈ firstWords modules ↔ name ∈ firstWords others := by
  simp only [mem_firstWords_iff]
  constructor
  · intro same name
    rw [same]
  · exact eq_of_increasing (nameSet_pairwise _) (nameSet_pairwise _)

/-- The text depends on the names at the top and on whether the helpers are asked for. -/
theorem initText_congr {otherPolicy : Policy} (sameNames : topNames modules = topNames others)
    (sameHelpers : policy.zeroCopyBuffers = otherPolicy.zeroCopyBuffers) :
    initText modules policy = initText others otherPolicy := by
  rw [initText, initText, initLines, initLines, exportedNames, exportedNames, sameNames,
    sameHelpers]

/-! ### The lines of the module -/

theorem toList_importLine (name : String) :
    (importLine name).toList = importFront ++ name.toList :=
  String.toList_append

theorem toList_exportLine (name : String) :
    (exportLine name).toList = "    \"".toList ++ (name.toList ++ "\",".toList) := by
  rw [exportLine, String.toList_append, String.toList_append, List.append_assoc]

/-- The lines before the imports. -/
def openingLines : List (List Char) :=
  [headerLine, "\"\"\"Python bindings for the client wire protocol schemas.\"\"\"", ""].map
    String.toList

/-- The import from the support module, if it is asked for. -/
def supportLines (asked : Bool) : List (List Char) := if asked then [helpersLine.toList] else []

/-- The lines by their kinds. -/
theorem map_initLines (modules : List String) (policy : Policy) :
    (initLines modules policy).map String.toList =
      openingLines ++ (topNames modules).map (fun name => (importLine name).toList) ++
        supportLines policy.zeroCopyBuffers ++ [[], exportsOpening] ++
        (exportedNames modules policy).map (fun name => (exportLine name).toList) ++
        [exportsClosing, []] := by
  simp only [initLines, List.map_append, List.map_map]
  cases policy.zeroCopyBuffers <;> rfl

theorem lineFeed_not_mem_topNames (oneLine : ∀ each ∈ modules, '\n' ∉ each.toList)
    (isTop : name ∈ topNames modules) : '\n' ∉ name.toList := by
  rw [← mem_firstWords_iff, firstWords, List.mem_filterMap] at isTop
  obtain ⟨each, member, first⟩ := isTop
  obtain ⟨field, isField, rfl⟩ := List.mem_map.mp (List.mem_of_head? first)
  rw [String.toList_ofList]
  exact fun inside => oneLine each member
    (joinFields_fields '.' each.toList ▸ mem_joinFields_of_mem isField inside)

theorem lineFeed_not_mem_exportedNames (oneLine : ∀ each ∈ modules, '\n' ∉ each.toList)
    (isExported : name ∈ exportedNames modules policy) : '\n' ∉ name.toList := by
  rcases List.mem_append.mp isExported with isTop | isHelper
  · exact lineFeed_not_mem_topNames oneLine isTop
  · have helpers : ∀ helper ∈ bufferHelpers, '\n' ∉ helper.toList := by decide
    split at isHelper
    · exact helpers name isHelper
    · cases isHelper

theorem lineFeed_not_mem_line (oneLine : ∀ each ∈ modules, '\n' ∉ each.toList)
    {line : List Char} (isLine : line ∈ (initLines modules policy).map String.toList) :
    '\n' ∉ line := by
  have opening : ∀ line ∈ openingLines, '\n' ∉ line := by decide +kernel
  have support : ∀ asked, ∀ line ∈ supportLines asked, '\n' ∉ line := by decide +kernel
  have between : ∀ line ∈ [[], exportsOpening], '\n' ∉ line := by decide +kernel
  have closing : ∀ line ∈ [exportsClosing, []], '\n' ∉ line := by decide +kernel
  rw [map_initLines] at isLine
  simp only [List.mem_append, List.mem_map] at isLine
  rcases isLine with
    ((((isOpening | ⟨name, isTop, rfl⟩) | isSupport) | isBetween) | ⟨name, isExported, rfl⟩) |
      isClosing
  · exact opening line isOpening
  · rw [toList_importLine, List.mem_append]
    exact not_or.mpr ⟨by decide, lineFeed_not_mem_topNames oneLine isTop⟩
  · exact support _ line isSupport
  · exact between line isBetween
  · rw [toList_exportLine, List.mem_append, List.mem_append]
    exact not_or.mpr ⟨by decide, not_or.mpr
      ⟨lineFeed_not_mem_exportedNames oneLine isExported, by decide⟩⟩
  · exact closing line isClosing

/-- No line holds a line feed, and so the lines that are read are those that were written. -/
theorem fields_initText (oneLine : ∀ each ∈ modules, '\n' ∉ each.toList) (policy : Policy) :
    fields '\n' (initText modules policy).toList =
      (initLines modules policy).map String.toList := by
  rw [initText, toList_join '\n' rfl]
  exact fields_joinFields '\n' _ (by simp [initLines]) fun _ => lineFeed_not_mem_line oneLine

/-! ### What is read -/

@[simp] theorem readImport?_importLine (name : String) :
    readImport? (importLine name).toList = some name := by
  rw [readImport?, toList_importLine, (afterFront?_eq_some_iff _ _ _).mpr rfl, Option.map_some,
    String.ofList_toList]

@[simp] theorem readImport?_exportLine (name : String) :
    readImport? (exportLine name).toList = none := by
  rw [toList_exportLine]
  rfl

@[simp] theorem readHelpers?_importLine (name : String) :
    readHelpers? (importLine name).toList = none := by
  rw [toList_importLine]
  rfl

@[simp] theorem readHelpers?_exportLine (name : String) :
    readHelpers? (exportLine name).toList = none := by
  rw [toList_exportLine]
  rfl

theorem readExport?_exportLine (name : String) :
    readExport? (exportLine name).toList = some name := by
  rw [readExport?, toList_exportLine, (afterFront?_eq_some_iff _ _ _).mpr rfl, Option.bind_some,
    (beforeBack?_eq_some_iff _ _ _).mpr rfl, Option.map_some, String.ofList_toList]

theorem mapM_readExport? (names : List String) :
    (names.map fun name => (exportLine name).toList).mapM readExport? = some names := by
  induction names with
  | nil => rfl
  | cons name names inductionHypothesis =>
    rw [List.map_cons, List.mapM_cons, readExport?_exportLine, inductionHypothesis]
    rfl

theorem imported_initLines (modules : List String) (policy : Policy) :
    ((initLines modules policy).map String.toList).filterMap readImport? = topNames modules := by
  have opening : openingLines.filterMap readImport? = [] := by decide +kernel
  have imports : ((topNames modules).map fun name => (importLine name).toList).filterMap
      readImport? = topNames modules := by simp [List.filterMap_map]
  have support : ∀ asked, (supportLines asked).filterMap readImport? = [] := by decide +kernel
  have between : [[], exportsOpening].filterMap readImport? = [] := by decide +kernel
  have exports : ((exportedNames modules policy).map fun name => (exportLine name).toList).filterMap
      readImport? = [] := by simp [List.filterMap_map]
  have closing : [exportsClosing, []].filterMap readImport? = [] := by decide +kernel
  simp only [map_initLines, List.filterMap_append, opening, imports, support, between, exports,
    closing, List.nil_append, List.append_nil]

theorem helpers_initLines (modules : List String) (policy : Policy) :
    (((initLines modules policy).map String.toList).filterMap readHelpers?).flatten =
      if policy.zeroCopyBuffers then bufferHelpers else [] := by
  have opening : openingLines.filterMap readHelpers? = [] := by decide +kernel
  have imports : ((topNames modules).map fun name => (importLine name).toList).filterMap
      readHelpers? = [] := by simp [List.filterMap_map]
  have support : ∀ asked, ((supportLines asked).filterMap readHelpers?).flatten =
      if asked then bufferHelpers else [] := by decide +kernel
  have between : [[], exportsOpening].filterMap readHelpers? = [] := by decide +kernel
  have exports : ((exportedNames modules policy).map fun name => (exportLine name).toList).filterMap
      readHelpers? = [] := by simp [List.filterMap_map]
  have closing : [exportsClosing, []].filterMap readHelpers? = [] := by decide +kernel
  simp only [map_initLines, List.filterMap_append, opening, imports, support, between, exports,
    closing, List.nil_append, List.append_nil]

/-- No line before the exports is the one that opens them, and none of them is the one that closes
them. -/
theorem exports_initLines (modules : List String) (policy : Policy) :
    exportsBlock ((initLines modules policy).map String.toList) =
      (exportedNames modules policy).map fun name => (exportLine name).toList := by
  have before : ∀ line ∈ openingLines ++
      (topNames modules).map (fun name => (importLine name).toList) ++
        supportLines policy.zeroCopyBuffers ++ [[]],
      decide (line ≠ exportsOpening) = true := by
    have opening : ∀ line ∈ openingLines, line ≠ exportsOpening := by decide +kernel
    have support : ∀ asked, ∀ line ∈ supportLines asked, line ≠ exportsOpening := by decide +kernel
    intro line member
    rw [decide_eq_true_eq]
    simp only [List.mem_append, List.mem_map, List.mem_singleton] at member
    rcases member with ((isOpening | ⟨name, -, rfl⟩) | isSupport) | rfl
    · exact opening line isOpening
    · rw [toList_importLine]
      exact of_decide_eq_true rfl
    · exact support _ line isSupport
    · decide
  have inside : ∀ line ∈ (exportedNames modules policy).map fun name => (exportLine name).toList,
      decide (line ≠ exportsClosing) = true := by
    intro line member
    obtain ⟨name, -, rfl⟩ := List.mem_map.mp member
    rw [toList_exportLine]
    rfl
  have split : (initLines modules policy).map String.toList =
      (openingLines ++ (topNames modules).map (fun name => (importLine name).toList) ++
        supportLines policy.zeroCopyBuffers ++ [[]]) ++ exportsOpening ::
          ((exportedNames modules policy).map (fun name => (exportLine name).toList) ++
            exportsClosing :: [[]]) := by
    simp [map_initLines]
  rw [exportsBlock, split, List.dropWhile_append_of_pos before,
    List.dropWhile_cons_of_neg (by simp), List.drop_one, List.tail_cons,
    List.takeWhile_append_of_pos inside, List.takeWhile_cons_of_neg (by simp), List.append_nil]

/-- What was written is read again. -/
theorem readListing?_initText (oneLine : ∀ each ∈ modules, '\n' ∉ each.toList) (policy : Policy) :
    readListing? (initText modules policy) =
      some ⟨topNames modules, if policy.zeroCopyBuffers then bufferHelpers else [],
        exportedNames modules policy⟩ := by
  simp only [readListing?, fields_initText oneLine, imported_initLines, helpers_initLines,
    exports_initLines, mapM_readExport?, Option.map_some]

/-- The text of a package's own module tells which names stand at the top and whether the helpers
are asked for, and nothing else. -/
theorem initText_canonical (oneLine : ∀ each ∈ modules, '\n' ∉ each.toList) (policy : Policy) :
    (∀ others otherPolicy, (∀ each ∈ others, '\n' ∉ each.toList) →
      (initText modules policy = initText others otherPolicy ↔
        (∀ name, name ∈ firstWords modules ↔ name ∈ firstWords others) ∧
          policy.zeroCopyBuffers = otherPolicy.zeroCopyBuffers)) ∧
    ∃ listing, readListing? (initText modules policy) = some listing ∧
      listing.imported.Pairwise (· < ·) ∧
      (∀ name, name ∈ listing.imported ↔ name ∈ firstWords modules) ∧
      listing.helpers = (if policy.zeroCopyBuffers then bufferHelpers else []) ∧
      listing.exported = listing.imported ++ listing.helpers := by
  have read := readListing?_initText oneLine policy
  refine ⟨fun others otherPolicy othersOneLine => ?_, _, read, nameSet_pairwise _,
    fun name => mem_firstWords_iff.symm, rfl, rfl⟩
  rw [← topNames_eq_iff]
  constructor
  · intro same
    rw [same, readListing?_initText othersOneLine] at read
    obtain ⟨names, helpers, -⟩ := Listing.mk.inj (Option.some.inj read)
    refine ⟨names.symm, ?_⟩
    cases asked : policy.zeroCopyBuffers <;> cases otherAsked : otherPolicy.zeroCopyBuffers <;>
      simp_all [bufferHelpers]
  · rintro ⟨sameNames, sameHelpers⟩
    exact initText_congr sameNames sameHelpers

/-- Modules in directories, one of which has a helper's name and one has none. -/
def scattered : List String := ["parse.x_pb2", ".d_pb2", "a.c_pb2", "a.b_pb2"]

/-- Other modules that begin with the same words, in another order. -/
def gathered : List String := ["a.e.f_pb2", "parse.y_pb2", ".z_pb2"]

theorem helper_like_names_listed :
    (∀ each ∈ scattered, '\n' ∉ each.toList) ∧ (∀ each ∈ gathered, '\n' ∉ each.toList) ∧
    initText scattered ⟨false, true⟩ = initText gathered ⟨true, true⟩ ∧
    initText scattered ⟨false, true⟩ ≠ initText scattered ⟨false, false⟩ ∧
    initText scattered ⟨false, true⟩ ≠ initText ["parse.x_pb2", "a.b_pb2"] ⟨false, true⟩ ∧
    ∃ listing, readListing? (initText scattered ⟨false, true⟩) = some listing ∧
      (∀ name, name ∈ listing.imported ↔ name ∈ firstWords scattered) ∧
      listing.exported = listing.imported ++ ["parse", "payload_view"] := by
  have scatteredLines : ∀ each ∈ scattered, '\n' ∉ each.toList := by decide
  have gatheredLines : ∀ each ∈ gathered, '\n' ∉ each.toList := by decide
  have fewLines : ∀ each ∈ ["parse.x_pb2", "a.b_pb2"], '\n' ∉ each.toList := by decide
  have sameWords : (∀ name ∈ firstWords scattered, name ∈ firstWords gathered) ∧
      ∀ name ∈ firstWords gathered, name ∈ firstWords scattered := by decide +kernel
  have emptyWord : "" ∈ firstWords scattered ∧ "" ∉ firstWords ["parse.x_pb2", "a.b_pb2"] := by
    decide +kernel
  obtain ⟨same, listing, read, -, imported, helpers, exported⟩ :=
    initText_canonical scatteredLines ⟨false, true⟩
  refine ⟨scatteredLines, gatheredLines, ?_, fun equal => ?_, fun equal => ?_, listing, read,
    imported, ?_⟩
  · exact (same _ _ gatheredLines).mpr ⟨fun name => ⟨sameWords.1 name, sameWords.2 name⟩, rfl⟩
  · exact absurd ((same _ _ scatteredLines).mp equal).2 (by decide)
  · exact emptyWord.2 ((((same _ _ fewLines).mp equal).1 "").mp emptyWord.1)
  · rw [exported, helpers]
    rfl

end Bindery.Package
