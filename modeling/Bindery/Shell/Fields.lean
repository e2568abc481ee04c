/-
This file splits expanded words into fields. An expanded word is a row of segments: text that
stays whole, text that is split at separators, and the arguments of a script, which are split
only from each other. Quotation marks stay in the text until it is split, so that a quoted
empty text is a field.
-/

import Bindery.Shell.Pattern
import Bindery.Shell.Session

namespace Bindery.Shell

/-- A character of an expanded word, which may have lost its special meaning, or a quotation
mark. -/
inductive Glyph where
  | char (c : Char) (isEscaped : Bool)
  | mark
deriving DecidableEq, Repr

/-- How text in an expanded word is split. -/
inductive Region where
  /-- Not at all. -/
  | whole
  /-- At separators. -/
  | split
  /-- At the ends of arguments. -/
  | apart
deriving DecidableEq, Repr

/-- A part of an expanded word. -/
structure Segment where
  region : Region
  glyphs : List Glyph
deriving Repr

/-- Stands between arguments that are split from each other. -/
def argumentEnd : Char := '\x00'

/-- The characters of a text. Signs with a meaning in patterns lose it if `escapes` says so. -/
def glyphsOf (escapes : Bool) (text : List Char) : List Glyph :=
  text.map fun c => .char c (escapes && (isPatternSign c || c = '\\'))

/-- The text of glyphs, without quotation marks. -/
def plainText (glyphs : List Glyph) : List Char :=
  glyphs.filterMap fun glyph =>
    match glyph with
    | .char c _ => some c
    | .mark => none

/-- The text of segments, without quotation marks. -/
def textOfSegments (segments : List Segment) : List Char :=
  segments.flatMap fun segment => plainText segment.glyphs

/-- Whether a glyph is a character with its meaning. -/
def Glyph.isPlain : Glyph → Bool
  | .char _ isEscaped => !isEscaped
  | .mark => false

/-- The pattern that glyphs stand for: a backslash stands before a character that has lost its
meaning, unless a backslash stands there already. -/
def patternText (glyphs : List Glyph) : List Char :=
  plainText (glyphs.takeWhile Glyph.isPlain) ++ go true (glyphs.dropWhile Glyph.isPlain)
where
  /-- Goes on; `isFree` tells that no backslash stands before. -/
  go (isFree : Bool) : List Glyph → List Char
    | [] => []
    | .mark :: rest => go true rest
    | .char c isEscaped :: rest =>
      if !isEscaped && c = '\\' then c :: go false rest
      else if isEscaped && isFree then '\\' :: c :: go true rest
      else c :: go true rest

/-! ### Splitting -/

/-- A word that is being split: the glyphs of the current field and the fields before it, both
latest first; how many fields are left before the one that takes the rest, if there is such
a one; and the current field without the separators at its end. -/
structure Splitting where
  field : List Glyph := []
  fields : List (List Glyph) := []
  left : Option Nat := none
  trimmed : Option (List Glyph) := none

/-- Whether a character ends a field. -/
def endsField (separators : List Char) (region : Region) (c : Char) : Bool :=
  c = argumentEnd || (region = .split && separators.contains c)

/-- Whether a separator is a blank, of which any number stand for one. -/
def isBlankSeparator (c : Char) : Bool := c = argumentEnd || defaultSeparators.contains c

/-- Skips the separators that belong to one that ended a field: blanks, and among them one other
separator if the field was ended by a blank. -/
def skipSeparators (separators : List Char) (region : Region) : (byBlank : Bool) →
    List Glyph → List Glyph
  | _, [] => []
  | byBlank, .char c isEscaped :: rest =>
    if !endsField separators region c then .char c isEscaped :: rest
    else if isBlankSeparator c then skipSeparators separators region byBlank rest
    else if byBlank then skipSeparators separators region false rest
    else .char c isEscaped :: rest
  | _, glyphs => glyphs

theorem length_skipSeparators_le (separators : List Char) (region : Region) (byBlank : Bool)
    (glyphs : List Glyph) :
    (skipSeparators separators region byBlank glyphs).length ≤ glyphs.length := by
  induction glyphs generalizing byBlank with
  | nil => simp [skipSeparators]
  | cons glyph rest inductionHypothesis =>
    cases glyph with
    | mark => simp [skipSeparators]
    | char c isEscaped =>
      simp only [skipSeparators]
      split
      · exact Nat.le_refl _
      · split
        · exact Nat.le_succ_of_le (inductionHypothesis byBlank)
        · split
          · exact Nat.le_succ_of_le (inductionHypothesis false)
          · exact Nat.le_refl _

/-- Splits the glyphs of a region. `byBlank` tells that the separator before was a blank, and
`afterApart` that the region follows arguments; then every separator counts, as it does between
arguments. -/
def splitGlyphs (separators : List Char) (region : Region) (afterApart byBlank : Bool)
    (splitting : Splitting) : List Glyph → Splitting
  | [] => splitting
  | .mark :: rest =>
    splitGlyphs separators region afterApart byBlank
      { splitting with field := .mark :: splitting.field } rest
  | .char c isEscaped :: rest =>
    let isEnd := endsField separators region c
    let isBlank := isEnd && isBlankSeparator c
    let longer := .char c isEscaped :: splitting.field
    if splitting.left = some 0 then
      if isBlank then
        splitGlyphs separators region afterApart byBlank
          { splitting with
            field := longer, trimmed := some (splitting.trimmed.getD splitting.field) } rest
      else
        let trimmed := if isEnd && byBlank then splitting.trimmed else none
        splitGlyphs separators region afterApart false
          { splitting with field := longer, trimmed := trimmed } rest
    else if isEnd then
      let ofBlank := if afterApart || region = .apart then byBlank else isBlank
      if splitting.field.isEmpty && ofBlank then
        splitGlyphs separators region afterApart ofBlank splitting rest
      else if splitting.left = some 1 then
        splitGlyphs separators region afterApart ofBlank
          { splitting with left := some 0, field := longer, trimmed := some splitting.field } rest
      else
        let ended : Splitting :=
          { splitting with
            field := []
            fields := splitting.field.reverse :: splitting.fields
            left := splitting.left.map (· - 1) }
        if afterApart || region = .apart then
          splitGlyphs separators region afterApart ofBlank ended rest
        else
          splitGlyphs separators region afterApart false ended
            (skipSeparators separators region ofBlank rest)
    else
      splitGlyphs separators region afterApart byBlank { splitting with field := longer } rest
termination_by glyphs => glyphs.length
decreasing_by
  all_goals simp only [List.length_cons]
  all_goals first
    | omega
    | exact Nat.lt_succ_of_le (length_skipSeparators_le separators region _ rest)

/-- Splits segments in turn; `last` is the region before them. -/
def splitSegments (separators : List Char) : (last : Region) → Splitting → List Segment →
    Region × Splitting
  | last, splitting, [] => (last, splitting)
  | last, splitting, ⟨.whole, glyphs⟩ :: rest =>
    splitSegments separators last
      { splitting with field := glyphs.reverse ++ splitting.field } rest
  | last, splitting, ⟨region, glyphs⟩ :: rest =>
    splitSegments separators region
      (splitGlyphs separators region (last = .apart) false splitting glyphs) rest

/-- The fields of an expanded word. If `limit` is given, the last of so many fields takes the
rest of the text. -/
def fieldsOf (separators : List Char) (limit : Option Nat) (segments : List Segment) :
    List (List Glyph) :=
  let (last, splitting) := splitSegments separators .whole { left := limit } segments
  let field := splitting.trimmed.getD splitting.field
  if last = .apart || !field.isEmpty then (field.reverse :: splitting.fields).reverse
  else splitting.fields.reverse

/-! ### Paths that match -/

/-- The names in a directory, with the two that stand for itself and the one around it. -/
def namesIn (disk : Disk) (directory : Place) : List (List Char) :=
  ['.'] :: ['.', '.'] ::
    disk.entries.filterMap fun entry =>
      match Place.below? directory entry.1 with
      | some [name] => some (ofText name)
      | _ => none

/-- The parts of a pattern between slashes. -/
def patternParts (part : List Char) : List Char → List (List Char)
  | [] => [part.reverse]
  | '\\' :: '/' :: rest => part.reverse :: patternParts [] rest
  | '\\' :: c :: rest => patternParts (c :: '\\' :: part) rest
  | '/' :: rest => part.reverse :: patternParts [] rest
  | c :: rest => patternParts (c :: part) rest

/-- Whether a bracket that was opened is closed after at least one character. -/
def closesBracket : (started : Bool) → List Char → Bool
  | _, [] => false
  | started, ']' :: rest => started || closesBracket true rest
  | _, '\\' :: _ :: rest => closesBracket true rest
  | _, _ :: rest => closesBracket true rest

/-- Whether a part of a path is a pattern and no name. -/
def isPatternPart : List Char → Bool
  | [] => false
  | '\\' :: _ :: rest => isPatternPart rest
  | '[' :: '!' :: rest => closesBracket false rest || isPatternPart rest
  | '[' :: rest => closesBracket false rest || isPatternPart rest
  | c :: rest => c = '*' || c = '?' || isPatternPart rest

/-- Whether a pattern begins with a point, so that it may match hidden names. -/
def beginsWithPoint (part : List Char) : Bool :=
  match part with
  | '\\' :: c :: _ => c = '.'
  | c :: _ => c = '.'
  | [] => false

/-- The names in a directory that a pattern matches. -/
def matchingNames (session : Session) (directory part : List Char) : List (List Char) :=
  match session.locate true (if directory = [] then ['.'] else directory) with
  | .ok (.found place (.directory _)) =>
    (namesIn session.world.disk place).filter fun name =>
      (name.head? ≠ some '.' || beginsWithPoint part) && fits part name
  | _ => []

/-- The paths that begin like `front`, a directory with its slash, and go on as the parts of a
pattern say. -/
def matchingPaths (session : Session) (front : List Char) : List (List Char) → List (List Char)
  | [] => []
  | [part] =>
    if isPatternPart part then (matchingNames session front part).map (front ++ ·)
    else
      let path := front ++ unescaped part
      if (session.nodeAt? false path).isSome then [path] else []
  | part :: rest =>
    if isPatternPart part then
      (matchingNames session front part).flatMap fun name =>
        matchingPaths session (front ++ name ++ ['/']) rest
    else matchingPaths session (front ++ unescaped part ++ ['/']) rest

/-- Whether a text comes before another one, byte by byte. -/
def comesBefore : List Char → List Char → Bool
  | [], _ => true
  | _ :: _, [] => false
  | c :: rest, d :: others => c < d || (c = d && comesBefore rest others)

/-- The texts that a field stands for: the paths that it matches, or itself. -/
def pathsOf (session : Session) (glyphs : List Glyph) : List (List Char) :=
  let pattern := patternText glyphs
  let parts := patternParts [] pattern
  if session.hasOption 'f' || !parts.any isPatternPart then [plainText glyphs]
  else
    let paths := matchingPaths session [] parts
    if paths.isEmpty then [plainText glyphs] else paths.mergeSort comesBefore

end Bindery.Shell
