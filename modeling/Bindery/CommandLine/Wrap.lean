/-
This file fills paragraphs. Runs of blanks become one blank; then the text is cut into chunks,
which are blanks, words, the parts of words up to a hyphen, and dashes between words; and lines
are filled with as many chunks as fit. A chunk that is longer than a line is cut, behind a
hyphen if there is one.
-/

import Bindery.Text.Alphanumeric
import Bindery.Text.Blank
import Bindery.Text.Fields

namespace Bindery.CommandLine

open Text

/-! ### Blanks -/

/-- Blanks of layout within ASCII. -/
def isLayout (c : Char) : Bool := c = ' ' || (0x09 ≤ c.toNat && c.toNat ≤ 0x0D)

/-- The words of a text with one blank between each two of them. -/
def withSingleBlanks (text : List Char) : List Char :=
  joinFields ' ' ((fields ' ' (text.map fun c => if isLayout c then ' ' else c)).filter (· ≠ []))

/-! ### Chunks -/

/-- The characters of words: letters, numbers and the underscore. -/
def isWordChar (c : Char) : Bool := isAlphanumeric c || c = '_'

/-- The characters of words other than digits. -/
def isWordLetter (c : Char) : Bool := isWordChar c && !isDecimal c

/-- The characters behind which a dash is one between words. -/
def endsWord (c : Char) : Bool := isWordChar c || ['!', '"', '\'', '&', '.', ',', '?'].contains c

/-- Whether a text begins with a dash of two or more strokes in front of a word. -/
def startsWithDash (text : List Char) : Bool :=
  2 ≤ (text.takeWhile (· == '-')).length && (text.dropWhile (· == '-')).head?.any isWordChar

/-- Whether a hyphen may end a part of a word: two letters stand before it, or two single letters
with a hyphen between them. -/
def mayHyphenate : (before : List Char) → Bool
  | c :: '-' :: d :: _ => isWordLetter c && isWordLetter d
  | c :: d :: _ => isWordLetter c && isWordLetter d
  | _ => false

/-- Whether a text goes on a hyphenated word: with two letters, between which a hyphen may
stand. -/
def goesOn : (after : List Char) → Bool
  | c :: '-' :: d :: _ => isWordLetter c && isWordLetter d
  | c :: d :: _ => isWordLetter c && isWordLetter d
  | _ => false

/-- How many characters of `after` belong to the chunk of a word that ends between `before`,
which is reversed, and `after`; none if no chunk ends there. -/
def chunkEnd? (before after : List Char) : Option Nat :=
  match after with
  | [] => some 0
  | c :: rest =>
    if c = '-' && mayHyphenate before && goesOn rest then some 1
    else if isLayout c then some 0
    else if before.head?.any endsWord && startsWithDash after then some 0
    else none

/-- The length of the chunk of a word at the front of a text, behind `before`. -/
def wordLength (before : List Char) : List Char → Nat
  | [] => 0
  | c :: rest =>
    match chunkEnd? (c :: before) rest with
    | some more => more + 1
    | none => wordLength (c :: before) rest + 1

/-- The length of the chunk at the front of a text, behind `before`. -/
def chunkLength (before text : List Char) : Nat :=
  if text.head?.any isLayout then (text.takeWhile isLayout).length
  else if before.head?.any endsWord && startsWithDash text then
    (text.takeWhile (· == '-')).length
  else wordLength before text

/-- The chunks of a text behind `before`, which is reversed. -/
def chunks (before : List Char) : List Char → List (List Char)
  | [] => []
  | c :: rest =>
    let more := chunkLength before (c :: rest) - 1
    (c :: rest.take more) :: chunks ((c :: rest.take more).reverse ++ before) (rest.drop more)
termination_by text => text.length
decreasing_by simp only [List.length_drop, List.length_cons]; omega

/-! ### Lines -/

/-- The chunks that fit into `left` characters, and the others. -/
def takeFitting : (left : Nat) → List (List Char) → List (List Char) × List (List Char)
  | _, [] => ([], [])
  | left, chunk :: rest =>
    if chunk.length ≤ left then
      let (taken, others) := takeFitting (left - chunk.length) rest
      (chunk :: taken, others)
    else ([], chunk :: rest)

/-- Where a chunk is cut that is longer than the `left` characters it has: behind the last hyphen
among them that does not follow hyphens only, else behind them all. -/
def cutPoint (left : Nat) (chunk : List Char) : Nat :=
  let front := ((chunk.take left).reverse.dropWhile (· ≠ '-')).reverse
  if front.any (· ≠ '-') then front.length else left

/-- The first line of chunks, and the chunks behind it. At the end of a line a blank chunk is
dropped. -/
def firstLine (width : Nat) (all : List (List Char)) : List Char × List (List Char) :=
  let (taken, others) := takeFitting width all
  let used := taken.flatten.length
  let (line, others) :=
    match others with
    | chunk :: rest =>
      if width < chunk.length then
        let cut := cutPoint (width - used) chunk
        (taken ++ [chunk.take cut], chunk.drop cut :: rest)
      else (taken, others)
    | [] => (taken, [])
  let kept := if line.getLast?.any (·.all isBlank) then line.dropLast else line
  (kept.flatten, others)

/-- Lines of chunks. At the start of a line other than the first, a blank chunk is dropped. -/
def fillLines (width : Nat) : (fuel : Nat) → (first : Bool) → List (List Char) → List (List Char)
  | 0, _, _ => []
  | _, _, [] => []
  | fuel + 1, first, chunk :: rest =>
    let all := if !first && chunk.all isBlank then rest else chunk :: rest
    let (line, others) := firstLine width all
    if line = [] then fillLines width fuel first others
    else line :: fillLines width fuel false others

/-- A text filled to a width. Every line takes at least one character or one chunk. -/
def fill (width : Nat) (text : String) : List String :=
  let shown := trimBlank (withSingleBlanks text.toList)
  (fillLines width (2 * shown.length + 1) true (chunks [] shown)).map String.ofList

end Bindery.CommandLine
