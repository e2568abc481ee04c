/-
This file expands words: parameters, commands and expressions inside a word are replaced by what
they stand for. The function `capture` runs a command and gives what it wrote.
-/

import Bindery.Shell.Arithmetic
import Bindery.Shell.Fields

namespace Bindery.Shell

/-- How a word is expanded. -/
structure Style where
  /-- The word is split into fields later. -/
  splits : Bool := false
  /-- The word is a pattern. -/
  isPattern : Bool := false
  /-- A tilde at the beginning stands for a home directory. -/
  tilde : Bool := false
  /-- So does a tilde after a colon, and after the first sign of equality. -/
  isAssignment : Bool := false
  /-- The first sign of equality has been passed. -/
  afterSign : Bool := false
  /-- The text of the word itself is split too. -/
  splitsText : Bool := false
  /-- The word stands in double quotes. -/
  isQuoted : Bool := false

/-- Whether quotes matter after the expansion. -/
def Style.keepsQuotes (style : Style) : Bool := style.splits || style.isPattern

/-- The glyphs of a text that a word stands for. -/
def Style.glyphs (style : Style) (text : List Char) : List Glyph :=
  glyphsOf (style.keepsQuotes && style.isQuoted) text

/-- A segment of text that a word stands for. -/
def Style.segment (style : Style) (text : List Char) : Segment :=
  ⟨if style.isQuoted then .whole else .split, style.glyphs text⟩

/-! ### Parameters -/

/-- What stands between the arguments of a script when they are taken together. -/
def argumentSeparator (session : Session) (style : Style) (all : Bool) : List Char :=
  if all && style.isQuoted && style.splits then [argumentEnd]
  else
    match session.value? "IFS".toList with
    | none => [' ']
    | some separators =>
      if style.splits && !style.isQuoted then [argumentEnd] else separators.take 1

/-- Texts with another text between each two of them. -/
def joinWith (separator : List Char) : List (List Char) → List Char
  | [] => []
  | [text] => text
  | text :: next :: rest => text ++ separator ++ joinWith separator (next :: rest)

/-- The number that digits in base ten stand for. -/
def decimalValue (digits : List Char) : Nat := (readDigits 10 0 digits).1

/-- The value of a parameter, if it has one. -/
def parameterValue? (session : Session) (style : Style) (name : List Char) :
    Option (List Char) :=
  match name with
  | ['$'] => some (numberText session.process)
  | ['?'] => some (numberText session.status)
  | ['#'] => some (numberText session.arguments.length)
  | ['!'] => session.lastJob.map fun number => numberText number
  | ['-'] => some session.shownOptions
  | ['@'] => some (joinWith (argumentSeparator session style true) session.arguments)
  | ['*'] => some (joinWith (argumentSeparator session style false) session.arguments)
  | c :: rest =>
    if c.isDigit then
      match decimalValue (c :: rest) with
      | 0 => some session.script
      | position + 1 => session.arguments[position]?
    else session.value? name
  | [] => none

/-- The value of a parameter as a segment. Quoted arguments stay apart, if there are any. -/
def valueSegment (session : Session) (style : Style) (name value : List Char) : Segment :=
  let region : Region :=
    if !style.isQuoted then .split
    else if name.head? = some '@' && !session.arguments.isEmpty then .apart
    else .whole
  ⟨region, style.glyphs value⟩

/-- Complains about a parameter without a value. -/
def failUnset {α : Type} (name : List Char) (words : List Char) : Task α :=
  fail (name ++ ": ".toList ++ words)

/-- Cuts from a value what a pattern matches. A pattern sees a value only up to the end of an
argument: at the front it tries the first argument, and all is cut if the longest match is that
argument; at the back the longest match is looked for in the first argument, the shortest from
the end on. -/
def cutGlyphs (way : Cut) (pattern : List Char) (value : List Glyph) : List Glyph :=
  let text := plainText value
  let visible (text : List Char) : List Char := text.takeWhile (· ≠ argumentEnd)
  let first := visible text
  if way.front then
    if way.greedy && first.length < text.length && fits pattern first then []
    else (frontLength? way.greedy pattern first).elim value value.drop
  else
    let start? :=
      if way.greedy then backStart? true pattern first
      else
        (List.range (text.length + 1)).reverse.find? fun start =>
          fits pattern (visible (text.drop start))
    start?.elim value value.take

/-- The name after a tilde, with what follows it; `none` if no directory is meant. -/
def tildeName? (isAssignment : Bool) : List Piece → Option (List Char × List Piece)
  | [] => some ([], [])
  | .char c :: rest =>
    if c = '/' || (c = ':' && isAssignment) then some ([], .char c :: rest)
    else (tildeName? isAssignment rest).map fun (name, left) => (c :: name, left)
  | _ => none

/-- The home directory of a user, or of the user of the script. -/
def homeOf? (session : Session) (user : List Char) : Option (List Char) :=
  if user = [] then session.value? "HOME".toList
  else if user = "root".toList then some "/root".toList
  else none

/-- The home directory that a tilde at the front of a word stands for, with what follows it. -/
def readTilde? (session : Session) (style : Style) (pieces : List Piece) :
    Option (Segment × List Piece) :=
  match pieces with
  | .char '~' :: rest => do
    let (user, left) ← tildeName? style.isAssignment rest
    let home ← homeOf? session user
    return (⟨.whole, glyphsOf style.keepsQuotes home⟩, left)
  | _ => none

/-- The plain characters at the front of a word, with what follows them. In an assignment they
end behind a sign after which a tilde may stand. -/
def takePlain (style : Style) : List Piece → List Char × List Piece × Bool
  | .char c :: rest =>
    if style.isAssignment && (c = ':' || (c = '=' && !style.afterSign)) then ([c], rest, true)
    else
      let (text, left, isSign) := takePlain style rest
      (c :: text, left, isSign)
  | pieces => ([], pieces, false)

/-- Works out an expression, and gives variables the values that it assigns. -/
def evaluateSum (text : List Char) : Task Int := do
  let session ← get
  match sumOf session.value? text with
  | .error (.expression reason) =>
    fail ("arithmetic expression: ".toList ++ reason.toList ++ ": \"".toList ++ text ++ ['"'])
  | .error (.number number) => fail ("Illegal number: ".toList ++ number)
  | .ok (value, assigned) =>
    assigned.forM fun (name, number) => assign name (numberText number) false
    return value

/-- A text without the line ends at its end. -/
def dropLineEnds (text : List Char) : List Char := (text.reverse.dropWhile (· = '\n')).reverse

mutual

/-- Expands the pieces of a word. `inQuotes` tells that an odd number of quotation marks stands
before them. -/
def expand (capture : Command → Task (List Char)) :
    (fuel : Nat) → Style → (inQuotes : Bool) → List Piece → Task (List Segment)
  | 0, _, _, _ => pure []
  | _ + 1, _, _, [] => pure []
  | fuel + 1, style, inQuotes, piece :: rest => do
    let later : Style := { style with tilde := false }
    let inner : Style := { later with isQuoted := style.isQuoted || inQuotes }
    let session ← get
    match if style.tilde then readTilde? session style (piece :: rest) else none with
    | some (home, left) => return home :: (← expand capture fuel later inQuotes left)
    | none =>
      match piece, rest with
      | .char _, _ =>
        let (text, left, isSign) := takePlain style (piece :: rest)
        let region : Region := if style.splitsText && !inner.isQuoted then .split else .whole
        let after : Style :=
          if isSign then
            { style with
              tilde := true, afterSign := style.afterSign || text.getLast? = some '=' }
          else later
        return ⟨region, glyphsOf false text⟩ :: (← expand capture fuel after inQuotes left)
      | .escaped c, _ =>
        return ⟨.whole, [.char c style.keepsQuotes]⟩ :: (← expand capture fuel later inQuotes rest)
      | .mark, .parameter ['@'] .plain [] :: .mark :: left =>
        if inQuotes then
          let marks := if style.keepsQuotes then [Glyph.mark] else []
          return ⟨.whole, marks⟩ :: (← expand capture fuel later (!inQuotes) rest)
        else
          let first ←
            expandParameter capture fuel { later with isQuoted := true } ['@'] .plain []
          return first ++ (← expand capture fuel later inQuotes left)
      | .mark, _ =>
        let marks := if style.keepsQuotes then [Glyph.mark] else []
        return ⟨.whole, marks⟩ :: (← expand capture fuel later (!inQuotes) rest)
      | .parameter name .last word, _ =>
        let first ← expandParameter capture fuel inner name .plain []
        return first ++ (← expand capture fuel later inQuotes word)
      | .parameter name use word, _ =>
        let first ← expandParameter capture fuel inner name use word
        return first ++ (← expand capture fuel later inQuotes rest)
      | .output command, _ =>
        let text ← capture command
        let shown := dropLineEnds (text.filter (· ≠ '\x00'))
        return inner.segment shown :: (← expand capture fuel later inQuotes rest)
      | .number expression, _ =>
        let segments ← expand capture fuel {} false expression
        let value ← evaluateSum (textOfSegments segments)
        return inner.segment (numberText value) :: (← expand capture fuel later inQuotes rest)

/-- Expands a parameter with its use. -/
def expandParameter (capture : Command → Task (List Char)) :
    (fuel : Nat) → Style → (name : List Char) → Use → (word : List Piece) →
    Task (List Segment)
  | 0, _, _, _, _ => pure []
  | fuel + 1, style, name, use, word => do
    let session ← get
    let value? := if use = .meaningless then none else parameterValue? session style name
    let isThere (emptyToo : Bool) : Bool :=
      match value? with
      | some value => !(emptyToo && value.isEmpty)
      | none => false
    let shown : List Segment := (value?.map (valueSegment session style name)).toList
    let stand : Task (List Segment) :=
      expand capture fuel { style with tilde := true, splitsText := true } false word
    let nothing : List Segment := [valueSegment session style name []]
    let unset : Bool := value?.isNone && session.hasOption 'u'
    match use with
    | .meaningless => failWith "Bad substitution"
    | .orElse emptyToo => if isThere emptyToo then return shown else stand
    | .instead emptyToo => if isThere emptyToo then stand else return nothing
    | .assign emptyToo =>
      if isThere emptyToo then return shown
      else
        let segments ← expand capture fuel { tilde := true } false word
        assign name (textOfSegments segments) false
        let after ← get
        return ((parameterValue? after style name).map (valueSegment after style name)).toList
    | .insist emptyToo =>
      if isThere emptyToo then return shown
      else
        let segments ← expand capture fuel { tilde := true } false word
        let words :=
          if word.isEmpty then
            ("parameter not set" ++ (if emptyToo then " or null" else "")).toList
          else textOfSegments segments
        failUnset name words
    | .plain | .last =>
      if unset then failUnset name "parameter not set".toList else return shown
    | .length =>
      if unset then failUnset name "parameter not set".toList
      else return [style.segment (numberText ((value?.map List.length).getD 0))]
    | .cut way =>
      match value? with
      | none => if unset then failUnset name "parameter not set".toList else return []
      | some value =>
        let segments ← expand capture fuel { tilde := true, isPattern := true } false word
        let pattern := patternText (segments.flatMap (·.glyphs))
        let whole := valueSegment session style name value
        return [{ whole with glyphs := cutGlyphs way pattern whole.glyphs }]

end

/-- How deep words may be nested. -/
def wordLimit : Nat := 100000000

/-- The text of a word that is not split. -/
def expandText (capture : Command → Task (List Char)) (style : Style) (word : Word) :
    Task (List Char) := do
  return textOfSegments (← expand capture wordLimit style false word)

/-- The pattern that a word stands for. -/
def expandPattern (capture : Command → Task (List Char)) (word : Word) : Task (List Char) := do
  let segments ← expand capture wordLimit { tilde := true, isPattern := true } false word
  return patternText (segments.flatMap (·.glyphs))

/-- The fields of a word, with the paths that they match. -/
def expandWord (capture : Command → Task (List Char)) (word : Word) :
    Task (List (List Char)) := do
  let segments ← expand capture wordLimit { splits := true, tilde := true } false word
  let session ← get
  return (fieldsOf session.separators none segments).flatMap (pathsOf session)

/-- The fields of words. -/
def expandWords (capture : Command → Task (List Char)) : List Word → Task (List (List Char))
  | [] => pure []
  | word :: rest => do
    let fields ← expandWord capture word
    return fields ++ (← expandWords capture rest)

end Bindery.Shell
