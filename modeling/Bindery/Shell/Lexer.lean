/-
This file reads the words and operators of shell scripts from their characters. Quotes, braces
and double parentheses can stand inside each other, so a word is read with a stack of the
grounds that its characters stand on. Commands inside words are read by the functions of a
`Nest`, which the grammar supplies.
-/

import Bindery.Shell.Token
import Bindery.Text.Fields

namespace Bindery.Shell

/-- The sign that a command stands between, in the old way of writing. -/
def backquote : Char := Char.ofNat 0x60

/-- The sign that opens the braces of a parameter. -/
def openBrace : Char := Char.ofNat 0x7B

/-- The sign that closes the braces of a parameter. -/
def closeBrace : Char := Char.ofNat 0x7D

/-- Stands behind the text of an alias; no byte has its number. -/
def aliasEnd : Char := Char.ofNat 0x100

/-- Stands behind the text of an alias that ends in a blank. -/
def blankAliasEnd : Char := Char.ofNat 0x101

/-- Where the operator of a redirection leads. -/
inductive Direction where
  | file (opening : Opening)
  | stream
  | document (stripTabs : Bool)
deriving DecidableEq, Repr

/-- A text that follows in the script up to a line of its own. -/
structure Waiting where
  key : Nat
  mark : List Char
  stripTabs : Bool
  /-- Whether parameters in the text are replaced. -/
  expands : Bool
deriving Repr

/-- The state of reading a script. -/
structure Reader where
  text : List Char
  line : Nat := 1
  /-- Whether the last token is to be read once more. -/
  held : Bool := false
  token : Token := .newline
  word : Word := []
  /-- Whether anything in the last word was quoted. -/
  quoted : Bool := false
  number : Nat := 0
  direction : Direction := .stream
  waiting : List Waiting := []
  documents : List (Nat × Word) := []
  nextDocument : Nat := 0
  aliases : List (List Char × List Char) := []
  /-- The aliases whose text is being read, the innermost first. -/
  active : List (List Char) := []
  /-- The ends of aliases in front of the last character, and the aliases, the innermost first. -/
  passed : List (Char × List Char) := []
  /-- Whether the next word may be an alias because the text of one ended in a blank. -/
  aliasNext : Bool := false

/-- Reading that can fail. -/
abbrev Reading := StateT Reader (Except SyntaxFault)

/-- Readers of commands inside words: one that stops where a command cannot go on, and one that
also takes the closing parenthesis. -/
structure Nest where
  inner : Reading Command
  closing : Reading Command

/-- Complains about the current line. -/
def misread {α : Type} (misreading : Misreading) : Reading α := do
  throw ⟨(← get).line, misreading⟩

/-! ### Characters -/

/-- The reader past the ends of aliases at the front of a text. -/
def Reader.pastAliases (reader : Reader) : List Char → Reader
  | [] => { reader with text := [] }
  | c :: rest =>
    if c = aliasEnd || c = blankAliasEnd then
      let passed := reader.passed ++ [(c, reader.active.headD [])]
      ({ reader with
        active := reader.active.drop 1
        aliasNext := reader.aliasNext || c = blankAliasEnd
        passed := passed } : Reader).pastAliases rest
    else { reader with text := c :: rest }

/-- The reader at the next character. -/
def Reader.atNext (reader : Reader) : Reader :=
  ({ reader with passed := [] } : Reader).pastAliases reader.text

/-- Takes the character that the reader is at. -/
def takeHere : Reading (Option Char) := do
  let reader ← get
  match reader.text with
  | [] => return none
  | c :: rest =>
    set { reader with text := rest }
    return some c

/-- Takes the next character. -/
def take : Reading (Option Char) := do
  modify Reader.atNext
  takeHere

/-- Puts the last character back in front of what is left, with the ends of aliases before it. -/
def putBack (c : Option Char) : Reading Unit :=
  modify fun reader =>
    { reader with
      text := reader.passed.map Prod.fst ++ c.toList ++ reader.text
      active := reader.passed.map Prod.snd ++ reader.active
      passed := [] }

/-- A text without the line ends at its front that a backslash takes away, and their number. -/
def dropJoins : (joins : Nat) → List Char → Nat × List Char
  | joins, '\\' :: '\n' :: rest => dropJoins (joins + 1) rest
  | joins, text => (joins, text)

/-- Takes the next character; a backslash takes away the line end after it. -/
def takeJoined : Reading (Option Char) := do
  let ahead := (← get).atNext
  let (joins, text) := dropJoins 0 ahead.text
  set (({ ahead with text := text, line := ahead.line + joins } : Reader).pastAliases text)
  takeHere

/-- Counts a line. -/
def countLine : Reading Unit := modify fun reader => { reader with line := reader.line + 1 }

/-! ### Grounds -/

/-- What the characters of a word stand on. -/
inductive Ground where
  | base
  | double
  | single
  /-- Between double parentheses. -/
  | sum
deriving DecidableEq, Repr

/-- What a character means. -/
inductive Meaning where
  | newline
  | plain
  /-- The character has a meaning in patterns or paths, which it has lost. -/
  | special
  | escape
  | singleQuote
  | doubleQuote
  | endQuote
  | dollar
  | endBrace
  | openParenthesis
  | closeParenthesis
  | backquote
  | separator
deriving DecidableEq, Repr

/-- The characters that have a meaning in patterns or paths. -/
def isPatternSign (c : Char) : Bool :=
  ['!', '*', '?', '[', '=', '~', ':', '/', '-', ']'].contains c

/-- What a character means on a ground. -/
def Ground.meaning (ground : Ground) (c : Char) : Meaning :=
  if c = '\n' then .newline
  else
    match ground with
    | .single =>
      if c = '\'' then .endQuote
      else if c = '\\' || isPatternSign c then .special
      else .plain
    | .base =>
      if c = '\\' then .escape
      else if c = '\'' then .singleQuote
      else if c = '"' then .doubleQuote
      else if c = backquote then .backquote
      else if c = '$' then .dollar
      else if c = closeBrace then .endBrace
      else if ['<', '>', '(', ')', ';', '&', '|', ' ', '\t'].contains c then .separator
      else .plain
    | .double =>
      if c = '\\' then .escape
      else if c = '"' then .endQuote
      else if c = backquote then .backquote
      else if c = '$' then .dollar
      else if c = closeBrace then .endBrace
      else if isPatternSign c then .special
      else .plain
    | .sum =>
      if c = '\\' then .escape
      else if c = backquote then .backquote
      else if c = '$' then .dollar
      else if c = closeBrace then .endBrace
      else if c = '(' then .openParenthesis
      else if c = ')' then .closeParenthesis
      else .plain

/-- A ground with what is open on it. -/
structure Frame where
  ground : Ground := .base
  /-- Whether a backslash keeps its meaning before few characters only. -/
  doubled : Bool := false
  /-- How many braces of parameters are open. -/
  braces : Nat := 0
  /-- How many of them were opened inside double quotes. -/
  doubledBraces : Nat := 0
  /-- Whether double quotes are open inside the braces. -/
  innerQuotes : Bool := false
  parentheses : Nat := 0
  /-- Whether the frame was opened with a brace, with which it ends. -/
  ofBrace : Bool := false
deriving DecidableEq, Repr

/-- What was opened inside a word and is still to be closed. -/
inductive Opener where
  | parameter (name : List Char) (use : Use)
  | number

/-- A word that is being read: its frames, its innermost pieces, latest first, and around them
what is open, each with the pieces before it. -/
structure Draft where
  frame : Frame := {}
  outer : List Frame := []
  pieces : List Piece := []
  layers : List (Opener × List Piece) := []
  quoted : Bool := false

namespace Draft

/-- The draft with another piece. -/
def add (draft : Draft) (piece : Piece) : Draft := { draft with pieces := piece :: draft.pieces }

/-- The draft with something opened. -/
def openLayer (draft : Draft) (opener : Opener) : Draft :=
  { draft with pieces := [], layers := (opener, draft.pieces) :: draft.layers }

/-- The draft with what was opened last closed. -/
def closeLayer (draft : Draft) : Draft :=
  match draft.layers with
  | [] => draft
  | (.parameter name use, before) :: layers =>
    { draft with
      pieces := .parameter name use draft.pieces.reverse :: before, layers := layers }
  | (.number, before) :: layers =>
    { draft with pieces := .number draft.pieces.reverse :: before, layers := layers }

/-- The draft with another frame. -/
def push (draft : Draft) (frame : Frame) : Draft :=
  { draft with frame := frame, outer := draft.frame :: draft.outer }

/-- The draft without its innermost frame. -/
def pop (draft : Draft) : Draft :=
  { draft with frame := draft.outer.headD {}, outer := draft.outer.drop 1 }

/-- The draft with a quotation mark; texts that follow in the script keep none. -/
def addMark (draft : Draft) (inDocument : Bool) : Draft :=
  if inDocument then draft else draft.add .mark

/-- The draft after a double quote; within braces it changes whether a brace closes them. -/
def turnQuotes (draft : Draft) (inDocument : Bool) : Draft :=
  let frame := draft.frame
  let turned := if frame.braces = 0 then frame.innerQuotes else !frame.innerQuotes
  ({ draft with frame := { frame with innerQuotes := turned } } : Draft).addMark inDocument

/-- The draft after the quote that ends quoted text. -/
def endQuotes (draft : Draft) (inDocument : Bool) (quote : Char) : Draft :=
  let frame := draft.frame
  let left : Frame :=
    if frame.doubledBraces = 0 then { frame with ground := .base, doubled := false } else frame
  let ended : Draft := { draft with frame := left, quoted := true }
  if quote = '"' then ended.turnQuotes inDocument else ended.addMark inDocument

/-- The draft after the brace that ends a parameter, or with the brace as text. -/
def endBraces (draft : Draft) : Draft :=
  let frame := draft.frame
  if frame.innerQuotes || frame.braces = 0 then draft.add (.char closeBrace)
  else
    let left : Frame := { frame with braces := frame.braces - 1 }
    let shrunk : Draft :=
      if left.braces = 0 && frame.ofBrace then ({ draft with frame := left } : Draft).pop
      else { draft with frame := { left with doubledBraces := frame.doubledBraces - 1 } }
    shrunk.closeLayer

end Draft

/-! ### Parameters -/

/-- Whether a parameter is named by a character that is no letter. -/
def isSpecial (c : Char) : Bool := c.isDigit || ['@', '*', '#', '?', '$', '!', '-'].contains c

/-- What follows a dollar sign: the name of a parameter and its use. A word follows up to a
closing brace if `isOpen` says so. -/
structure Reference where
  name : List Char
  use : Use
  isOpen : Bool

/-- Takes characters of a kind after those taken so far, latest first. The character after them
is returned too. -/
def takeWhileJoined (kind : Char → Bool) : (fuel : Nat) → List Char → Option Char →
    Reading (List Char × Option Char)
  | 0, taken, next => pure (taken.reverse, next)
  | fuel + 1, taken, next => do
    match next with
    | some c =>
      if kind c then
        let following ← takeJoined
        takeWhileJoined kind fuel (c :: taken) following
      else return (taken.reverse, next)
    | none => return (taken.reverse, next)

/-- How many characters are left. -/
def amountLeft : Reading Nat := do return (← get).text.length + 1

/-- The use that a sign after the name asks for. -/
def useOfSign? (emptyToo : Bool) (c : Option Char) : Option Use :=
  match c with
  | some '-' => some (.orElse emptyToo)
  | some '+' => some (.instead emptyToo)
  | some '?' => some (.insist emptyToo)
  | some '=' => some (.assign emptyToo)
  | _ => none

/-- Reads the use of a parameter between braces from the character after its name on. -/
def readUse (name : List Char) (c : Option Char) : Reading Reference := do
  if c = some closeBrace then return ⟨name, .plain, false⟩
  else if c = some ':' then
    let sign ← takeJoined
    if sign = some closeBrace then return ⟨name, .last, true⟩
    else return ⟨name, (useOfSign? true sign).getD .meaningless, true⟩
  else if c = some '%' || c = some '#' then
    let second ← takeJoined
    if second = c then return ⟨name, .cut ⟨c = some '#', true⟩, true⟩
    else
      putBack second
      return ⟨name, .cut ⟨c = some '#', false⟩, true⟩
  else return ⟨name, (useOfSign? false c).getD .meaningless, true⟩

/-- Reads the rest of a parameter whose length is asked for. -/
def endLength (name : List Char) (c : Option Char) : Reading Reference := do
  putBack c
  return ⟨name, if c = some closeBrace then .length else .meaningless, true⟩

/-- Whether a character is in the set, if there is one. -/
def holds (kind : Char → Bool) (c : Option Char) : Bool := c.any kind

/-- Reads a parameter between braces from the first character after the brace on. -/
def readBraced (c : Option Char) : Reading Reference := do
  let fuel ← amountLeft
  if holds beginsName c then
    let (name, next) ← takeWhileJoined inName (fuel + 1) [] c
    readUse name next
  else if holds Char.isDigit c then
    let (name, next) ← takeWhileJoined Char.isDigit (fuel + 1) [] c
    readUse name next
  else if c = some closeBrace then
    putBack c
    return ⟨[], .meaningless, true⟩
  else if c = some '#' then
    let first ← takeJoined
    if holds beginsName first then
      let (name, next) ← takeWhileJoined inName (fuel + 1) [] first
      endLength name next
    else if holds Char.isDigit first then
      let (name, next) ← takeWhileJoined Char.isDigit (fuel + 1) [] first
      endLength name next
    else
      let second ← takeJoined
      if first = some closeBrace || second ≠ some closeBrace then
        putBack second
        readUse ['#'] first
      else if holds isSpecial first then endLength first.toList second
      else
        putBack second
        return ⟨[], .meaningless, true⟩
  else
    let next ← takeJoined
    if holds isSpecial c then readUse c.toList next
    else
      putBack next
      return ⟨[], .meaningless, true⟩

/-- Reads a parameter without braces from its first character on. -/
def readUnbraced (c : Char) : Reading Reference := do
  if beginsName c then
    let fuel ← amountLeft
    let (name, next) ← takeWhileJoined inName (fuel + 1) [] (some c)
    putBack next
    return ⟨name, .plain, false⟩
  else return ⟨[c], .plain, false⟩

/-- The draft with a parameter, which stays open if a word follows. What is cut off is read as
outside of quotes. -/
def Draft.addReference (draft : Draft) (reference : Reference) : Draft :=
  if !reference.isOpen then draft.add (.parameter reference.name reference.use [])
  else
    let frame := draft.frame
    let ground : Ground :=
      match reference.use with
      | .cut _ => .base
      | _ => if frame.ground = .sum then .double else frame.ground
    let pushed :=
      if ground ≠ frame.ground || frame.innerQuotes then
        draft.push { ground := ground, doubled := ground ≠ .base, ofBrace := true }
      else draft
    let inside := pushed.frame
    let opened : Frame :=
      { inside with
        braces := inside.braces + 1
        doubledBraces := if inside.doubled then inside.doubledBraces + 1 else inside.doubledBraces }
    ({ pushed with frame := opened } : Draft).openLayer
      (.parameter reference.name reference.use)

/-! ### Words -/

/-- Reads the text of a command up to the sign that ends it in the old way of writing. -/
def readBackquoted (doubled : Bool) : (fuel : Nat) → List Char → Reading (List Char)
  | 0, text => pure text.reverse
  | fuel + 1, text => do
    match ← takeJoined with
    | none => misread .openBackquote
    | some c =>
      if c = backquote then return text.reverse
      else if c = '\\' then
        match ← take with
        | none => misread .openBackquote
        | some d =>
          let plain := ['\\', backquote, '$'].contains d || (doubled && d = '"')
          readBackquoted doubled fuel (if plain then d :: text else d :: '\\' :: text)
      else
        if c = '\n' then countLine
        readBackquoted doubled fuel (c :: text)

/-- Reads a command written in the old way; its lines are counted from its beginning. -/
def readOldCommand (nest : Nest) (doubled : Bool) : Reading Command := do
  let fuel ← amountLeft
  let text ← readBackquoted doubled fuel []
  let around ← get
  set { around with text := text, line := 1, held := false, waiting := [], active := [] }
  let command ← nest.inner
  let inside ← get
  set { around with
    documents := inside.documents, nextDocument := inside.nextDocument, held := false }
  return command

/-- Reads a command up to its closing parenthesis. -/
def readNewCommand (nest : Nest) : Reading Command := do
  let waiting := (← get).waiting
  modify fun reader => { reader with waiting := [] }
  let command ← nest.closing
  modify fun reader => { reader with waiting := waiting }
  return command

/-- The line that ends a text in the script, and whether tabs are taken from its lines. -/
structure Ending where
  mark : List Char
  stripTabs : Bool

/-- Begins a line of a text in the script with its first character. At the line that ends the
text there is no character. -/
def beginLine (ending : Option Ending) (c : Option Char) : Reading (Option Char) := do
  match ending, c with
  | none, _ => return c
  | some _, none => return none
  | some ending, some c =>
    let line := c :: (← get).text
    let stripped := if ending.stripTabs then line.dropWhile (· = '\t') else line
    match Text.afterFront? ending.mark stripped with
    | some [] =>
      modify fun reader => { reader with text := [], line := reader.line + 1 }
      return none
    | some ('\n' :: rest) =>
      modify fun reader => { reader with text := rest, line := reader.line + 1 }
      return none
    | _ =>
      modify fun reader => { reader with text := stripped }
      take

/-- Takes the next character on a ground. -/
def takeOn (ground : Ground) : Reading (Option Char) :=
  if ground = .single then take else takeJoined

/-- Reads what follows a dollar sign. -/
def readDollar (nest : Nest) (isMark : Bool) (draft : Draft) : Reading Draft := do
  let c ← takeJoined
  match c with
  | none => return draft.add (.char '$')
  | some sign =>
    if isMark || !(sign = '(' || sign = openBrace || beginsName sign || isSpecial sign) then
      putBack c
      return draft.add (.char '$')
    else if sign = '(' then
      let second ← takeJoined
      if second = some '(' then
        return (draft.push { ground := .sum, doubled := true }).openLayer .number
      else
        putBack second
        return draft.add (.output (← readNewCommand nest))
    else if sign = openBrace then
      let reference ← readBraced (← takeJoined)
      return draft.addReference reference
    else
      let reference ← readUnbraced sign
      return draft.addReference reference

/-- Reads what follows a backslash. -/
def readEscape (inDocument : Bool) (draft : Draft) : Reading Draft := do
  match ← take with
  | none => return draft.add (.escaped '\\')
  | some c =>
    let frame := draft.frame
    let keeps :=
      frame.doubled && ! ['\\', backquote, '$'].contains c &&
        (c ≠ '"' || (inDocument && frame.braces = 0)) && (c ≠ closeBrace || frame.braces = 0)
    let started := if keeps then draft.add (.escaped '\\') else draft
    return { started.add (.escaped c) with quoted := true }

/-- Reads what follows a closing parenthesis between double parentheses. -/
def readParenthesis (draft : Draft) : Reading Draft := do
  let frame := draft.frame
  if 0 < frame.parentheses then
    return { draft.add (.char ')') with
      frame := { frame with parentheses := frame.parentheses - 1 } }
  else
    let second ← takeJoined
    if second = some ')' then return draft.closeLayer.pop
    else
      putBack second
      return draft.add (.char ')')

/-- Reads the pieces of a word from a character on. The character after them is returned. The
mark of a text in the script is read with `isMark`, the text itself with its ending. -/
def readPieces (nest : Nest) (isMark : Bool) (ending : Option Ending) :
    (fuel : Nat) → Draft → Option Char → Reading (Draft × Option Char)
  | 0, draft, c => pure (draft, c)
  | _ + 1, draft, none => pure (draft, none)
  | fuel + 1, draft, some c => do
    let frame := draft.frame
    let inDocument := ending.isSome
    let goOn (draft : Draft) : Reading (Draft × Option Char) := do
      let next ← takeOn draft.frame.ground
      readPieces nest isMark ending fuel draft next
    match frame.ground.meaning c with
    | .newline =>
      if frame.ground = .base && frame.braces = 0 then return (draft, some c)
      else
        countLine
        let next ← takeOn frame.ground
        let next ← beginLine ending next
        readPieces nest isMark ending fuel (draft.add (.char '\n')) next
    | .plain => goOn (draft.add (.char c))
    | .special => goOn (draft.add (if inDocument && !frame.doubled then .char c else .escaped c))
    | .escape => goOn (← readEscape inDocument draft)
    | .singleQuote =>
      goOn (({ draft with frame := { frame with ground := .single } } : Draft).addMark inDocument)
    | .doubleQuote =>
      goOn (({ draft with frame := { frame with ground := .double, doubled := true } } :
        Draft).turnQuotes inDocument)
    | .endQuote =>
      if inDocument && frame.braces = 0 then goOn (draft.add (.char c))
      else goOn (draft.endQuotes inDocument c)
    | .dollar => goOn (← readDollar nest isMark draft)
    | .endBrace => goOn draft.endBraces
    | .openParenthesis =>
      goOn { draft.add (.char '(') with
        frame := { frame with parentheses := frame.parentheses + 1 } }
    | .closeParenthesis => goOn (← readParenthesis draft)
    | .backquote =>
      if isMark then goOn (draft.add (.char backquote))
      else
        let command ← readOldCommand nest frame.doubled
        goOn (draft.add (.output command))
    | .separator =>
      if frame.braces = 0 then return (draft, some c) else goOn (draft.add (.char c))

/-- Complains about what is still open at the end of a word. -/
def checkClosed (inDocument : Bool) (draft : Draft) : Reading Unit := do
  if draft.frame.ground = .sum then misread .openSum
  if draft.frame.ground ≠ .base && !inDocument then misread .openQuote
  if draft.frame.braces ≠ 0 then misread .openBrace

/-- Reads the rest of the operator of a redirection: where it leads and, if no number stands in
front of it, the number of the stream. -/
def readDirection (c : Char) : Reading (Direction × Nat) := do
  let second ← takeJoined
  if c = '>' then
    match second with
    | some '>' => return (.file .append, 1)
    | some '|' => return (.file .overwrite, 1)
    | some '&' => return (.stream, 1)
    | _ =>
      putBack second
      return (.file .write, 1)
  else
    match second with
    | some '<' =>
      let third ← takeJoined
      if third = some '-' then return (.document true, 0)
      else
        putBack third
        return (.document false, 0)
    | some '&' => return (.stream, 0)
    | some '>' => return (.file .readWrite, 0)
    | _ =>
      putBack second
      return (.file .read, 0)

/-- Makes a token the last one. -/
def keep (token : Token) : Reading Token := do
  modify fun reader => { reader with token := token }
  return token

/-- Reads a word from a character on, or a redirection that begins with it. -/
def readWord (nest : Nest) (isMark : Bool) (first : Option Char) : Reading Token := do
  let fuel ← amountLeft
  let (draft, c) ← readPieces nest isMark none (fuel + 1) {} first
  checkClosed false draft
  let word := draft.pieces.reverse
  let digit? : Option (Option Nat) :=
    match word with
    | [] => some none
    | [.char d] => if d.isDigit then some (some (d.toNat - 0x30)) else none
    | _ => none
  match c, digit?, draft.quoted with
  | some '<', some digit, false | some '>', some digit, false =>
    let (direction, number) ← readDirection (c.getD '<')
    modify fun reader => { reader with direction := direction, number := digit.getD number }
    keep .redirect
  | _, _, _ =>
    putBack c
    modify fun reader => { reader with word := word, quoted := draft.quoted }
    keep .word

/-- Skips blanks and comments; the character after them is returned. -/
def skipBlanks : (fuel : Nat) → Reading (Option Char)
  | 0 => take
  | fuel + 1 => do
    match ← takeJoined with
    | some ' ' | some '\t' => skipBlanks fuel
    | some '#' =>
      modify fun reader => { reader with text := reader.text.dropWhile (· ≠ '\n') }
      skipBlanks fuel
    | c => return c

/-- Reads an operator that may be doubled. -/
def readDoubled (sign : Char) (double simple : Token) : Reading Token := do
  let second ← takeJoined
  if second = some sign then keep double
  else
    putBack second
    keep simple

/-- Reads a token, or the last one again if it is held. -/
def readToken (nest : Nest) (isMark : Bool) : Reading Token := do
  let reader ← get
  if reader.held then
    set { reader with held := false }
    return reader.token
  else
    let fuel ← amountLeft
    let c ← skipBlanks fuel
    match c with
    | none => keep .ending
    | some '\n' =>
      countLine
      keep .newline
    | some '&' => readDoubled '&' .and .ampersand
    | some '|' => readDoubled '|' .or .pipe
    | some ';' => readDoubled ';' .armEnd .semicolon
    | some '(' => keep .open
    | some ')' => keep .close
    | _ => readWord nest isMark c

/-- Lets the last token be read once more. -/
def hold : Reading Unit := modify fun reader => { reader with held := true }

/-- Reads one of the texts that commands wait for. -/
def readDocument (nest : Nest) (each : Waiting) : Reading Unit := do
  let fuel ← amountLeft
  let ending : Ending := ⟨each.mark, each.stripTabs⟩
  let first ← if each.expands then takeJoined else take
  let first ← beginLine (some ending) first
  let frame : Frame :=
    if each.expands then { ground := .double, doubled := true } else { ground := .single }
  let (draft, _) ← readPieces nest false (some ending) (fuel + 1) { frame := frame } first
  checkClosed true draft
  modify fun reader =>
    { reader with documents := (each.key, draft.pieces.reverse) :: reader.documents }

/-- Reads the texts that commands wait for. -/
def readDocuments (nest : Nest) : Reading Unit := do
  let waiting := (← get).waiting
  modify fun reader => { reader with waiting := [] }
  waiting.forM (readDocument nest)

/-- Reads a whole text as if it stood in double quotes. -/
def readQuotedText (nest : Nest) : Reading Word := do
  let fuel ← amountLeft
  let first ← takeJoined
  let frame : Frame := { ground := .double, doubled := true }
  let (draft, _) ←
    readPieces nest false (some ⟨[aliasEnd], false⟩) (fuel + 1) { frame := frame } first
  checkClosed true draft
  return draft.pieces.reverse

end Bindery.Shell
