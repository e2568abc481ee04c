/-
This file reads the commands of shell scripts. A script is read one complete command at a time,
since a command can change how the ones after it are read.
-/

import Bindery.Shell.Lexer

namespace Bindery.Shell

/-- What may be made of the next token. -/
structure Check where
  /-- Words may be keywords. -/
  keywords : Bool := false
  /-- Line ends are skipped. -/
  newlines : Bool := false
  /-- Words may be aliases. -/
  aliases : Bool := false

/-- Where a command may begin on a later line. -/
def Check.anywhere : Check := ⟨true, true, true⟩

/-- Where a command may begin on this line. -/
def Check.here : Check := ⟨true, false, true⟩

/-- Skips line ends, reading the texts that commands wait for. -/
def skipLines (nest : Nest) : (fuel : Nat) → Token → Reading Token
  | 0, token => pure token
  | fuel + 1, token => do
    if token = .newline then
      readDocuments nest
      skipLines nest fuel (← readToken nest false)
    else return token

/-- The text of the last word as an alias, if it is one that is not being read already. -/
def Reader.aliasText? (reader : Reader) : Option (List Char × List Char) := do
  let name ← bareText? reader.word
  let text ← reader.aliases.lookup name
  if reader.active.contains name then none else some (name, text)

/-- Puts the text of an alias in front of what is left. -/
def pushAlias (name text : List Char) : Reading Unit :=
  if text = [] then pure ()
  else
    modify fun reader =>
      let isBlank := text.getLast? = some ' ' || text.getLast? = some '\t'
      { reader with
        text := text ++ (if isBlank then blankAliasEnd else aliasEnd) :: reader.text
        active := name :: reader.active }

/-- Reads a token and makes of it what it may be. -/
def nextToken (nest : Nest) : (fuel : Nat) → Check → Reading Token
  | 0, _ => return (← get).token
  | fuel + 1, check => do
    let first ← readToken nest false
    let amount ← amountLeft
    let token ← if check.newlines then skipLines nest (amount + 1) first else pure first
    let reader ← get
    set { reader with aliasNext := false }
    if token ≠ .word || reader.quoted then return token
    else
      let keyword? :=
        if check.keywords then (bareText? reader.word).bind Keyword.ofSpelling? else none
      match keyword? with
      | some keyword => keep (.keyword keyword)
      | none =>
        let aliases := check.aliases || reader.aliasNext
        match if aliases then reader.aliasText? else none with
        | some (name, text) =>
          pushAlias name text
          nextToken nest fuel { check with aliases := aliases }
        | none => return token

/-- How many aliases may follow each other in the place of one word. -/
def aliasLimit : Nat := 1000

/-- Reads a token and makes of it what it may be. -/
def next (nest : Nest) (check : Check) : Reading Token := nextToken nest aliasLimit check

/-- Complains about the last token. -/
def complain {α : Type} (expected : Option Token) : Reading α := do
  misread (.unexpected (← get).token expected)

/-- Reads a token that must come next. -/
def expect (nest : Nest) (check : Check) (token : Token) : Reading Unit := do
  if (← next nest check) ≠ token then complain (some token)

/-- Reads the word after the operator of a redirection. -/
def readRedirect (nest : Nest) : Reading Redirect := do
  let reader ← get
  let isDocument :=
    match reader.direction with
    | .document _ => true
    | _ => false
  if (← readToken nest isDocument) ≠ .word then complain none
  let after ← get
  match reader.direction with
  | .file opening => return .mk reader.number (.file opening after.word)
  | .stream =>
    match after.word with
    | [.char c] =>
      if c.isDigit then return .mk reader.number (.stream (some (c.toNat - 0x30)))
      else if c = '-' then return .mk reader.number (.stream none)
      else return .mk reader.number (.streamOf after.word)
    | word => return .mk reader.number (.streamOf word)
  | .document stripTabs =>
    let mark := after.word.filterMap fun piece =>
      match piece with
      | .char c | .escaped c => some c
      | _ => none
    let key := after.nextDocument
    let waiting : Waiting := ⟨key, mark, stripTabs, !after.quoted⟩
    set { after with nextDocument := key + 1, waiting := after.waiting ++ [waiting] }
    return .mk reader.number (.document key)

/-- Reads redirections up to another token, which is held. After the first one words are nothing
but words. -/
def readRedirects (nest : Nest) : (fuel : Nat) → Check → Reading (List Redirect)
  | 0, _ => pure []
  | fuel + 1, check => do
    if (← next nest check) = .redirect then
      let redirect ← readRedirect nest
      return redirect :: (← readRedirects nest fuel {})
    else
      hold
      return []

/-- Reads words up to another token. -/
def readWords (nest : Nest) : (fuel : Nat) → Reading (List Word)
  | 0 => pure []
  | fuel + 1 => do
    if (← next nest {}) = .word then
      let word := (← get).word
      return word :: (← readWords nest fuel)
    else return []

/-- Reads the patterns of an arm up to the parenthesis behind them; the first word has been
read. -/
def readPatterns (nest : Nest) : (fuel : Nat) → Reading (List Word)
  | 0 => pure []
  | fuel + 1 => do
    let word := (← get).word
    if (← next nest {}) = .pipe then
      let _ ← next nest {}
      return word :: (← readPatterns nest fuel)
    else
      if (← get).token ≠ .close then complain (some .close)
      return [word]

/-- How far a list of commands goes. -/
inductive Extent where
  /-- To the end of a line. -/
  | line
  /-- Over at least one command. -/
  | some
  /-- Over any number of commands. -/
  | any
deriving DecidableEq, Repr

/-- Two commands in a row. -/
def Command.then? : Option Command → Command → Command
  | none, second => second
  | some first, second => .sequence first second

/-- The command when it is not waited for. -/
def Command.inBackground : Command → Command
  | .pipeline parts _ => .pipeline parts true
  | .redirected body redirects line => .background body redirects line
  | body => .background body [] 0

/-- The parts of a simple command that have been read, each list in reverse. -/
structure Parts where
  assignments : List Word := []
  arguments : List Word := []
  redirects : List Redirect := []

/-- The command of a name if it is one that the shell must carry out itself. -/
def isSpecialCommand (name : List Char) : Bool :=
  [".", ":", "break", "continue", "eval", "exec", "exit", "export", "readonly", "local", "return",
    "set", "shift", "times", "trap", "unset"].contains (String.ofList name)

mutual

/-- Reads a list of commands; `none` if the script ends where one could begin. -/
def readList : (fuel : Nat) → Extent → Option Command → Reading (Option Command)
  | 0, _, first => pure first
  | fuel + 1, extent, first => do
    let nest := nestOf fuel
    let skips := extent ≠ .line
    let token ← next nest ⟨true, skips, true⟩
    if token = .newline then
      readDocuments nest
      return some (first.getD .nothing)
    else if token = .ending then
      readDocuments nest
      hold
      if first.isNone && !skips then return none else return some (first.getD .nothing)
    else
      hold
      let mayEnd := extent = .any || (extent = .some && first.isSome)
      if mayEnd && token.endsList then return some (first.getD .nothing)
      else
        let command ← readConditions fuel
        let token ← next nest {}
        let command := if token = .ampersand then command.inBackground else command
        let whole := Command.then? first command
        match token with
        | .ending =>
          readDocuments nest
          hold
          return some whole
        | .newline =>
          hold
          readList fuel extent (some whole)
        | .ampersand | .semicolon => readList fuel extent (some whole)
        | _ =>
          if !skips then complain none
          hold
          return some whole

/-- Reads commands that are joined by conditions. -/
def readConditions : (fuel : Nat) → Reading Command
  | 0 => pure .nothing
  | fuel + 1 => do
    let first ← readPipeline fuel {}
    readMoreConditions fuel first

/-- Reads the commands that are joined to a command by conditions. -/
def readMoreConditions : (fuel : Nat) → Command → Reading Command
  | 0, first => pure first
  | fuel + 1, first => do
    let token ← next (nestOf fuel) {}
    if token = .and then
      let second ← readPipeline fuel .anywhere
      readMoreConditions fuel (.both first second)
    else if token = .or then
      let second ← readPipeline fuel .anywhere
      readMoreConditions fuel (.either first second)
    else
      hold
      return first

/-- Reads commands of which each one's output is the input of the next one. -/
def readPipeline : (fuel : Nat) → Check → Reading Command
  | 0, _ => pure .nothing
  | fuel + 1, check => do
    let nest := nestOf fuel
    let isNegated := (← next nest check) = .keyword .bang
    if !isNegated then hold
    let first ← readCommand fuel (if isNegated then .here else {})
    let token ← next nest {}
    let command ←
      if token = .pipe then do pure (.pipeline (first :: (← readPipes fuel)) false)
      else do
        hold
        pure first
    return if isNegated then .negate command else command

/-- Reads the further commands of a pipeline. -/
def readPipes : (fuel : Nat) → Reading (List Command)
  | 0 => pure []
  | fuel + 1 => do
    let command ← readCommand fuel .anywhere
    if (← next (nestOf fuel) {}) = .pipe then return command :: (← readPipes fuel)
    else
      hold
      return [command]

/-- Reads a command with its redirections. -/
def readCommand : (fuel : Nat) → Check → Reading Command
  | 0, _ => pure .nothing
  | fuel + 1, check => do
    let nest := nestOf fuel
    let line := (← get).line
    let token ← next nest check
    match token with
    | .keyword .ifWord =>
      let command ← readBranch fuel
      endCommand fuel line (.keyword .fiWord) command
    | .keyword .whileWord => readLoop fuel line false
    | .keyword .untilWord => readLoop fuel line true
    | .keyword .forWord => readFor fuel line
    | .keyword .caseWord => readCase fuel line
    | .open =>
      let body ← readBody fuel
      endCommand fuel line .close (.apart body [] line)
    | .keyword .openBrace =>
      let body ← readBody fuel
      endCommand fuel line (.keyword .closeBrace) body
    | .word | .redirect =>
      hold
      readSimple fuel
    | _ => complain none

/-- Reads the commands inside another command. -/
def readBody : (fuel : Nat) → Reading Command
  | 0 => pure .nothing
  | fuel + 1 => do return (← readList fuel .some none).getD .nothing

/-- Reads the token that ends a command and the redirections behind it. -/
def endCommand : (fuel line : Nat) → Token → Command → Reading Command
  | 0, _, _, command => pure command
  | fuel + 1, line, token, command => do
    expect (nestOf fuel) {} token
    redirectCommand fuel line command

/-- Reads the redirections behind a command. -/
def redirectCommand : (fuel line : Nat) → Command → Reading Command
  | 0, _, command => pure command
  | fuel + 1, line, command => do
    let redirects ← readRedirects (nestOf fuel) (← amountLeft) .here
    if redirects.isEmpty then return command
    else
      match command with
      | .apart body _ line => return .apart body redirects line
      | _ => return .redirected command redirects line

/-- Reads a branch from its condition on, up to the token that ends it. -/
def readBranch : (fuel : Nat) → Reading Command
  | 0 => pure .nothing
  | fuel + 1 => do
    let nest := nestOf fuel
    let condition ← readBody fuel
    expect nest {} (.keyword .thenWord)
    let yes ← readBody fuel
    let token ← next nest {}
    if token = .keyword .elifWord then
      let no ← readBranch fuel
      return .branch condition yes no
    else if token = .keyword .elseWord then
      let no ← readBody fuel
      return .branch condition yes no
    else
      hold
      return .branch condition yes .nothing

/-- Reads a loop from its condition on. -/
def readLoop : (fuel line : Nat) → (isUntil : Bool) → Reading Command
  | 0, _, _ => pure .nothing
  | fuel + 1, line, isUntil => do
    let condition ← readBody fuel
    expect (nestOf fuel) {} (.keyword .doWord)
    let body ← readBody fuel
    endCommand fuel line (.keyword .doneWord) (.loop isUntil condition body)

/-- Reads a loop over words from its variable on. -/
def readFor : (fuel line : Nat) → Reading Command
  | 0, _ => pure .nothing
  | fuel + 1, line => do
    let nest := nestOf fuel
    let token ← next nest {}
    let reader ← get
    match if token = .word && !reader.quoted then bareText? reader.word else none with
    | none => misread .loopVariable
    | some name =>
      if !isName name then misread .loopVariable
      let items ←
        if (← next nest .anywhere) = .keyword .inWord then do
          let words ← readWords nest (← amountLeft)
          let last := (← get).token
          if last ≠ .newline && last ≠ .semicolon then complain none
          pure words
        else do
          if (← get).token ≠ .semicolon then hold
          pure [allArguments]
      expect nest .anywhere (.keyword .doWord)
      let body ← readBody fuel
      endCommand fuel line (.keyword .doneWord) (.forEach name items body line)

/-- Reads a choice from its subject on. -/
def readCase : (fuel line : Nat) → Reading Command
  | 0, _ => pure .nothing
  | fuel + 1, line => do
    let nest := nestOf fuel
    expect nest {} .word
    let subject := (← get).word
    expect nest .anywhere (.keyword .inWord)
    let arms ← readArms fuel
    redirectCommand fuel line (.choose subject arms line)

/-- Reads the arms of a choice up to the word that ends it. -/
def readArms : (fuel : Nat) → Reading (List (List Word × Command))
  | 0 => pure []
  | fuel + 1 => do
    let nest := nestOf fuel
    let check : Check := ⟨true, true, false⟩
    let token ← next nest check
    if token = .keyword .esacWord then return []
    else
      if token = .open then
        let _ ← next nest {}
      let patterns ← readPatterns nest (← amountLeft)
      let body := (← readList fuel .any none).getD .nothing
      let token ← next nest check
      if token = .keyword .esacWord then return [(patterns, body)]
      else if token = .armEnd then return (patterns, body) :: (← readArms fuel)
      else complain (some .armEnd)

/-- Reads a simple command or the definition of a function. -/
def readSimple : (fuel : Nat) → Reading Command
  | 0 => pure .nothing
  | fuel + 1 => do
    let line := (← get).line
    readParts fuel line {}

/-- Reads the further parts of a simple command. -/
def readParts : (fuel line : Nat) → Parts → Reading Command
  | 0, _, _ => pure .nothing
  | fuel + 1, line, parts => do
    let nest := nestOf fuel
    let isStart := parts.arguments.isEmpty
    let token ← next nest { aliases := isStart }
    match token with
    | .word =>
      let word := (← get).word
      if isStart && (assignedName? word).isSome then
        readParts fuel line { parts with assignments := word :: parts.assignments }
      else readParts fuel line { parts with arguments := word :: parts.arguments }
    | .redirect =>
      let redirect ← readRedirect nest
      readParts fuel line { parts with redirects := redirect :: parts.redirects }
    | _ =>
      match token, parts.arguments, parts.assignments, parts.redirects with
      | .open, [word], [], [] => readFunction fuel word
      | _, _, _, _ =>
        hold
        return .simple parts.assignments.reverse parts.arguments.reverse
          parts.redirects.reverse line

/-- Reads the definition of a function from behind the parenthesis after its name on. -/
def readFunction : (fuel : Nat) → Word → Reading Command
  | 0, _ => pure .nothing
  | fuel + 1, word => do
    expect (nestOf fuel) {} .close
    match bareText? word with
    | none => misread .functionName
    | some name =>
      if !isName name || isSpecialCommand name then misread .functionName
      let line := (← get).line
      let body ← readCommand fuel .anywhere
      return .define name body line

/-- Reads a command inside a word, up to a token that cannot belong to it. -/
def readInner : (fuel : Nat) → Reading Command
  | 0 => pure .nothing
  | fuel + 1 => do return (← readList fuel .any none).getD .nothing

/-- Reads a command inside a word and the parenthesis behind it. A text that the command still
waits for then is empty. -/
def readClosing : (fuel : Nat) → Reading Command
  | 0 => pure .nothing
  | fuel + 1 => do
    let nest := nestOf fuel
    let command := (← readList fuel .any none).getD .nothing
    expect nest {} .close
    let reader ← get
    set { reader with text := [] }
    readDocuments nest
    modify fun after => { after with text := reader.text, line := reader.line }
    return command

/-- The readers of commands inside words. -/
def nestOf : (fuel : Nat) → Nest
  | 0 => ⟨pure .nothing, pure .nothing⟩
  | fuel + 1 => ⟨readInner fuel, readClosing fuel⟩

end

/-- How deep and how far a script is read at most. -/
def readingLimit (text : List Char) : Nat := 1000 + 20 * text.length

/-- Reads the next complete command of a script; `none` at its end. -/
def readCommandLine (reader : Reader) : Except SyntaxFault (Option Command × Reader) :=
  (readList (readingLimit reader.text) .line none).run
    { reader with held := false, waiting := [] }

end Bindery.Shell
