/-
This file holds the commands that a shell carries out itself, apart from those that run further
commands. Each gives its status.
-/

import Bindery.Shell.Condition
import Bindery.Shell.Expansion
import Bindery.Shell.Format
import Bindery.Shell.Signal

namespace Bindery.Shell

/-! ### Arguments -/

/-- Reads options from the letters that are left of an argument and from the arguments after it:
the options with their arguments, and what follows them. An option takes an argument if it is
listed with `true`. -/
def readLetters (known : List (Char × Bool)) : (fuel : Nat) → List Char → List (List Char) →
    Task (List (Char × List Char) × List (List Char))
  | 0, _, arguments => pure ([], arguments)
  | fuel + 1, [], arguments =>
    match arguments with
    | ('-' :: c :: letters) :: rest =>
      if c = '-' && letters = [] then pure ([], rest)
      else readLetters known fuel (c :: letters) rest
    | _ => pure ([], arguments)
  | fuel + 1, letter :: letters, rest =>
    match known.lookup letter with
    | none => fail ("Illegal option -".toList ++ [letter])
    | some false => do
      let (options, left) ← readLetters known fuel letters rest
      return ((letter, []) :: options, left)
    | some true =>
      match (if letters = [] then rest else letters :: rest) with
      | [] => fail ("No arg for -".toList ++ letter :: " option".toList)
      | argument :: rest => do
        let (options, left) ← readLetters known fuel [] rest
        return ((letter, argument) :: options, left)

/-- The options at the front of arguments, with their own arguments, and what follows them. -/
def readOptions (known : List (Char × Bool)) (arguments : List (List Char)) :
    Task (List (Char × List Char) × List (List Char)) :=
  readLetters known (arguments.flatten.length + arguments.length + 1) [] arguments

/-- `readOptions` for options without arguments. -/
def readFlags (letters : String) (arguments : List (List Char)) :
    Task (List Char × List (List Char)) := do
  let known := letters.toList.map fun letter => (letter, false)
  let (options, rest) ← readOptions known arguments
  return (options.map Prod.fst, rest)

/-- Whether arguments begin with an option, which has to be one of these letters. Nothing else is
looked at. -/
def beginsOption (letters : String) (arguments : List (List Char)) : Task Bool :=
  match arguments with
  | ['-', '-'] :: _ => pure false
  | ('-' :: c :: _) :: _ =>
    if letters.toList.contains c then pure true else fail ("Illegal option -".toList ++ [c])
  | _ => pure false

/-- Writes text to the first stream; the status tells whether the stream takes it. -/
def print (text : List Char) : Task Nat := do
  if ← writeTo 1 text then return 0
  else
    let name := (← get).command.getD []
    warn (name ++ ": I/O error".toList)
    return 1

/-- Writes text to the stream of errors. -/
def printError (text : List Char) : Task Unit := do
  let _ ← writeTo 2 text

/-- A text in quotes from which a shell reads it back. -/
def quotedText (text : List Char) : List Char :=
  match Text.fields '\'' text with
  | [] => ['\'', '\'']
  | first :: rest => '\'' :: first ++ ['\''] ++ go 0 rest
where
  /-- Goes on after `count` quotes in a row. -/
  go (count : Nat) : List (List Char) → List Char
    | [] => if count = 0 then [] else '"' :: List.replicate count '\'' ++ ['"']
    | part :: rest =>
      if part = [] then go (count + 1) rest
      else
        '"' :: List.replicate (count + 1) '\'' ++ '"' :: '\'' :: part ++ '\'' :: go 0 rest

/-! ### Texts and conditions -/

/-- Writes a format filled with arguments. -/
def runPrintf (arguments : List (List Char)) : Task Nat := do
  let (_, rest) ← readFlags "" arguments
  match rest with
  | [] => failWith "usage: printf format [arg ...]"
  | format :: values =>
    let filled := fillFormat format values
    filled.complaints.forM warn
    match filled.refusal with
    | none =>
      let status ← print filled.text
      return if filled.complaints.isEmpty then status else 1
    | some words =>
      warn words
      let _ ← writeTo 1 filled.text
      modify fun session => { session with status := 2 }
      throw .error

/-- The permission bits of what lies at a path. -/
def modeOf : Node → Mode
  | .file _ mode | .directory mode => mode
  | .link _ => 0o777

/-- The devices that every machine has. -/
def isDevice (path : List Char) : Bool :=
  ["/dev/null", "/dev/zero", "/dev/full", "/dev/tty", "/dev/random", "/dev/urandom"].contains
    (String.ofList path)

/-- Whether a condition holds of the file at a path, by its letter. -/
def Session.holdsOf (session : Session) (letter : Char) (path : List Char) : Bool :=
  if isDevice path then "ecrwOG".toList.contains letter
  else if letter = 'h' || letter = 'L' then (session.nodeAt? false path).any Node.isLink
  else
    match session.nodeAt? true path with
    | none => false
    | some node =>
      match letter with
      | 'e' | 'r' | 'w' | 'O' | 'G' => true
      | 'x' => node.isDirectory || modeOf node &&& 0o111 != 0
      | 'f' => node.isFile
      | 'd' => node.isDirectory
      | 's' =>
        match node with
        | .file bytes _ => !bytes.isEmpty
        | _ => true
      | 'u' => modeOf node &&& 0o4000 != 0
      | 'g' => modeOf node &&& 0o2000 != 0
      | 'k' => modeOf node &&& 0o1000 != 0
      | _ => false

/-- How a shell looks at files. -/
def Session.scene (session : Session) : Scene where
  holdsOf := session.holdsOf
  isSame first second :=
    match session.locate true first, session.locate true second with
    | .ok (.found place _), .ok (.found other _) => place = other
    | _, _ => false

/-- Asks about a condition. Under the name of a bracket the last argument closes it. -/
def runTest (name : List Char) (arguments : List (List Char)) : Task Nat := do
  let isBracket := name.head? = some '['
  let closes := ((arguments.getLast?.getD name).head?) = some ']'
  if isBracket && !closes then failWith "missing ]"
  let operands := if isBracket then arguments.dropLast else arguments
  match conditionHolds (← get).scene operands with
  | .error words => fail words
  | .ok holds => return if holds then 0 else 1

/-! ### Loops and ends -/

/-- Leaves loops, or goes on with their next round. -/
def runBreak (skip : Skip) (arguments : List (List Char)) : Task Nat := do
  let count ←
    match arguments with
    | [] => pure 1
    | text :: _ => do
      let count ← numberOf text
      if count = 0 then failNumber text else pure count
  let depth := (← get).loops
  if depth ≠ 0 then
    modify fun session => { session with skip := skip, skipCount := min count depth }
  return 0

/-- Leaves a function or a script that was read in. -/
def runReturn (arguments : List (List Char)) : Task Nat := do
  match arguments with
  | [] =>
    modify fun session => { session with skip := .toCaller false }
    return (← get).status
  | text :: _ =>
    let status ← numberOf text
    modify fun session => { session with skip := .toCaller true }
    return status

/-- Ends the shell. -/
def runExit (arguments : List (List Char)) : Task Nat := do
  match arguments with
  | [] => pure ()
  | text :: _ =>
    let status ← numberOf text
    modify fun session => { session with saved := some status }
  throw .exit

/-- Drops arguments of the script. -/
def runShift (arguments : List (List Char)) : Task Nat := do
  let count ←
    match arguments with
    | [] => pure 1
    | text :: _ => numberOf text
  let session ← get
  if session.arguments.length < count then failWith "can't shift that many"
  set { session with
    arguments := session.arguments.drop count, optionIndex := 1, optionOffset := none }
  return 0

/-! ### Directories -/

/-- The working directory without links. -/
def Session.physicalDirectory (session : Session) : List Char :=
  '/' :: joinWith ['/'] (session.here.map ofText)

/-- A directory in writing, seen from another one, without points. -/
def resolveInWriting (directory path : List Char) : List Char :=
  let isAbsolute := path.head? = some '/'
  let isDouble :=
    match (if isAbsolute then path else directory) with
    | '/' :: '/' :: '/' :: _ => false
    | '/' :: '/' :: _ => true
    | _ => false
  let start := if isAbsolute then [] else (Text.fields '/' directory).filter (· ≠ [])
  let names := (Text.fields '/' path).filter fun name => name ≠ [] && name ≠ ['.']
  let way := names.foldl
    (fun way name => if name = ['.', '.'] then way.dropLast else way ++ [name]) start
  (if isDouble then ['/', '/'] else ['/']) ++ joinWith ['/'] way

/-- Goes to a directory; without links on the way if `isPhysical` says so. -/
def goTo (path : List Char) (isPhysical : Bool) : Task Bool := do
  let session ← get
  let target := if isPhysical then path else resolveInWriting session.directory path
  match session.locate true target with
  | .ok (.found place (.directory _)) =>
    let old := session.directory
    let moved : Session := { session with here := place }
    set { moved with directory := if isPhysical then moved.physicalDirectory else target }
    assign "OLDPWD".toList old true
    assign "PWD".toList (← get).directory true
    return true
  | _ => return false

/-- Whether the directories that stand for a relative path are searched for it. -/
def isSearched (path : List Char) : Bool :=
  match path with
  | '/' :: _ | ['.'] | '.' :: '/' :: _ | ['.', '.'] | '.' :: '.' :: '/' :: _ => false
  | _ => true

/-- Changes the working directory. -/
def runCd (arguments : List (List Char)) : Task Nat := do
  let (flags, rest) ← readFlags "LP" arguments
  let isPhysical := flags.getLast? = some 'P'
  let session ← get
  let isBack := rest.head? = some ['-']
  let path :=
    match rest with
    | [] => (session.value? "HOME".toList).getD []
    | text :: _ => if isBack then (session.value? "OLDPWD".toList).getD [] else text
  let goal := if path = [] then ['.'] else path
  let searched :=
    match session.value? "CDPATH".toList with
    | some directories => if isSearched path then searchPaths directories goal else []
    | none => []
  let found := searched.find? fun candidate =>
    (session.nodeAt? true candidate).any Node.isDirectory
  if ← goTo (found.getD goal) isPhysical then
    if isBack || (found.any (· ≠ goal)) then print ((← get).directory ++ ['\n']) else return 0
  else fail ("can't cd to ".toList ++ path)

/-- Writes the working directory. -/
def runPwd (arguments : List (List Char)) : Task Nat := do
  let (flags, _) ← readFlags "LP" arguments
  let session ← get
  print
    ((if flags.getLast? = some 'P' then session.physicalDirectory else session.directory) ++ ['\n'])

/-! ### Variables -/

/-- The variables in the order of their names. -/
def Session.sorted (session : Session) (shown : Variable → Bool) : List (List Char × Variable) :=
  (session.parameters.filter fun entry => shown entry.2).mergeSort fun first second =>
    comesBefore first.1 second.1

/-- Lines that give variables their values again. -/
def variableLines (front : List Char) (entries : List (List Char × Variable)) : List Char :=
  entries.flatMap fun (name, entry) =>
    let value :=
      match entry.value with
      | some value => '=' :: quotedText value
      | none => []
    front ++ name ++ value ++ ['\n']

/-- Marks a variable, and gives it a value if the text holds one. -/
def markVariable (exports locks : Bool) (text : List Char) : Task Unit := do
  let (name, value?) := Text.cutOnce '=' text
  match value? with
  | some value => assign name value exports
  | none => if !isName name then failName name
  modify fun session =>
    let entry := (session.find? name).getD ⟨none, false, false⟩
    session.put name
      { entry with
        isExported := entry.isExported || exports, isReadOnly := entry.isReadOnly || locks }

/-- Marks variables for export or against changes, or shows those that are. -/
def runMark (name : List Char) (exports locks : Bool) (arguments : List (List Char)) :
    Task Nat := do
  let isShown ← beginsOption "p" arguments
  let rest := if arguments.head? = some ['-', '-'] then arguments.drop 1 else arguments
  if !isShown && !rest.isEmpty then
    rest.forM (markVariable exports locks)
    return 0
  else
    let shown := (← get).sorted fun entry =>
      (exports && entry.isExported) || (locks && entry.isReadOnly)
    print (variableLines (name ++ [' ']) shown)

/-- Makes variables local to the function around. A bar stands for the options. -/
def runLocal (arguments : List (List Char)) : Task Nat := do
  if (← get).calls = 0 then failWith "not in a function"
  arguments.forM fun text => do
    if text = ['-'] then makeLocal ['-']
    else
      let (name, value?) := Text.cutOnce '=' text
      if !isName name then failName name
      makeLocal name
      match value? with
      | some value => assign name value false
      | none => pure ()
  return 0

/-- Takes away a variable. -/
def unsetVariable (name : List Char) : Task Unit := do
  let name ← nameOf name
  let session ← get
  if (session.find? name).any (·.isReadOnly) then fail (name ++ ": is read only".toList)
  set (session.remove name)

/-- Takes away variables or functions. -/
def runUnset (arguments : List (List Char)) : Task Nat := do
  let (flags, rest) ← readFlags "vf" arguments
  let isFunction := flags.getLast? = some 'f'
  rest.forM fun name =>
    if isFunction then
      modify fun session =>
        { session with functions := session.functions.filter (·.1 ≠ name) }
    else unsetVariable name
  return 0

/-! ### Options -/

/-- The names of the options with their letters. -/
def optionNames : List (String × Char) := [
  ("errexit", 'e'), ("noglob", 'f'), ("ignoreeof", 'I'), ("interactive", 'i'), ("monitor", 'm'),
  ("noexec", 'n'), ("stdin", 's'), ("xtrace", 'x'), ("verbose", 'v'), ("vi", 'V'),
  ("emacs", 'E'), ("noclobber", 'C'), ("allexport", 'a'), ("notify", 'b'), ("nounset", 'u'),
  ("privileged", 'p'), ("nolog", '1'), ("debug", '2')]

/-- The letters that options can be set by. -/
def optionLetters : List Char := "efIimnsxvVECabup".toList

/-- Turns the option of a letter on or off. -/
def setOption (letter : Char) (isOn : Bool) : Task Unit := do
  if !optionLetters.contains letter then fail ("Illegal option -".toList ++ [letter])
  modify fun session =>
    let others := session.options.filter (· ≠ letter)
    { session with options := if isOn then letter :: others else others }

/-- Turns off the option that needs a terminal. -/
def settleOptions : Task Unit := do
  if (← get).hasOption 'm' then
    setOption 'm' false
    warn "can't access tty; job control turned off".toList

/-- Writes all options and whether they are on. -/
def printOptions (asCommands : Bool) : Task Unit := do
  let session ← get
  let lines := optionNames.flatMap fun (name, letter) =>
    let isOn := session.hasOption letter
    if asCommands then
      "set ".toList ++ (if isOn then "-o " else "+o ").toList ++ name.toList ++ ['\n']
    else
      name.toList ++ List.replicate (16 - name.length) ' ' ++
        (if isOn then "on\n" else "off\n").toList
  let header := if asCommands then [] else "Current option settings\n".toList
  let _ ← writeTo 1 (header ++ lines)

/-- Turns options on or off by the letters of an argument; gives the arguments left. -/
def setLetters (isOn : Bool) : List Char → List (List Char) → Task (List (List Char))
  | [], rest => pure rest
  | letter :: letters, rest =>
    if letter = 'o' then
      match rest with
      | [] => do
        printOptions (!isOn)
        setLetters isOn letters []
      | name :: rest => do
        match optionNames.find? fun entry => entry.1.toList = name with
        | some (_, letter) =>
          if optionLetters.contains letter then setOption letter isOn
        | none => fail ("Illegal option -o ".toList ++ name)
        setLetters isOn letters rest
    else do
      setOption letter isOn
      setLetters isOn letters rest

/-- Sets options from arguments; gives the arguments left, and whether they take the place of
those of the script even if there are none. -/
def setOptions : (fuel : Nat) → List (List Char) → Task (List (List Char) × Bool)
  | 0, arguments => pure (arguments, false)
  | fuel + 1, arguments =>
    match arguments with
    | ['-'] :: rest => do
      modify fun session =>
        { session with options := session.options.filter fun c => c ≠ 'x' && c ≠ 'v' }
      return (rest, false)
    | ['-', '-'] :: rest => pure (rest, true)
    | ('-' :: letters) :: rest => do
      let left ← setLetters true letters rest
      setOptions fuel left
    | ('+' :: letters) :: rest => do
      let left ← setLetters false letters rest
      setOptions fuel left
    | _ => pure (arguments, false)

/-- Sets options and the arguments of the script, or shows the variables. -/
def runSet (arguments : List (List Char)) : Task Nat := do
  if arguments.isEmpty then
    print (variableLines [] ((← get).sorted fun entry => entry.value.isSome))
  else
    let (rest, isFinal) ← setOptions (arguments.length + 1) arguments
    settleOptions
    if isFinal || !rest.isEmpty then
      modify fun session =>
        { session with arguments := rest, optionIndex := 1, optionOffset := none }
    return 0

/-! ### Options of scripts -/

/-- A step of reading options: the argument that it is in, counted from one, how far it is read,
and the letter. -/
structure OptionStep where
  letter : Char
  index : Nat
  offset : Option Nat
  isDone : Bool

/-- Whether a letter is listed among options, and whether it takes an argument. -/
def listedOption? (letter : Char) : List Char → Option Bool
  | [] => none
  | c :: rest =>
    let takes := rest.head? = some ':'
    if c = letter then some takes else listedOption? letter (if takes then rest.drop 1 else rest)
termination_by text => text.length
decreasing_by
  split <;> simp only [List.length_cons, List.length_drop] <;> omega

/-- Goes one step in reading options; sets the variable of their arguments. -/
def stepOption (known : List Char) (arguments : List (List Char)) (index : Nat)
    (offset : Option Nat) : Task OptionStep := do
  let current : List Char :=
    match offset with
    | some count => if index ≤ 1 then [] else ((arguments[index - 2]?).getD []).drop count
    | none => []
  let isQuiet := known.head? = some ':'
  let begun : Option (List Char × Nat) :=
    if current ≠ [] then some (current, index)
    else
      match arguments[index - 1]? with
      | some ('-' :: c :: rest) =>
        if c = '-' && rest = [] then none else some (c :: rest, index + 1)
      | _ => none
  match begun with
  | none =>
    let isEnd := current = [] && arguments[index - 1]? = some ['-', '-']
    return ⟨'?', if isEnd then index + 1 else index, none, true⟩
  | some ([], _) => return ⟨'?', index, none, true⟩
  | some (letter :: rest, after) =>
    let word := (arguments[after - 2]?).getD []
    let here : Option Nat := some (word.length - rest.length)
    match listedOption? letter known with
    | none =>
      if isQuiet then assign "OPTARG".toList [letter] false
      else
        printError ("Illegal option -".toList ++ [letter, '\n'])
        unsetVariable "OPTARG".toList
      return ⟨'?', after, here, false⟩
    | some false =>
      assign "OPTARG".toList [] false
      return ⟨letter, after, here, false⟩
    | some true =>
      if rest ≠ [] then
        assign "OPTARG".toList rest false
        return ⟨letter, after, none, false⟩
      else
        match arguments[after - 1]? with
        | some argument =>
          assign "OPTARG".toList argument false
          return ⟨letter, after + 1, none, false⟩
        | none =>
          if isQuiet then
            assign "OPTARG".toList [letter] false
            return ⟨':', after, none, false⟩
          else
            printError ("No arg for -".toList ++ letter :: " option\n".toList)
            unsetVariable "OPTARG".toList
            return ⟨'?', after, none, false⟩

/-- Reads the next option of a script or a function. -/
def runGetopts (arguments : List (List Char)) : Task Nat := do
  let (_, rest) ← readFlags "" arguments
  match rest with
  | known :: name :: others =>
    let session ← get
    let read := if others.isEmpty then session.arguments else others
    let isFresh := read.length + 1 < session.optionIndex
    let index := if isFresh then 1 else session.optionIndex
    let step ← stepOption known read index (if isFresh then none else session.optionOffset)
    assign "OPTIND".toList (numberText step.index) false
    assign name [step.letter] false
    modify fun after =>
      { after with optionIndex := step.index, optionOffset := step.offset }
    return if step.isDone then 1 else 0
  | _ => failWith "Usage: getopts optstring var [arg...]"

/-! ### Reading -/

/-- A line that was read: its segments, split or whole, the latest first, and whether its end was
reached. -/
structure ReadLine where
  segments : List Segment := []
  current : List Glyph := []
  isComplete : Bool := false

/-- The line with the text so far as a segment that is split. -/
def ReadLine.close (line : ReadLine) : ReadLine :=
  { line with segments := ⟨.split, line.current.reverse⟩ :: line.segments, current := [] }

/-- Reads a line from the standard input. A backslash takes the meaning from the character after
it, a line end too, unless `isRaw` says otherwise. -/
def readLineFrom (isRaw : Bool) : (fuel : Nat) → ReadLine → Task ReadLine
  | 0, line => pure line
  | fuel + 1, line => do
    let (c?, session) := (← get).takeFrom 0
    set session
    match c? with
    | none => return line
    | some c =>
      if c = '\x00' then readLineFrom isRaw fuel line
      else if c = '\n' then return { line with isComplete := true }
      else if c = '\\' && !isRaw then readEscapedFrom fuel line.close
      else readLineFrom isRaw fuel { line with current := .char c false :: line.current }
where
  /-- Reads the character after a backslash. -/
  readEscapedFrom (fuel : Nat) (line : ReadLine) : Task ReadLine := do
    let (c?, session) := (← get).takeFrom 0
    set session
    match c? with
    | none => return line
    | some '\n' => readLineFrom isRaw fuel line
    | some c =>
      readLineFrom isRaw fuel { line with segments := ⟨.whole, [.char c true]⟩ :: line.segments }

/-- How long a line may be that a script reads. -/
def lineLimit : Nat := 100000000

/-- Gives variables the fields of a line; those without a field become empty. -/
def assignFields : List (List Char) → List (List Glyph) → Task Unit
  | [], _ => pure ()
  | name :: names, fields => do
    assign name (plainText (fields.headD [])) false
    assignFields names (fields.drop 1)

/-- Reads a line into variables. -/
def runRead (arguments : List (List Char)) : Task Nat := do
  let (options, names) ← readOptions [('p', true), ('r', false)] arguments
  if names.isEmpty then failWith "arg count"
  let isRaw := options.any fun option => option.1 = 'r'
  let line ← readLineFrom isRaw lineLimit {}
  let segments := line.close.segments.reverse
  let fields := fieldsOf (← get).separators (some names.length) segments
  assignFields names fields
  return if line.isComplete then 0 else 1

/-! ### Masks -/

/-- The mask that octal digits stand for. -/
def octalMask? (text : List Char) : Option Nat :=
  text.foldl (fun mask c => mask.bind fun value => (octal? c).map (value * 8 + ·)) (some 0)

/-- The bits for one group of users that a letter stands for, given all permissions from before:
a right, the right to run if anyone has it, or the rights of a group. -/
def rightsOf? (before : Nat) : Char → Option Nat
  | 'r' => some 4
  | 'w' => some 2
  | 'x' => some 1
  | 's' => some 0
  | 'X' => some (if before &&& 0o111 = 0 then 0 else 1)
  | 'u' => some ((before >>> 6) &&& 7)
  | 'g' => some ((before >>> 3) &&& 7)
  | 'o' => some (before &&& 7)
  | _ => none

/-- The permissions after a change of those of some groups, which `shifts` tells. -/
def changeRights? (shifts : List Nat) (rights now : Nat) (sign : Char) : Option Nat :=
  let spread (bits : Nat) : Nat := shifts.foldl (fun all shift => all ||| (bits <<< shift)) 0
  match sign with
  | '+' => some (now ||| spread rights)
  | '-' => some (now &&& (0o777 ^^^ spread rights))
  | '=' => some ((now &&& (0o777 ^^^ spread 7)) ||| spread rights)
  | _ => none

/-- The permissions after signs that letters follow. -/
def applySigns? (before : Nat) (shifts : List Nat) : (fuel : Nat) → (now : Nat) → List Char →
    Option Nat
  | 0, _, _ => none
  | _ + 1, _, [] => none
  | fuel + 1, now, sign :: text => do
    let letters := text.takeWhile fun c => (rightsOf? before c).isSome
    let rights := (letters.filterMap (rightsOf? before)).foldl (· ||| ·) 0
    let changed ← changeRights? shifts rights now sign
    match text.drop letters.length with
    | [] => some changed
    | rest => applySigns? before shifts fuel changed rest

/-- The permissions after a clause that names groups of users and what they may do. -/
def applyClause? (before now : Nat) (clause : List Char) : Option Nat :=
  let users := clause.takeWhile fun c => "ugoa".toList.contains c
  let everyone := users.isEmpty || users.contains 'a'
  let shifts := [('u', 6), ('g', 3), ('o', 0)].filterMap fun (user, shift) =>
    if everyone || users.contains user then some shift else none
  applySigns? before shifts (clause.length + 1) now (clause.drop users.length)

/-- The mask after clauses between commas; nothing need follow the last comma. -/
def clausesMask? (mask : Nat) (text : List Char) : Option Nat :=
  let before := 0o777 ^^^ mask
  let clauses := Text.fields ',' text
  let given := if clauses.getLast? = some [] then clauses.dropLast else clauses
  (given.foldlM (applyClause? before) before).map (0o777 ^^^ ·)

/-- What a mask allows, in letters. -/
def maskLetters (mask : Nat) : List Char :=
  let letters (shift : Nat) : List Char :=
    [('r', 4), ('w', 2), ('x', 1)].filterMap fun (letter, bit) =>
      if (mask >>> shift) &&& bit = 0 then some letter else none
  "u=".toList ++ letters 6 ++ ",g=".toList ++ letters 3 ++ ",o=".toList ++ letters 0

/-- Shows or sets the mask that new files are made with. -/
def runUmask (arguments : List (List Char)) : Task Nat := do
  let (flags, rest) ← readFlags "S" arguments
  let mask := (← get).mask
  match rest with
  | [] =>
    if flags.isEmpty then
      let digits := Nat.toDigits 8 mask
      print (List.replicate (4 - digits.length) '0' ++ digits ++ ['\n'])
    else print (maskLetters mask ++ ['\n'])
  | text :: _ =>
    if text.head?.any Char.isDigit then
      match octalMask? text with
      | some value => modify fun session => { session with mask := value % 0o1000 }
      | none => failNumber text
    else
      match clausesMask? mask text with
      | some value => modify fun session => { session with mask := value }
      | none => fail ("Illegal mode: ".toList ++ text)
    return 0

/-! ### Aliases -/

/-- The line that defines an alias. -/
def aliasLine (name text : List Char) : List Char := name ++ '=' :: quotedText text ++ ['\n']

/-- Defines or shows aliases. -/
def runAlias (arguments : List (List Char)) : Task Nat := do
  if arguments.isEmpty then
    print ((← get).aliases.flatMap fun (name, text) => aliasLine name text)
  else arguments.foldlM defineAlias 0
where
  /-- Defines or shows one alias. -/
  defineAlias (status : Nat) (argument : List Char) : Task Nat := do
    let (front, text?) := Text.cutOnce '=' (argument.drop 1)
    let name := argument.take 1 ++ front
    match text? with
    | some text =>
      modify fun session =>
        { session with
          aliases := (session.aliases.filter (·.1 ≠ name)) ++ [(name, text)] }
      return status
    | none =>
      match (← get).aliases.lookup argument with
      | some text => print (aliasLine argument text)
      | none =>
        printError ("alias: ".toList ++ argument ++ " not found\n".toList)
        return 1

/-- Takes away aliases. -/
def runUnalias (arguments : List (List Char)) : Task Nat := do
  let rest := if arguments.head? = some ['-', '-'] then arguments.drop 1 else arguments
  if ← beginsOption "a" arguments then
    modify fun session => { session with aliases := [] }
    return 0
  else
    rest.foldlM
      (fun status name => do
        let session ← get
        if (session.aliases.lookup name).isSome then
          set { session with aliases := session.aliases.filter (·.1 ≠ name) }
          return status
        else
          printError ("unalias: ".toList ++ name ++ " not found\n".toList)
          return 1)
      0

/-! ### Signals -/

/-- The words for how signals are sent. -/
def killUsage : String :=
  "Usage: kill [-s sigspec | -signum | -sigspec] [pid | job]... or\nkill -l [exitstatus]"

/-- Writes the names of signals: all of them, or that of the one behind a status. -/
def listSignals (arguments : List (List Char)) : Task Nat := do
  match arguments with
  | [] =>
    let names := (List.range signalLimit).map fun signal =>
      if signal = 0 then "0\n" else signalName signal ++ "\n"
    print (names.flatMap String.toList)
  | text :: _ =>
    let number ← numberOf text
    let signal := if 128 < number then number - 128 else number
    if 0 < signal && signal < signalLimit then print ((signalName signal ++ "\n").toList)
    else fail ("invalid signal number or exit status: ".toList ++ text)

/-- Sends a signal to a process; gives the status. -/
def sendSignal (signal : Nat) (target : List Char) : Task Nat := do
  let session ← get
  let number? ←
    match target with
    | '%' :: _ => fail ("No such job: ".toList ++ target)
    | '-' :: rest => do
      let _ ← numberOf rest
      pure none
    | _ => do pure (some (← numberOf target))
  if number? = some session.process then
    match session.world.rootTraps.lookup signal with
    | some action =>
      if action ≠ [] && signal ≠ 0 then
        set { session with
          world := { session.world with pending := session.world.pending ++ [signal] } }
      return 0
    | none =>
      if isHarmless signal then return 0
      else if session.isApart then
        set { session with world := { session.world with ended := some signal } }
        return 0
      else throw (.killed signal)
  else if number?.any fun number => session.jobs.any fun job => job.1 = number then return 0
  else
    warn "No such process\n".toList
    return 1

/-- Sends a signal to processes in turn. -/
def sendSignals (signal : Nat) (targets : List (List Char)) : Task Nat :=
  targets.foldlM
    (fun status target => do
      let one ← sendSignal signal target
      return max status one)
    0

/-- Sends signals, or lists them. -/
def runKill (arguments : List (List Char)) : Task Nat := do
  match arguments with
  | [] => failWith killUsage
  | first :: rest =>
    let direct? :=
      match first with
      | '-' :: name => signalOf? 1 name
      | _ => none
    match direct? with
    | some signal => if rest.isEmpty then failWith killUsage else sendSignals signal rest
    | none =>
      let (options, targets) ← readOptions [('l', false), ('s', true)] arguments
      let signal? ← options.foldlM
        (fun signal? (letter, argument) =>
          if letter = 's' then
            match signalOf? 1 argument with
            | some signal => pure (some signal)
            | none => fail ("invalid signal number or name: ".toList ++ argument)
          else pure signal?)
        none
      let isList := options.any fun option => option.1 = 'l'
      if isList then
        if signal?.isSome then failWith killUsage else listSignals targets
      else if targets.isEmpty then failWith killUsage
      else sendSignals (signal?.getD 15) targets

/-- The session with the action for a signal; without an action it does what it always does. -/
def Session.setTrap (session : Session) (signal : Nat) (action : Option (List Char)) : Session :=
  let others := session.traps.filter (·.1 ≠ signal)
  let traps :=
    match action with
    | some text => (signal, text) :: others
    | none => others
  let world := if session.isApart then session.world else { session.world with rootTraps := traps }
  { session with traps := traps, world := world }

/-- Sets the actions for signals, or shows them. -/
def runTrap (arguments : List (List Char)) : Task Nat := do
  let (_, rest) ← readFlags "" arguments
  match rest with
  | [] =>
    let session ← get
    let lines := (List.range signalLimit).flatMap fun signal =>
      match session.traps.lookup signal with
      | some action =>
        "trap -- ".toList ++ quotedText action ++ ' ' :: (signalName signal ++ "\n").toList
      | none => []
    print lines
  | first :: others =>
    let isReset := others.isEmpty || (digitsNumber? first).any (· < signalLimit)
    let action := if isReset || first = ['-'] then none else some first
    setTraps action (if isReset then rest else others)
where
  /-- Sets the action for signals up to one that does not exist. -/
  setTraps (action : Option (List Char)) : List (List Char) → Task Nat
    | [] => pure 0
    | name :: rest =>
      match signalOf? 0 name with
      | none => do
        printError ("trap: ".toList ++ name ++ ": bad trap\n".toList)
        return 1
      | some signal => do
        modify fun session => session.setTrap signal action
        setTraps action rest

/-- Gives the status of commands that were not waited for. -/
def runWait (arguments : List (List Char)) : Task Nat := do
  let (_, rest) ← readFlags "" arguments
  rest.foldlM
    (fun _ target => do
      match target with
      | '%' :: _ => fail ("No such job: ".toList ++ target)
      | _ =>
        let number ← numberOf target
        return ((← get).jobs.lookup number).getD 127)
    0

/-- Goes on with a command in the foreground or background; there is none. -/
def runContinue (arguments : List (List Char)) : Task Nat := do
  let (_, rest) ← readFlags "" arguments
  match rest with
  | [] => failWith "No current job"
  | target :: _ => fail ("No such job: ".toList ++ target)

/-- Shows a limit of the machine. -/
def runUlimit (arguments : List (List Char)) : Task Nat := do
  let (flags, rest) ← readFlags "HSatfdsmcnplvwr" arguments
  match rest with
  | _ :: _ :: _ => failWith "too many arguments"
  | [text] =>
    if text = "unlimited".toList || text.all Char.isDigit then return 0
    else failWith "bad number"
  | [] =>
    match flags.getLast? with
    | some 'c' => print "0\n".toList
    | some 'n' => print "1048576\n".toList
    | some 's' => print "8192\n".toList
    | _ => print "unlimited\n".toList

/-- Writes how much time was used: none. -/
def runTimes : Task Nat := do
  let line := "0m0.000000s 0m0.000000s\n".toList
  print (line ++ line)

end Bindery.Shell
