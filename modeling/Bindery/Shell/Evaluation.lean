/-
This file carries out commands. What a command does to the shell is part of its result, so a
command that runs apart is carried out on a copy of the shell, of which only the world is kept.
Each function takes a bound on how deep and how far it goes.
-/

import Bindery.Shell.Lookup
import Bindery.Shell.Redirection

namespace Bindery.Shell

/-- What a program is started with. -/
structure Launch where
  /-- The number of the process that starts it. -/
  parent : Nat
  streams : List (Nat × Nat)
  here : Place
  mask : Nat
  path : List Char
  /-- The name that it is called by. -/
  name : List Char
  arguments : List (List Char)
  environment : List (List Char × List Char)

/-- Starts a program in a world: its status, below zero the number of a signal, and the world
that it leaves. -/
abbrev Starter := World → Launch → Except Errno (Int × World)

/-! ### Steps that can stop -/

/-- Carries out a task and tells how it stopped, if it did. -/
def attempt {α : Type} (task : Task α) : Task (Except Stop α) := fun session =>
  let (result, after) := task session
  (.ok result, after)

/-- Carries out a task and then another one, even if the first stops. -/
def ensuring {α : Type} (task : Task α) (after : Session → Session) : Task α := do
  let result ← attempt task
  modify after
  match result with
  | .ok value => return value
  | .error stop => throw stop

/-- Sets the status of the last command. -/
def setStatus (status : Nat) : Task Unit := modify fun session => { session with status := status }

/-- The copy of a shell that runs apart. It does not know the actions for signals, except that
some are ignored, and it is in no loop. -/
def Session.copy (session : Session) : Session :=
  { session with
    isApart := true
    loops := 0
    skip := .none
    status := session.saved.getD session.status
    saved := none
    traps := session.traps.filter fun trap => trap.2 = [] }

/-- The status of a process that ended, below zero the number of a signal; a signal is told
of. -/
def endedStatus (status : Int) : Task Nat := do
  if 0 ≤ status then return (status % 256).toNat
  else
    let signal := status.natAbs
    match signalDescriptions.lookup signal with
    | some words => printError (words ++ "\n").toList
    | none => pure ()
    return 128 + signal

/-- Carries out a task apart; gives the status that it ends with. -/
def apart (task : Task Nat) : Task Nat := do
  let session ← get
  let (result, after) := task session.copy
  set { session with world := after.world }
  match result with
  | .ok status => endedStatus status
  | .error (.killed signal) => endedStatus (-(signal : Int))
  | .error _ => endedStatus after.status

/-- Ends a shell if a signal ended it while shells inside it still ran. -/
def checkEnded : Task Unit := do
  let session ← get
  match session.world.ended with
  | some signal => if !session.isApart then throw (.killed signal)
  | none => pure ()

/-! ### Reading scripts -/

/-- Writes lines of a script that were read, if the shell is told to. -/
def showRead (text : List Char) : Task Unit := do
  if (← get).hasOption 'v' then printError text

/-- The text of the first lines. -/
def firstLines : (count : Nat) → List Char → List Char
  | 0, _ => []
  | _ + 1, [] => []
  | count + 1, c :: rest => c :: firstLines (if c = '\n' then count else count + 1) rest

/-- The lines that were read up to a fault. -/
def linesUpTo (reader : Reader) (fault : SyntaxFault) : List Char :=
  let isEnd :=
    match fault.misreading with
    | .unexpected .newline _ => true
    | _ => false
  firstLines (fault.line - reader.line + if isEnd then 0 else 1) reader.text

/-- Reads the next complete command of a script; `none` at its end. What cannot be read stops
the shell. The lines are shown if the shell is told to and `isFile` says that they are lines of
a file. -/
def readNextCommand (isFile : Bool) (reader : Reader) : Task (Option Command × Reader) := do
  let session ← get
  let prepared : Reader :=
    { reader with
      aliases := session.aliases, nextDocument := session.world.nextDocument, documents := [] }
  match readCommandLine prepared with
  | .error fault =>
    if isFile then showRead (linesUpTo reader fault)
    modify fun shown => { shown with line := fault.line, readLine := fault.line }
    failWith fault.message
  | .ok (command, after) =>
    set { session with
      readLine := after.line
      world := { session.world with
        documents := after.documents ++ session.world.documents
        nextDocument := after.nextDocument } }
    if isFile then showRead (reader.text.take (reader.text.length - after.text.length))
    return (command, after)

/-! ### Loops -/

/-- What a loop does after a round: whether it goes on, and the session. -/
def Session.afterRound (session : Session) : Bool × Session :=
  match session.skip with
  | .none => (true, session)
  | .toCaller _ => (false, session)
  | skip =>
    let left := session.skipCount - 1
    if left = 0 then (skip = .toNext, { session with skip := .none, skipCount := 0 })
    else (false, { session with skipCount := left })

/-- Ends a round of a loop; tells whether the loop goes on. -/
def endRound : Task Bool := do
  let (goesOn, session) := (← get).afterRound
  set session
  return goesOn

/-- Whether commands are passed over. -/
def isSkipping : Task Bool := do return (← get).skip ≠ .none

/-! ### Simple commands -/

/-- The first words of a simple command: the fields that they gave, the position of the command
among these, and the words that are left. -/
structure Head where
  fields : List (List Char)
  position : Nat := 0
  words : List Word
  /-- Whether functions count as commands. -/
  functions : Bool := true
  /-- Whether programs are searched in the standard places. -/
  isStandard : Bool := false
  /-- Whether the first command of the shell among the fields is a special one. -/
  special : Option Bool := none
  /-- Whether arguments can be assignments. -/
  assigns : Bool := false
  isExec : Bool := false

/-- Expands words up to the first that gives fields. -/
def expandFirst (capture : Command → Task (List Char)) : List Word →
    Task (List (List Char) × List Word)
  | [] => pure ([], [])
  | word :: rest => do
    let fields ← expandWord capture word
    if fields.isEmpty then expandFirst capture rest else return (fields, rest)

/-- Makes sure of a field at a position, and gives it if there is one. -/
def Head.at (capture : Command → Task (List Char)) (head : Head) (position : Nat) :
    Task (Option (List Char) × Head) := do
  match head.fields[position]? with
  | some field => return (some field, head)
  | none =>
    let (fields, words) ← expandFirst capture head.words
    let longer : Head := { head with fields := head.fields ++ fields, words := words }
    return (longer.fields[position]?, longer)

/-- Goes past the options in front of a command that is named as an argument; tells whether there
is one. -/
def Head.pass (capture : Command → Task (List Char)) : (fuel : Nat) → (head : Head) →
    (position : Nat) → Task (Bool × Head)
  | 0, head, _ => pure (false, head)
  | fuel + 1, head, position => do
    let (field?, head) ← head.at capture position
    match field? with
    | none => return (false, head)
    | some ['-', '-'] =>
      let (next?, head) ← head.at capture (position + 1)
      return (next?.isSome, { head with position := position + 1 })
    | some ('-' :: c :: letters) =>
      if (c :: letters).all (· = 'p') then
        Head.pass capture fuel { head with isStandard := true } (position + 1)
      else return (false, head)
    | some _ => return (true, { head with position := position })

/-- Looks through the fields up to the command that is meant. -/
def Head.resolve (capture : Command → Task (List Char)) : (fuel : Nat) → (head : Head) →
    Task Head
  | 0, head => pure head
  | fuel + 1, head => do
    let name := (head.fields[head.position]?).getD []
    match (← get).findCommand head.functions name with
    | .builtin =>
      let seen : Head :=
        { head with
          special := some (head.special.getD (isSpecialCommand name))
          assigns := takesAssignments name
          isExec := name = "exec".toList }
      if name ≠ "command".toList then return seen
      else
        let (isNamed, inner) ← Head.pass capture fuel seen (head.position + 1)
        if isNamed then Head.resolve capture fuel { inner with functions := false }
        else return { inner with position := head.position }
    | _ => return { head with assigns := false, isExec := false }

/-- How many commands may be named as arguments of each other. -/
def headLimit : Nat := 1000

/-- Expands the words of a simple command. -/
def expandHead (capture : Command → Task (List Char)) (words : List Word) : Task Head := do
  let (fields, rest) ← expandFirst capture words
  if fields.isEmpty then return { fields := [], words := [] }
  else
    let head ← Head.resolve capture headLimit { fields := fields, words := rest }
    let others ← head.words.mapM fun word =>
      if head.assigns && (assignedName? word).isSome then do
        return [← expandText capture { isAssignment := true } word]
      else expandWord capture word
    return { head with fields := head.fields ++ others.flatten, words := [] }

/-- Carries out assignments in front of a command, in turn; gives their texts. They are local
and exported if `isLocal` says so. -/
def assignAll (capture : Command → Task (List Char)) (isLocal exports : Bool) :
    List Word → Task (List (List Char))
  | [] => pure []
  | word :: rest => do
    let text ← expandText capture { isAssignment := true } word
    let (name, value) := splitAssignment text
    if isLocal then makeLocal name
    assign name value (isLocal || exports)
    return text :: (← assignAll capture isLocal exports rest)

/-- Writes a command before it is carried out, if the shell is told to; `stream` is the channel
that errors led to before it. -/
def trace (capture : Command → Task (List Char)) (channel : Option Nat)
    (fields : List (List Char)) : Task Unit := do
  let session ← get
  if session.hasOption 'x' then
    set { session with options := session.options.filter (· ≠ 'x') }
    let sign := (session.value? "PS4".toList).getD []
    let reader : Reader := { text := sign }
    let nest : Nest := ⟨readInner sign.length, readClosing sign.length⟩
    let front ←
      match (readQuotedText nest).run reader with
      | .ok (word, _) => expandText capture { isQuoted := true } word
      | .error _ => pure sign
    modify fun after => { after with options := session.options }
    let line := front ++ joinWith [' '] fields ++ ['\n']
    match channel with
    | none => pure ()
    | some key =>
      let streams := (← get).streams
      modify fun after => after.setStream 2 key
      printError line
      modify fun after => { after with streams := streams }

/-- The variables that programs are started with. -/
def Session.environment (session : Session) : List (List Char × List Char) :=
  session.parameters.filterMap fun (name, entry) =>
    if entry.isExported then entry.value.map fun value => (name, value) else none

/-- Starts the program at a path; gives its status. What is in no form that can be run is run as
a script. -/
def startAt (starter : Starter) (path name : List Char) (arguments : List (List Char)) :
    Task (Except Errno Int) := do
  let session ← get
  let launch (path name : List Char) (arguments : List (List Char)) : Launch :=
    { parent := session.process
      streams := session.streams
      here := session.here
      mask := session.mask
      path := path
      name := name
      arguments := arguments
      environment := session.environment }
  let result :=
    match starter session.world (launch path name arguments) with
    | .error code =>
      if code = Errno.notExecutable then
        let shell := "/bin/sh".toList
        starter session.world (launch shell shell (path :: arguments))
      else .error code
    | started => started
  match result with
  | .error code =>
    warn (name ++ ": ".toList ++ runningFault code)
    return .error code
  | .ok (status, world) =>
    modify fun after => { after with world := world }
    return .ok status

/-- Starts a program by its name; gives its status. -/
def startProgram (starter : Starter) (isStandard : Bool) (name : List Char)
    (arguments : List (List Char)) : Task (Except Errno Int) := do
  let session ← get
  if name.contains '/' then startAt starter name name arguments
  else
    let searchPath := if isStandard then standardPath else session.searchPath
    match session.findProgram searchPath name with
    | .ok path => startAt starter path name arguments
    | .error code =>
      warn (name ++ ": ".toList ++ runningFault code)
      return .error Errno.noEntry

/-- Runs a program by its name; gives its status. -/
def runProgram (starter : Starter) (isStandard : Bool) (name : List Char)
    (arguments : List (List Char)) : Task Nat := do
  match ← startProgram starter isStandard name arguments with
  | .ok status => endedStatus status
  | .error code => return runningStatus code

/-- Lets a program take the place of the shell; without a program nothing happens. -/
def runExec (starter : Starter) (arguments : List (List Char)) : Task Nat := do
  let (_, rest) ← readFlags "" arguments
  match rest with
  | [] => return 0
  | name :: others =>
    match ← startProgram starter false name others with
    | .error code => setStatus (runningStatus code)
    | .ok status =>
      if status < 0 then throw (.killed status.natAbs)
      modify fun session => { session with status := status.toNat, traps := [] }
    throw .ending

/-! ### Commands -/

/-- How many functions may be around a command. -/
def callLimit : Nat := 1000

/-- Ends the shell after a failure, if it is told to and the failure counts. -/
def checkStatus (isTested : Bool) : Task Unit := do
  let session ← get
  if session.hasOption 'e' && !isTested && session.status ≠ 0 then throw .ending

/-- Leads the standard input to where nothing is read. -/
def closeInput : Task Unit := do
  let key ← newChannel .void
  modify fun session => session.setStream 0 key

/-- Keeps the status of a command that is not waited for. -/
def addJob (status : Nat) : Task Unit :=
  modify fun session =>
    let (number, session) := session.newProcess
    { session with jobs := (number, status) :: session.jobs, lastJob := some number }

/-- Carries out redirections; gives the status of a failure, or zero. -/
def redirectSafely (capture : Command → Task (List Char)) (goals : List (Nat × Goal)) :
    Task Nat := do
  match ← attempt (redirectAll capture goals) with
  | .ok () => return 0
  | .error .error => return 2
  | .error stop => throw stop

/-- Ends a command that was carried out by the shell or by itself: its streams lead where they
led before, and what was local is as it was. -/
def Session.endCommand (session before : Session) (numbers : List Nat) (isLocal : Bool) :
    Session :=
  let restored := session.restoreStreams before numbers
  if isLocal then restored.popLocals else restored

/-- The file of a script that is to be read in. -/
def findScript (name : List Char) : Task (List Char) := do
  let session ← get
  if name.contains '/' then return name
  else
    let found := (searchPaths session.searchPath name).find? fun path =>
      (session.nodeAt? true path).any Node.isFile
    match found with
    | some path => return path
    | none => fail (name ++ ": not found".toList)

/-- The text of a script that is to be read in. -/
def readScript (path : List Char) : Task (List Char) := do
  let session ← get
  if isDevice path then return []
  else
    match session.locate true path with
    | .ok (.found _ (.file bytes _)) => return ofBytes bytes
    | .ok (.found ..) => return []
    | .ok (.vacant ..) => failOpening .read path Errno.noEntry
    | .error code => failOpening .read path code

mutual

/-- Carries out a command. Its failure counts for nothing if `isTested` says so. -/
def evaluate (starter : Starter) : (fuel : Nat) → (isTested : Bool) → Command → Task Unit
  | 0, _, _ => throw .ending
  | fuel + 1, isTested, command => do
    if (← get).hasOption 'n' then return
    runTraps starter fuel
    match command with
    | .nothing => pure ()
    | .negate inner =>
      evaluate starter fuel true inner
      modify fun session => { session with status := if session.status = 0 then 1 else 0 }
    | .redirected body redirects line =>
      evaluateRedirected starter fuel isTested body redirects line
    | .simple assignments arguments redirects line =>
      let status ← evaluateSimple starter fuel isTested assignments arguments redirects line
      setStatus status
      checkStatus isTested
    | .forEach name items body line =>
      modify fun session => { session with line := line }
      let fields ← expandWords (captureOutput starter fuel) items
      modify fun session => { session with loops := session.loops + 1 }
      let status ← ensuring (evaluateEach starter fuel isTested name body 0 fields) fun session =>
        { session with loops := session.loops - 1 }
      setStatus status
    | .loop isUntil condition body =>
      modify fun session => { session with loops := session.loops + 1 }
      let status ←
        ensuring (evaluateLoop starter fuel isTested isUntil condition body 0) fun session =>
          { session with loops := session.loops - 1 }
      setStatus status
    | .apart body redirects line =>
      modify fun session => { session with line := line }
      let goals ← expandRedirects (captureOutput starter fuel) redirects
      let status ← apart (evaluateApart starter fuel isTested goals body)
      setStatus status
      checkStatus isTested
    | .background body redirects line =>
      if line ≠ 0 then modify fun session => { session with line := line }
      let goals ← expandRedirects (captureOutput starter fuel) redirects
      let status ← apart do
        closeInput
        evaluateApart starter fuel false goals body
      addJob status
      setStatus 0
    | .pipeline parts isBackground =>
      if isBackground then
        let status ← apart do
          closeInput
          evaluatePipeline starter fuel isTested none parts
        addJob status
        setStatus 0
      else
        let status ← evaluatePipeline starter fuel isTested none parts
        setStatus status
        checkStatus isTested
    | .choose subject arms line =>
      modify fun session => { session with line := line }
      let text ← expandText (captureOutput starter fuel) { tilde := true } subject
      evaluateArms starter fuel isTested text arms
    | .both first second =>
      evaluate starter fuel true first
      let session ← get
      if session.status = 0 && session.skip = .none then evaluate starter fuel isTested second
    | .either first second =>
      evaluate starter fuel true first
      let session ← get
      if session.status ≠ 0 && session.skip = .none then evaluate starter fuel isTested second
    | .sequence first second =>
      evaluate starter fuel isTested first
      if !(← isSkipping) then evaluate starter fuel isTested second
    | .branch condition yes no =>
      evaluate starter fuel true condition
      if !(← isSkipping) then
        if (← get).status = 0 then evaluate starter fuel isTested yes
        else
          match no with
          | .nothing => setStatus 0
          | no => evaluate starter fuel isTested no
    | .define name body line =>
      modify fun session =>
        { session with
          functions := (name, ⟨body, line⟩) :: session.functions.filter (·.1 ≠ name) }
      setStatus 0
    runTraps starter fuel

/-- Carries out a command with redirections. -/
def evaluateRedirected (starter : Starter) : (fuel : Nat) → (isTested : Bool) → Command →
    List Redirect → (line : Nat) → Task Unit
  | 0, _, _, _, _ => throw .ending
  | fuel + 1, isTested, body, redirects, line => do
    let capture := captureOutput starter fuel
    modify fun session => { session with line := line }
    let goals ← expandRedirects capture redirects
    let before ← get
    let restore (session : Session) : Session :=
      session.restoreStreams before (goals.map Prod.fst)
    let status ← ensuring (redirectSafely capture goals) id
    if status = 0 then ensuring (evaluate starter fuel isTested body) restore
    else
      modify restore
      setStatus status
      checkStatus isTested

/-- Carries out a loop over fields; gives the status of the last round. -/
def evaluateEach (starter : Starter) : (fuel : Nat) → (isTested : Bool) → (name : List Char) →
    Command → (status : Nat) → List (List Char) → Task Nat
  | 0, _, _, _, status, _ => pure status
  | _ + 1, _, _, _, status, [] => pure status
  | fuel + 1, isTested, name, body, _, field :: rest => do
    assign name field false
    evaluate starter fuel isTested body
    let status := (← get).status
    if ← endRound then evaluateEach starter fuel isTested name body status rest
    else return status

/-- Carries out a loop on a condition; gives the status of the last round. -/
def evaluateLoop (starter : Starter) : (fuel : Nat) → (isTested isUntil : Bool) →
    (condition body : Command) → (status : Nat) → Task Nat
  | 0, _, _, _, _, _ => throw .ending
  | fuel + 1, isTested, isUntil, condition, body, status => do
    evaluate starter fuel true condition
    let tested ← get
    if tested.skip ≠ .none then
      let left := if tested.skip = .toCaller true then tested.status else status
      if ← endRound then evaluateLoop starter fuel isTested isUntil condition body left
      else return left
    else if decide (tested.status = 0) = isUntil then return status
    else
      evaluate starter fuel isTested body
      let status := (← get).status
      if ← endRound then evaluateLoop starter fuel isTested isUntil condition body status
      else return status

/-- Carries out the first arm with a pattern that matches. -/
def evaluateArms (starter : Starter) : (fuel : Nat) → (isTested : Bool) → (text : List Char) →
    List (List Word × Command) → Task Unit
  | 0, _, _, _ => throw .ending
  | _ + 1, _, _, [] => setStatus 0
  | fuel + 1, isTested, text, (patterns, body) :: rest => do
    if ← matchesAny starter fuel text patterns then
      match body with
      | .nothing => setStatus 0
      | body => evaluate starter fuel isTested body
    else evaluateArms starter fuel isTested text rest

/-- Whether one of some patterns matches a text. -/
def matchesAny (starter : Starter) : (fuel : Nat) → (text : List Char) → List Word → Task Bool
  | 0, _, _ => pure false
  | _ + 1, _, [] => pure false
  | fuel + 1, text, pattern :: rest => do
    let shown ← expandPattern (captureOutput starter fuel) pattern
    if fits shown text then return true else matchesAny starter fuel text rest

/-- Carries out a command in a shell that runs apart; gives the status of that shell. -/
def evaluateApart (starter : Starter) : (fuel : Nat) → (isTested : Bool) →
    List (Nat × Goal) → Command → Task Nat
  | 0, _, _, _ => throw .ending
  | fuel + 1, isTested, goals, body =>
    runShell starter fuel do
      redirectAll (captureOutput starter fuel) goals
      evaluate starter fuel isTested body

/-- Carries out the parts of a pipeline in turn, each with the output of the one before as its
input; gives the status of the last. -/
def evaluatePipeline (starter : Starter) : (fuel : Nat) → (isTested : Bool) →
    (input : Option (List Char)) → List Command → Task Nat
  | 0, _, _, _ => throw .ending
  | _ + 1, _, _, [] => pure 0
  | fuel + 1, isTested, input, part :: rest => do
    let sink ← newChannel (.sink [])
    let status ← apart do
      match input with
      | none => pure ()
      | some text =>
        let source ← newChannel (.source text)
        modify fun session => session.setStream 0 source
      if !rest.isEmpty then modify fun session => session.setStream 1 sink
      runShell starter fuel (evaluate starter fuel isTested part)
    if rest.isEmpty then return status
    else
      let text := (← get).world.collected sink
      evaluatePipeline starter fuel isTested (some text) rest

/-- Carries out a command apart and gives what it wrote. -/
def captureOutput (starter : Starter) : (fuel : Nat) → Command → Task (List Char)
  | 0, _ => throw .ending
  | fuel + 1, command => do
    match command with
    | .nothing => return []
    | command =>
      let sink ← newChannel (.sink [])
      let status ← apart do
        modify fun session => session.setStream 1 sink
        runShell starter fuel (evaluate starter fuel false command)
      modify fun session => { session with innerStatus := status }
      checkEnded
      return (← get).world.collected sink

/-- Carries out what a shell does up to its end, and its last action; gives its status. -/
def runShell (starter : Starter) : (fuel : Nat) → Task Unit → Task Nat
  | 0, _ => throw .ending
  | fuel + 1, task => do
    match ← attempt task with
    | .error (.killed signal) => throw (.killed signal)
    | .error stop =>
      modify fun session =>
        let status :=
          if stop = .exit || session.skip = .toCaller false then
            session.saved.getD session.status
          else session.status
        { session with status := status, saved := none, skip := .none, loops := 0 }
    | .ok () => pure ()
    let session ← get
    match session.traps.lookup 0 with
    | none => return session.status
    | some action =>
      let ended := session.setTrap 0 none
      set { ended with saved := some session.status, skip := .none }
      match ← attempt (evaluateText starter fuel false action) with
      | .ok _ => return session.status
      | .error (.killed signal) => throw (.killed signal)
      | .error .exit => return ((← get).saved).getD session.status
      | .error _ => return (← get).status

/-- Carries out the actions for signals that have come. -/
def runTraps (starter : Starter) : (fuel : Nat) → Task Unit
  | 0 => pure ()
  | fuel + 1 => do
    checkEnded
    let session ← get
    if session.isApart || session.skip ≠ .none then return
    match session.world.pending with
    | [] => return
    | signal :: rest =>
      set { session with world := { session.world with pending := rest } }
      match session.traps.lookup signal with
      | none => pure ()
      | some action =>
        let status := session.saved.getD session.status
        modify fun before => { before with saved := some status }
        let _ ← evaluateText starter fuel false action
        modify fun after =>
          { after with
            status := if after.skip = .toCaller true then after.status else status
            saved := session.saved }
      runTraps starter fuel

/-- Carries out the commands of a text; gives the status of the last. -/
def evaluateText (starter : Starter) : (fuel : Nat) → (isTested : Bool) → List Char → Task Nat
  | 0, _, _ => throw .ending
  | fuel + 1, isTested, text => do
    let line := (← get).readLine
    ensuring (evaluateLines starter fuel isTested false 0 { text := text }) fun session =>
      { session with readLine := line }

/-- Carries out the commands that a reader still has; gives the status of the last. Lines are
shown if the shell is told to and `isFile` says that they are lines of a file. -/
def evaluateLines (starter : Starter) : (fuel : Nat) → (isTested isFile : Bool) →
    (status : Nat) → Reader → Task Nat
  | 0, _, _, _, _ => throw .ending
  | fuel + 1, isTested, isFile, status, reader => do
    let (command?, after) ← readNextCommand isFile reader
    match command? with
    | none => return status
    | some command =>
      evaluate starter fuel isTested command
      let session ← get
      let status :=
        match command with
        | .nothing => status
        | _ => session.status
      if ← isSkipping then return status
      else evaluateLines starter fuel isTested isFile status after

/-- Carries out a simple command; gives its status. -/
def evaluateSimple (starter : Starter) : (fuel : Nat) → (isTested : Bool) →
    (assignments arguments : List Word) → List Redirect → (line : Nat) → Task Nat
  | 0, _, _, _, _, _ => throw .ending
  | fuel + 1, isTested, assignments, arguments, redirects, line => do
    let capture := captureOutput starter fuel
    modify fun session => { session with line := line, innerStatus := 0 }
    let head ← expandHead capture arguments
    let fields := head.fields.drop head.position
    let goals ← expandRedirects capture redirects
    let before ← get
    let numbers := if head.isExec then [] else goals.map Prod.fst
    let isSpecial := head.special = some true
    let isLocal := !fields.isEmpty && !isSpecial
    if (← redirectSafely capture goals) ≠ 0 then
      modify fun session => session.endCommand before numbers false
      setStatus 2
      if isSpecial then throw .error
      return 2
    else
      if isLocal then pushLocals
      ensuring
        (do
          let texts ← assignAll capture isLocal (head.isExec && 1 < fields.length) assignments
          trace capture (before.streams.lookup 2) (texts ++ head.fields)
          match fields with
          | [] => return (← get).innerStatus
          | name :: others => runNamed starter fuel isTested isSpecial head name others)
        fun session => session.endCommand before numbers isLocal

/-- Carries out a command by its name and arguments; gives its status. -/
def runNamed (starter : Starter) : (fuel : Nat) → (isTested isSpecial : Bool) → Head →
    (name : List Char) → (arguments : List (List Char)) → Task Nat
  | 0, _, _, _, _, _ => throw .ending
  | fuel + 1, isTested, isSpecial, head, name, arguments => do
    let session ← get
    match session.findCommand head.functions name with
    | .program => runProgram starter head.isStandard name arguments
    | .function function =>
      if callLimit ≤ session.calls then
        failWith ("Maximum function recursion depth (" ++ toString callLimit ++ ") reached")
      set { session with
        arguments := arguments
        optionIndex := 1
        optionOffset := none
        loops := 0
        calls := session.calls + 1 }
      ensuring (evaluate starter fuel isTested function.body) fun after =>
        { after with
          arguments := session.arguments
          optionIndex := session.optionIndex
          optionOffset := session.optionOffset
          loops := session.loops
          calls := session.calls
          skip :=
            match after.skip with
            | .toCaller _ => .none
            | skip => skip }
      return (← get).status
    | .builtin =>
      set { session with command := some name }
      let result ← attempt (runBuiltin starter fuel isTested name arguments)
      modify fun after => { after with command := session.command }
      match result with
      | .ok status => return status
      | .error stop => if stop = .error && !isSpecial then return (← get).status else throw stop

/-- Carries out a command of the shell; gives its status. -/
def runBuiltin (starter : Starter) : (fuel : Nat) → (isTested : Bool) → (name : List Char) →
    (arguments : List (List Char)) → Task Nat
  | 0, _, _, _ => throw .ending
  | fuel + 1, isTested, name, arguments => do
    match String.ofList name with
    | "eval" =>
      if arguments.isEmpty then return 0
      else evaluateText starter fuel isTested (joinWith [' '] arguments)
    | "." =>
      let (_, rest) ← readFlags "" arguments
      match rest with
      | [] => return 0
      | script :: _ =>
        let path ← findScript script
        let text ← readScript path
        let line := (← get).readLine
        modify fun session => { session with command := some path }
        let status ← ensuring (evaluateLines starter fuel false true 0 { text := text })
          fun session => { session with readLine := line }
        modify fun session =>
          match session.skip with
          | .toCaller _ => { session with skip := .none }
          | _ => session
        return status
    | "exec" => runExec starter arguments
    | _ => runPlain name arguments

end

end Bindery.Shell
