/-
This file leads the streams of a shell to files, to each other, and to texts in the script.
-/

import Bindery.Shell.Expansion

namespace Bindery.Shell

/-- Where a redirection leads once its word is expanded. -/
inductive Goal where
  | file (opening : Opening) (path : List Char)
  /-- Wherever another stream leads; to nowhere without a number. -/
  | stream (number : Option Nat)
  | document (key : Nat)
deriving DecidableEq, Repr

/-- Expands the words of redirections, in turn. -/
def expandRedirects (capture : Command → Task (List Char)) :
    List Redirect → Task (List (Nat × Goal))
  | [] => pure []
  | .mk number target :: rest => do
    let goal ←
      match target with
      | .file opening word => do
        pure (Goal.file opening (← expandText capture { tilde := true } word))
      | .stream other => pure (.stream other)
      | .document key => pure (.document key)
      | .streamOf word => do
        match ← expandText capture { tilde := true } word with
        | ['-'] => pure (.stream none)
        | [c] => if c.isDigit then pure (.stream (some (c.toNat - 0x30))) else failStream
        | _ => failStream
    return (number, goal) :: (← expandRedirects capture rest)
where
  /-- Complains that a word stands for no stream. -/
  failStream : Task Goal := do
    modify fun session => { session with line := session.readLine }
    failWith (SyntaxFault.message ⟨0, .streamNumber⟩)

/-- Whether a file is made if it is not there. -/
def Opening.creates : Opening → Bool
  | .read => false
  | _ => true

/-- The words for why a file cannot be opened. -/
def openingFault (opening : Opening) (code : Errno) : List Char :=
  let isAbsent := code = Errno.noEntry || code = Errno.notDirectory
  if !isAbsent then code.reason.toList
  else if opening.creates then "Directory nonexistent".toList
  else "No such file".toList

/-- Complains that a file cannot be opened. -/
def failOpening {α : Type} (opening : Opening) (path : List Char) (code : Errno) : Task α :=
  fail
    ((if opening.creates then "cannot create " else "cannot open ").toList ++ path ++
      ": ".toList ++ openingFault opening code)

/-- The streams that the paths of devices stand for. -/
def streamOfDevice? (path : List Char) : Option Nat :=
  match String.ofList path with
  | "/dev/stdin" => some 0
  | "/dev/stdout" => some 1
  | "/dev/stderr" => some 2
  | _ => (Text.afterFront? "/dev/fd/".toList path).bind fun digits =>
    if digits ≠ [] && digits.all Char.isDigit then some (decimalValue digits) else none

/-- Makes a channel. -/
def newChannel (channel : Channel) : Task Nat := do
  let (key, session) := (← get).addChannel channel
  set session
  return key

/-- Puts a file in place. -/
def putFile (place : Place) (bytes : List UInt8) (mode : Mode) : Task Unit :=
  modify fun session =>
    { session with
      world := { session.world with disk := session.world.disk.put place (.file bytes mode) } }

/-- Opens a file of the disk; gives the key of its channel. -/
def openOnDisk (opening : Opening) (path : List Char) : Task Nat := do
  let session ← get
  let keepsOld := opening = .write && session.hasOption 'C'
  let isMissingDirectory :=
    path.getLast? = some '/' &&
      match session.locate true ((path.reverse.dropWhile (· = '/')).reverse) with
      | .ok (.vacant ..) => true
      | _ => false
  if opening.creates && isMissingDirectory then failOpening opening path Errno.isDirectory
  match session.locate true path with
  | .error code => failOpening opening path code
  | .ok (.found _ (.link _)) => failOpening opening path Errno.linkLoop
  | .ok (.found _ (.directory _)) =>
    if opening = .read then newChannel .full else failOpening opening path Errno.isDirectory
  | .ok (.found place (.file _ mode)) =>
    if keepsOld then failOpening opening path Errno.alreadyExists
    else
      if opening = .write || opening = .overwrite then putFile place [] mode
      newChannel (.file place 0 opening)
  | .ok (.vacant directory name) =>
    if !opening.creates then failOpening opening path Errno.noEntry
    else
      let place := directory ++ [name]
      putFile place [] (0o666 &&& (0o777 ^^^ session.mask))
      newChannel (.file place 0 opening)

/-- Opens a file or a device; gives the key of its channel. -/
def openFile (opening : Opening) (path : List Char) : Task Nat := do
  match String.ofList path with
  | "/dev/null" | "/dev/zero" | "/dev/random" | "/dev/urandom" => newChannel .void
  | "/dev/full" => newChannel .full
  | "/dev/tty" => failOpening opening path 6
  | _ =>
    match streamOfDevice? path with
    | some number =>
      match (← get).streams.lookup number with
      | some key => return key
      | none => failOpening opening path Errno.noEntry
    | none => openOnDisk opening path

/-- Carries out a redirection. -/
def redirect (capture : Command → Task (List Char)) (number : Nat) : Goal → Task Unit
  | .file opening path => do
    let key ← openFile opening path
    modify fun session => session.setStream number key
  | .stream none => modify fun session => session.closeStream number
  | .stream (some other) => do
    if other ≠ number then
      match (← get).streams.lookup other with
      | some key => modify fun session => session.setStream number key
      | none => fail (numberText other ++ ": Bad file descriptor".toList)
  | .document key => do
    let word := ((← get).world.documents.lookup key).getD []
    let text ← expandText capture { isQuoted := true } word
    let channel ← newChannel (.source text)
    modify fun session => session.setStream number channel

/-- Carries out redirections in turn. -/
def redirectAll (capture : Command → Task (List Char)) (goals : List (Nat × Goal)) : Task Unit :=
  goals.forM fun (number, goal) => redirect capture number goal

/-- The session with streams leading where they led before. -/
def Session.restoreStreams (session before : Session) (numbers : List Nat) : Session :=
  numbers.foldl
    (fun session number =>
      match before.streams.lookup number with
      | some key => session.setStream number key
      | none => session.closeStream number)
    session

end Bindery.Shell
