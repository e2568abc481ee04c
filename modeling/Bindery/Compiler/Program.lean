/-
This file interprets commands as a system runs them. A program is found by its path, or along the
search path when its name has no slash; a script is run by the interpreter that its first line
names.
-/

import Bindery.Compiler.Installed
import Bindery.Compiler.Search
import Bindery.Shell.Run

namespace Bindery.Compiler

open Text

/-- How deep interpreters of interpreters may go. -/
def interpreterLimit : Nat := 5

/-- The first line of a script after the two signs that mark it: the interpreter and its
argument. -/
def interpreterLine? (bytes : List UInt8) : Option (List UInt8 × List UInt8) :=
  match bytes with
  | 0x23 :: 0x21 :: rest =>
    let isBlank (byte : UInt8) : Bool := byte = 0x20 || byte = 0x09
    let line := (rest.takeWhile (· ≠ 0x0A)).dropWhile isBlank
    let trimmed := (line.reverse.dropWhile isBlank).reverse
    let name := trimmed.takeWhile fun byte => !isBlank byte
    let argument := (trimmed.dropWhile fun byte => !isBlank byte).dropWhile isBlank
    if name = [] then none else some (name, argument)
  | _ => none

/-- The place and the bytes of the file that a path leads to, if it can be run. -/
def programAt (disk : Disk) (here : Place) (path : String) :
    Except Errno (Place × List UInt8) :=
  match disk.locateText here true path with
  | .error code => .error code
  | .ok (.vacant ..) => .error Errno.noEntry
  | .ok (.found place (.file bytes mode)) =>
    if isExecutable mode then .ok (place, bytes) else .error Errno.accessDenied
  | .ok (.found ..) => .error Errno.accessDenied

/-- What a process that ended leaves behind: its status, below zero the number of a signal, what
it wrote to its two streams, and the disk. -/
structure Report where
  status : Int
  output : List UInt8
  errors : List UInt8
  disk : Disk

/-- How deep processes may start further ones. -/
def processLimit : Nat := 200

/-- Whether a text gives a variable a value. -/
def isAssignment (text : List Char) : Bool := text.contains '=' && text.head? ≠ some '='

/-- Complains about a program that another one was to run, on the stream of errors. -/
def refuseProgram (world : Shell.World) (launch : Shell.Launch) (name : List Char) (code : Errno) :
    Int × Shell.World :=
  let words := launch.name ++ ": '".toList ++ name ++ "': ".toList ++ code.reason.toList ++ ['\n']
  let hint :=
    if code = Errno.noEntry && name.contains ' ' then
      launch.name ++ ": use -[v]S to pass options in shebang lines\n".toList
    else []
  (if code = Errno.noEntry then 127 else 126, world.writeTo launch.streams 2 (words ++ hint))

/-- Runs the program that arguments name with the variables that they change. It is looked for on
the search path among these. -/
def runChanged (starter : Shell.Starter) (world : Shell.World) (launch : Shell.Launch) :
    Int × Shell.World :=
  let cleared := launch.arguments.head? = some ['-'] || launch.arguments.head? = some ['-', 'i']
  let arguments := if cleared then launch.arguments.drop 1 else launch.arguments
  let assignments := arguments.takeWhile isAssignment
  let environment := assignments.foldl
    (fun environment text =>
      let (name, value) := Shell.splitAssignment text
      environment.filter (·.1 ≠ name) ++ [(name, value)])
    (if cleared then [] else launch.environment)
  match arguments.drop assignments.length with
  | [] =>
    let lines := environment.flatMap fun (name, value) => name ++ '=' :: value ++ ['\n']
    (0, world.writeTo launch.streams 1 lines)
  | name :: others =>
    let searchPath := (environment.lookup "PATH".toList).getD Shell.standardPath
    let paths :=
      if name.contains '/' then [name] else Shell.searchPaths searchPath name
    go { launch with name := name, arguments := others, environment := environment } name
      Errno.noEntry paths
where
  /-- Tries paths in turn. -/
  go (inner : Shell.Launch) (name : List Char) (worst : Errno) :
      List (List Char) → Int × Shell.World
    | [] => refuseProgram world launch name worst
    | path :: rest =>
      match starter world { inner with path := path } with
      | .ok result => result
      | .error code =>
        go inner name (if code = Errno.accessDenied then code else worst) rest

/-- Starts the program that a launch names; `starter` starts the programs that it runs. A script is
run by its interpreter, which may be a script itself. -/
def startWith (starter : Shell.Starter) : (depth : Nat) → Shell.Starter
  | 0, _, _ => .error Errno.linkLoop
  | depth + 1, world, launch =>
    match Shell.pathText? launch.path with
    | none => .error Errno.noEntry
    | some path =>
      match programAt world.disk launch.here path with
      | .error code => .error code
      | .ok (place, bytes) =>
        match installedAt? place with
        | some .shell => .ok (Shell.run starter world launch)
        | some .environment => .ok (runChanged starter world launch)
        | some (.constant succeeds) => .ok (if succeeds then 0 else 1, world)
        | none =>
          match interpreterLine? bytes with
          | none => .error Errno.notExecutable
          | some (name, argument) =>
            let interpreter := Shell.ofBytes name
            startWith starter depth world
              { launch with
                path := interpreter
                name := interpreter
                arguments := (if argument = [] then [] else [Shell.ofBytes argument]) ++
                  launch.path :: launch.arguments }

/-- Starts programs, which start further ones up to a depth. -/
def start : (depth : Nat) → Shell.Starter
  | 0 => fun _ _ => .error Errno.linkLoop
  | depth + 1 => startWith (start depth) interpreterLimit

/-- The number of the first process. -/
def firstProcess : Nat := 100

/-- Runs the program at a path with arguments. -/
def execute (disk : Disk) (here : Place) (environment : Environment) (path : String)
    (arguments : List (List UInt8)) : Except Errno Report :=
  let world : Shell.World :=
    { disk := furnish disk
      channels := [(0, .source []), (1, .sink []), (2, .sink [])]
      nextChannel := 3
      nextProcess := firstProcess }
  let text := Shell.ofText path
  let launch : Shell.Launch :=
    { parent := 1
      streams := [(0, 0), (1, 1), (2, 2)]
      here := here
      mask := 0o022
      path := text
      name := text
      arguments := arguments.map Shell.ofBytes
      environment := environment.map fun (name, value) => (Shell.ofText name, Shell.ofText value) }
  match start processLimit world launch with
  | .error code => .error code
  | .ok (status, after) =>
    .ok ⟨status, Shell.toBytes (after.collected 1), Shell.toBytes (after.collected 2),
      clear disk after.disk⟩

/-- The paths to try for a program: itself if it has a slash, else one in each directory of the
search path. An empty search path stands for the working directory. -/
def candidates (searchPath program : String) : List String :=
  if program.toList.contains '/' then [program]
  else (cut ':' searchPath).map fun directory => inDirectory directory program

/-- Runs the first candidate that can be run. Candidates that are not there are passed over;
of the other errors the first one counts. -/
def executeFirst (disk : Disk) (here : Place) (environment : Environment)
    (arguments : List (List UInt8)) :
    (saved last : Option Errno) → List String → Except Errno Report
  | saved, last, [] => .error ((saved <|> last).getD Errno.noEntry)
  | saved, _, path :: rest =>
    match execute disk here environment path arguments with
    | .ok report => .ok report
    | .error code =>
      let skipped := code = Errno.noEntry ∨ code = Errno.notDirectory
      executeFirst disk here environment arguments (if skipped then saved else saved <|> some code)
        (some code) rest

/-- Runs a command with the variables of an environment. -/
def interpret (disk : Disk) (here : Place) (environment : Environment) (command : List String) :
    Except Errno Report :=
  executeFirst disk here environment ((command.drop 1).map bytesOf) none none
    (candidates (searchPathOf environment) (command.headD ""))

end Bindery.Compiler
