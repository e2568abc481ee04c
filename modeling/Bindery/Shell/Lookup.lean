/-
This file finds what the names of commands stand for: functions, commands that a shell carries
out itself, and programs; and it carries out those commands of a shell that run no further ones.
-/

import Bindery.Shell.Builtin
import Bindery.Shell.Grammar

namespace Bindery.Shell

/-- What the name of a command stands for. -/
inductive Found where
  | function (function : Function)
  | builtin
  | program

/-- The names of the commands that a shell carries out itself. -/
def builtinNames : List String := [
  ".", ":", "[", "alias", "bg", "break", "cd", "chdir", "command", "continue", "echo", "eval",
  "exec", "exit", "export", "false", "fg", "getopts", "hash", "jobs", "kill", "local", "printf",
  "pwd", "read", "readonly", "return", "set", "shift", "test", "times", "trap", "true", "type",
  "ulimit", "umask", "unalias", "unset", "wait"]

/-- Whether a shell carries out the command of a name itself. -/
def isBuiltin (name : List Char) : Bool := builtinNames.contains (String.ofList name)

/-- Whether the arguments of a command can be assignments. -/
def takesAssignments (name : List Char) : Bool :=
  ["alias", "export", "local", "readonly"].contains (String.ofList name)

/-- What the name of a command stands for; functions do not count unless `functions` says so. -/
def Session.findCommand (session : Session) (functions : Bool) (name : List Char) : Found :=
  match if functions then session.functions.lookup name else none with
  | some function => .function function
  | none => if isBuiltin name then .builtin else .program

/-- The directories that standard programs lie in. -/
def standardPath : List Char :=
  "/usr/local/sbin:/usr/local/bin:/usr/sbin:/usr/bin:/sbin:/bin".toList

/-- The search path of a shell. -/
def Session.searchPath (session : Session) : List Char :=
  (session.value? "PATH".toList).getD standardPath

/-- Whether permission bits let anyone run a file. -/
def isRunnableMode (mode : Mode) : Bool := mode &&& 0o111 != 0

/-- The first file on a search path that can be run, or the error that counts: that something of
the name cannot be run, else that nothing is there. -/
def Session.findProgram (session : Session) (searchPath name : List Char) :
    Except Errno (List Char) :=
  go Errno.noEntry (searchPaths searchPath name)
where
  /-- Tries paths in turn. -/
  go (worst : Errno) : List (List Char) → Except Errno (List Char)
    | [] => .error worst
    | path :: rest =>
      match session.locate true path with
      | .ok (.found _ (.file _ mode)) =>
        if isRunnableMode mode then .ok path else go Errno.accessDenied rest
      | .ok (.found ..) => go Errno.accessDenied rest
      | .ok (.vacant ..) => go worst rest
      | .error code =>
        go (if code = Errno.noEntry || code = Errno.notDirectory then worst else code) rest

/-- The words for why a program cannot be run. -/
def runningFault (code : Errno) : List Char :=
  if code = Errno.noEntry || code = Errno.notDirectory then "not found".toList
  else code.reason.toList

/-- The status for a program that cannot be run. -/
def runningStatus (code : Errno) : Nat :=
  if [Errno.noEntry, Errno.notDirectory, Errno.linkLoop, Errno.nameTooLong].contains code then 127
  else 126

/-- Describes what a name stands for, in words or briefly; gives the status. -/
def describe (isVerbose : Bool) (searchPath? : Option (List Char)) (name : List Char) :
    Task Nat := do
  let session ← get
  let say (words : List Char) (brief : List Char) : Task Nat :=
    print ((if isVerbose then name ++ words else brief) ++ ['\n'])
  if (Keyword.ofSpelling? name).isSome then say " is a shell keyword".toList name
  else
    match session.aliases.lookup name with
    | some text =>
      if isVerbose then say (" is an alias for ".toList ++ text) []
      else print ("alias ".toList ++ aliasLine name text)
    | none =>
      match session.findCommand true name with
      | .function _ => say " is a shell function".toList name
      | .builtin =>
        say (if isSpecialCommand name then " is a special shell builtin" else
          " is a shell builtin").toList name
      | .program =>
        let found : Except Errno (List Char) :=
          if name.contains '/' then
            if (session.nodeAt? true name).isSome then .ok name
            else .error Errno.noEntry
          else session.findProgram (searchPath?.getD session.searchPath) name
        match found with
        | .ok path => say (" is ".toList ++ path) path
        | .error _ =>
          if isVerbose then
            let _ ← print (name ++ ": not found\n".toList)
          return 127

/-- Describes what names stand for. -/
def runType (arguments : List (List Char)) : Task Nat := do
  arguments.foldlM
    (fun status name => do
      let one ← describe true none name
      return status ||| one)
    0

/-- Describes what a name stands for, if options ask for it. -/
def runCommandWord (arguments : List (List Char)) : Task Nat := do
  let (flags, rest) ← readFlags "pvV" arguments
  let asked := flags.filter fun c => c ≠ 'p'
  match rest with
  | [] => return 0
  | name :: _ =>
    if asked.isEmpty then return 0
    else
      describe (asked.contains 'V')
        (if flags.contains 'p' then some standardPath else none) name

/-- Looks up programs ahead of their use. -/
def runHash (arguments : List (List Char)) : Task Nat := do
  let (_, rest) ← readFlags "r" arguments
  rest.foldlM
    (fun status name => do
      let session ← get
      match session.findCommand true name with
      | .program =>
        match session.findProgram session.searchPath name with
        | .ok _ => return status
        | .error code =>
          warn (name ++ ": ".toList ++ runningFault code)
          return 1
      | _ => return status)
    0

/-- Carries out a command of the shell that runs no further commands. -/
def runPlain (name : List Char) (arguments : List (List Char)) : Task Nat := do
  match String.ofList name with
  | ":" | "true" | "jobs" => return 0
  | "false" => return 1
  | "echo" => print (echoText arguments)
  | "printf" => runPrintf arguments
  | "test" | "[" => runTest name arguments
  | "alias" => runAlias arguments
  | "unalias" => runUnalias arguments
  | "bg" | "fg" => runContinue arguments
  | "break" => runBreak .toEnd arguments
  | "continue" => runBreak .toNext arguments
  | "cd" | "chdir" => runCd arguments
  | "pwd" => runPwd arguments
  | "exit" => runExit arguments
  | "return" => runReturn arguments
  | "export" => runMark name true false arguments
  | "readonly" => runMark name false true arguments
  | "local" => runLocal arguments
  | "getopts" => runGetopts arguments
  | "hash" => runHash arguments
  | "kill" => runKill arguments
  | "read" => runRead arguments
  | "set" => runSet arguments
  | "shift" => runShift arguments
  | "times" => runTimes
  | "trap" => runTrap arguments
  | "type" => runType arguments
  | "command" => runCommandWord arguments
  | "ulimit" => runUlimit arguments
  | "umask" => runUmask arguments
  | "unset" => runUnset arguments
  | "wait" => runWait arguments
  | _ => return 127

end Bindery.Shell
