/-
This file finds the compiler: the one that was named explicitly, else the one on the search
path, else the one that is bundled with another package.
-/

import Bindery.Machine.Basic

namespace Bindery

/-- Where a compiler was found. -/
inductive Source where
  | override
  | searchPath
  | bundled
deriving DecidableEq, Repr

/-- The word for a place where compilers are found. -/
def Source.text : Source → String
  | .override => "override"
  | .searchPath => "path"
  | .bundled => "bundled"

/-- The word's place. -/
def Source.ofText? (text : String) : Option Source :=
  [Source.override, .searchPath, .bundled].find? fun source => source.text = text

/-- A compiler that can be run. -/
structure Compiler where
  /-- The program and the arguments that run the compiler. -/
  command : List String
  source : Source
  /-- Further roots of imports that this compiler needs. -/
  includePaths : List String := []
deriving DecidableEq, Repr

namespace Compiler

/-- The name of the compiler on the search path. -/
def program : String := "protoc"

/-- The command in one line. -/
def describe (compiler : Compiler) : String := Text.join " " compiler.command

/-- The words when there is no compiler. -/
def notFoundMessage : String :=
  "protoc was not found: it is not on PATH and grpcio-tools is not installed. Install protoc " ++
    "or set PROTOC_PATH to its absolute path."

/-- The words when a compiler could not be run. -/
def unusableMessage (compiler : Compiler) (cause : SystemFault) : String :=
  "failed to run protoc (" ++ compiler.describe ++ "): " ++ cause.message

/-- Searches for a program by its name. -/
abbrev Lookup := String → Action (Option String)

/-- Looks for the bundled compiler. -/
abbrev Bundle := Action (Option Compiler)

/-- The compiler to use. An override is not looked at; a bad one fails when it is run. -/
def resolve (override : Option String) (lookup : Lookup) (bundle : Bundle) : Action Compiler := do
  match override with
  | some path =>
    Action.logInfo ("Using protoc from PROTOC_PATH: " ++ path)
    return ⟨[path], .override, []⟩
  | none =>
    match (← lookup program).filter (· ≠ "") with
    | some found =>
      Action.logInfo ("Using protoc found on PATH: " ++ found)
      return ⟨[found], .searchPath, []⟩
    | none =>
      match ← bundle with
      | some compiler =>
        Action.logInfo "Using protoc bundled with grpcio-tools"
        return compiler
      | none => throw (.generation (.compilerNotFound notFoundMessage none))

/-- The compiler that another package bundles, run by the interpreter, with the schemas of
well-known types beside it. -/
def bundledAt (executable directory : String) : Compiler where
  command := [executable, "-m", "grpc_tools.protoc"]
  source := .bundled
  includePaths := [((Path.parse directory).child "_proto").text]

/-- The program of a name that is found on the search path of a machine. -/
def foundOn (machine : Machine) (program : String) : Option String :=
  find machine.disk (fun path => machine.bars true (Path.parse path)) machine.host.here
    (searchPathOf machine.host.environment) program

/-- Searches the search path of the machine. -/
def onSearchPath : Lookup := fun program => return foundOn (← get) program

/-- The bundled compiler of the machine, if it is installed. -/
def bundled : Bundle := do
  let host := (← get).host
  return host.bundle.map (bundledAt host.executable)

end Compiler

end Bindery
