/-
This file holds every way in which the library can fail. The failures of generation form a
closed set, of which callers report each in its own words; others come from the system, from
values that cannot be used, from links that lead back to themselves, and from templates.
-/

import Bindery.Text.Blank
import Bindery.Text.Utf8
import Bindery.Errno
import Bindery.Template.Basic
import Bindery.Validation

namespace Bindery

open Text

/-- A refused system call: its error number and the paths it was about. -/
structure SystemFault where
  code : Errno
  paths : List String := []
deriving DecidableEq, Repr

/-- The words for a refused call, with its paths between quotes. -/
def SystemFault.message (fault : SystemFault) : String :=
  let front := "[Errno " ++ toString fault.code ++ "] " ++ fault.code.reason
  match fault.paths with
  | [] => front
  | paths => front ++ ": " ++ join " -> " (paths.map quoted)

/-- A failure of generation. None of them can be recovered from: the bindings are needed by
what is built next. -/
inductive GenerationFault where
  /-- A failure that is stated in words. -/
  | stated (message : String)
  /-- The compiler reported success without writing a file. -/
  | notEmitted (file : String)
  /-- No compiler could be found or run. -/
  | compilerNotFound (message : String) (candidate : Option String)
  /-- The compiler rejected a schema. Its diagnostics are kept as they are. -/
  | schemaSyntax (diagnostics : String) (status : Int)
  /-- The output could not be written. -/
  | outputWrite (path : Path) (cause : SystemFault)
deriving DecidableEq, Repr

/-- The words for a failure of generation. Diagnostics stand for themselves unless they are
blank. -/
def GenerationFault.message : GenerationFault → String
  | .stated message => message
  | .notEmitted file => "protoc reported success but did not emit " ++ file
  | .compilerNotFound message _ => message
  | .schemaSyntax diagnostics status =>
    if allBlank diagnostics then
      "protoc exited with status " ++ toString status ++ " and no diagnostics"
    else diagnostics
  | .outputWrite path cause =>
    "cannot write generated bindings to " ++ path.text ++ ": " ++ cause.message

/-- A value that cannot be used. -/
inductive ValueFault where
  /-- A path holds the character that ends texts for the system. -/
  | embeddedNull
  /-- Bytes are not the form of a text. -/
  | undecodable (fault : Utf8Fault)
  | path (error : PathError)
  | notDirectory (root : Path)
  | unknownLevel (name : String)
deriving DecidableEq, Repr

/-- The words for a value that cannot be used. -/
def ValueFault.message : ValueFault → String
  | .embeddedNull => "embedded null byte"
  | .undecodable fault => fault.message
  | .path error => error.message
  | .notDirectory root => "project root " ++ root.text ++ " is not a directory"
  | .unknownLevel name => "Unknown level: " ++ quoted name

/-- Every way to fail. -/
inductive Failure where
  | generation (fault : GenerationFault)
  | invalid (error : Invalid)
  | system (fault : SystemFault)
  | value (fault : ValueFault)
  /-- Following the links of a path does not end. -/
  | linkLoop (path : String)
  /-- A step that is neither of the two kinds, in writing. -/
  | unreachable (step : String)
  | template (fault : Template.Fault)
deriving DecidableEq, Repr

/-- The length from which on a written step is cut. -/
def stepLimit : Nat := 100

/-- The words for a step that is neither of the two kinds. -/
def unreachableMessage (step : String) : String :=
  let shown :=
    if stepLimit < step.length then String.ofList (step.toList.take stepLimit) ++ "..." else step
  "Expected code to be unreachable, but got: " ++ shown

end Bindery
