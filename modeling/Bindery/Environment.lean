/-
This file reads the environment of a build. Four variables steer it; they are read afresh each
time, and an unset or empty path variable names nothing.
-/

import Bindery.Text.Blank
import Bindery.Text.Capital
import Bindery.Text.Quoted

namespace Bindery

open Text

/-- The variables of a process with their values. -/
abbrev Environment := List (String × String)

/-- The variables that steer a build. -/
inductive Variable where
  /-- The compiler to use. -/
  | compilerPath
  /-- The switch that turns generation on. -/
  | buildProto
  /-- The root of the generated files. -/
  | generatedRoot
  /-- How much is logged. -/
  | loggingLevel
deriving DecidableEq, Repr

/-- What a variable says. -/
inductive Reading where
  | switch (on : Bool)
  | path (value : Option String)
  | level (name : String)
deriving DecidableEq, Repr

namespace Variable

/-- The variables in the order of their names. -/
def all : List Variable := [.buildProto, .generatedRoot, .loggingLevel, .compilerPath]

/-- The name of a variable. -/
def name : Variable → String
  | .compilerPath => "PROTOC_PATH"
  | .buildProto => "GLIDE_BUILD_PROTO"
  | .generatedRoot => "GLIDE_GENERATED_ROOT"
  | .loggingLevel => "GLIDE_PROTOGEN_LOGGING_LEVEL"

/-- The variable of a name. -/
def ofName? (name : String) : Option Variable := all.find? fun each => each.name = name

/-- The words for a name that belongs to no variable. -/
def unknownMessage (name : String) : String :=
  "module 'glide_protogen.envs' has no attribute " ++ quoted name

end Variable

namespace Environment

/-- The words that turn a switch on. -/
def onWords : List String := ["1", "true", "yes", "on"]

/-- Whether a word turns a switch on. Blanks around it and the case of its letters do not
matter; no letter outside ASCII has a small form inside these words. -/
def isOn (word : String) : Bool :=
  onWords.contains (String.ofList ((trimBlank word.toList).map Char.toLower))

/-- A value that is not empty. -/
def nonEmpty? (environment : Environment) (name : String) : Option String :=
  (environment.lookup name).filter (· ≠ "")

/-- Whether generation is turned on. -/
def buildProto (environment : Environment) : Bool :=
  isOn ((environment.lookup Variable.buildProto.name).getD "0")

/-- The compiler to use, if one is named. -/
def compilerPath? (environment : Environment) : Option String :=
  environment.nonEmpty? Variable.compilerPath.name

/-- The root of the generated files, if one is named. -/
def generatedRoot? (environment : Environment) : Option String :=
  environment.nonEmpty? Variable.generatedRoot.name

/-- The name of the logging level in capitals, `INFO` if none is named. -/
def loggingLevel (environment : Environment) : String :=
  capitals ((environment.lookup Variable.loggingLevel.name).getD "INFO")

/-- What a variable says. -/
def read (environment : Environment) : Variable → Reading
  | .compilerPath => .path environment.compilerPath?
  | .buildProto => .switch environment.buildProto
  | .generatedRoot => .path environment.generatedRoot?
  | .loggingLevel => .level environment.loggingLevel

end Environment

end Bindery
