/-
This file holds one run of the compiler: where schemas are found, which of them are compiled,
and where the bindings go.
-/

import Bindery.Path

namespace Bindery

/-- One run of the compiler. -/
structure Invocation where
  /-- The root that imports between schemas are resolved from. -/
  includeDirectory : Path
  inputFiles : List Path
  /-- Replaced as a whole by every run that succeeds. -/
  outputDirectory : Path
  /-- Used as it is; a path that cannot be run fails when it is run. -/
  compilerOverride : Option Path
deriving DecidableEq, Repr

namespace Invocation

/-- Paths as seen from a directory, in writing. -/
def seenFrom (directory : Path) : List Path → Except PathError (List String)
  | [] => .ok []
  | path :: rest =>
    match path.relativeTo directory with
    | .error error => .error error
    | .ok inner => (seenFrom directory rest).map (inner.text :: ·)

/-- The schemas as the compiler names them: by their paths inside the include directory. -/
def virtualPaths (invocation : Invocation) : Except PathError (List String) :=
  seenFrom invocation.includeDirectory invocation.inputFiles

end Invocation

end Bindery
