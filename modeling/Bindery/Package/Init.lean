/-
This file writes the module that makes the generated package importable. It depends on the set
of names at the top of the package alone: each is imported and exported once, in increasing
order.
-/

import Bindery.Policy
import Bindery.Package.ModuleName
import Bindery.Package.Support

namespace Bindery.Package

open Text

/-- A name in an increasing list without repetition. -/
def insertName (name : String) : List String → List String
  | [] => [name]
  | other :: rest =>
    if name < other then name :: other :: rest
    else if name = other then other :: rest
    else other :: insertName name rest

/-- The set of names as an increasing list. -/
def nameSet (names : List String) : List String := names.foldr insertName []

/-- The names at the top of the package. -/
def topNames (modules : List String) : List String := nameSet (modules.map topName)

/-- The line that imports one name. -/
def importLine (name : String) : String := "from . import " ++ name

/-- The line that exports one name. -/
def exportLine (name : String) : String := "    \"" ++ name ++ "\","

/-- The line that imports the buffer helpers. -/
def helpersLine : String := "from ." ++ buffersName ++ " import " ++ join ", " bufferHelpers

/-- The names that the package exports. -/
def exportedNames (modules : List String) (policy : Policy) : List String :=
  topNames modules ++ if policy.zeroCopyBuffers then bufferHelpers else []

/-- The lines of the package's own module. -/
def initLines (modules : List String) (policy : Policy) : List String :=
  [headerLine, "\"\"\"Python bindings for the client wire protocol schemas.\"\"\"", ""] ++
    (topNames modules).map importLine ++
    (if policy.zeroCopyBuffers then [helpersLine] else []) ++
    ["", "__all__ = ["] ++
    (exportedNames modules policy).map exportLine ++
    ["]", ""]

/-- The text of the package's own module. -/
def initText (modules : List String) (policy : Policy) : String :=
  join "\n" (initLines modules policy)

end Bindery.Package
