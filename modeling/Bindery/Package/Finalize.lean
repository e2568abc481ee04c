/-
This file turns what the compiler wrote below a directory into an importable package: imports
between generated modules become relative, every directory on the way to a module becomes a
package, and the support module and the package's own module are added. Whatever a module is
called, only files below the directory are touched.
-/

import Bindery.Machine.Basic
import Bindery.Package.Imports
import Bindery.Package.Init

namespace Bindery.Package

/-- A name in an increasing list. -/
def insertSorted (name : String) : List String → List String
  | [] => [name]
  | other :: rest => if name ≤ other then name :: other :: rest else other :: insertSorted name rest

/-- Names in increasing order. -/
def sorted (names : List String) : List String := names.foldr insertSorted []

/-- The suffix of modules. -/
def sourceSuffix : String := ".py"

/-- The suffix of typed stubs. -/
def stubSuffix : String := ".pyi"

/-- The module that makes a directory a package. -/
def initName : String := "__init__.py"

/-- The directory `path` and those that it lies in, up to but without `root`; at most `depth` of
them. -/
def enclosing (root : Path) : (depth : Nat) → (path : Path) → List Path
  | 0, _ => []
  | depth + 1, path => if path = root then [] else path :: enclosing root depth path.parent

/-- The directories between the root of a package and the file of a module. -/
def packagesAbove (root file : Path) : List Path :=
  enclosing root file.parent.parts.length file.parent

/-- The path that a value error stands in the way of. -/
def orFail (path : Except PathError Path) : Action Path :=
  match path with
  | .ok path => pure path
  | .error error => throw (.value (.path error))

/-- Makes the imports of one file relative. -/
def rewriteFile (generated : List String) (depth : Nat) (file : Path) : Action Unit := do
  let source ← Action.readText file
  Action.writeText file (relativeImports depth generated source)

/-- Makes directories packages, unless they are already. -/
def markPackages : List Path → Action Unit
  | [] => pure ()
  | directory :: rest => do
    let file : Path := ⟨directory.anchor, directory.parts ++ [initName]⟩
    if !(← Action.pathExists file) then Action.writeText file header
    markPackages rest

/-- Makes the imports of a module and of its stub, if there is one, relative, and the
directories on the way to it packages. -/
def finishModule (root : Path) (generated : List String) (name : String) : Action Unit := do
  let source ← orFail (modulePath root name sourceSuffix)
  rewriteFile generated (depth name) source
  let stub ← orFail (modulePath root name stubSuffix)
  if ← Action.pathExists stub then rewriteFile generated (depth name) stub
  markPackages (packagesAbove root stub)

/-- Finishes modules in turn. -/
def finishModules (root : Path) (generated : List String) : List String → Action Unit
  | [] => pure ()
  | name :: rest => do
    finishModule root generated name
    finishModules root generated rest

/-- Makes a package of what the compiler wrote for schemas, and gives the names of its modules
in order. -/
def finalize (root : Path) (schemas : List String) (policy : Policy) : Action (List String) := do
  let modules := sorted (schemas.map moduleName)
  finishModules root modules modules
  if policy.zeroCopyBuffers then
    Action.writeText (root.child (buffersName ++ sourceSuffix)) buffersText
  Action.writeText (root.child initName) (initText modules policy)
  return modules

end Bindery.Package
