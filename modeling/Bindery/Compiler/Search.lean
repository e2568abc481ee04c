/-
This file searches for programs. The search path is a list of directories between colons; an
empty one stands for the working directory, and an empty list finds nothing.
-/

import Bindery.Disk.Walk
import Bindery.Environment

namespace Bindery.Compiler

open Text

/-- The directories of a search path. -/
def searchDirectories (searchPath : String) : List String :=
  if searchPath = "" then [] else cut ':' searchPath

/-- The path of a program in a directory, both in writing. -/
def inDirectory (directory program : String) : String :=
  if directory = "" then program
  else if directory.toList.getLast? = some '/' then directory ++ program
  else directory ++ "/" ++ program

/-- Whether the permission bits let anyone run a file. -/
def isExecutable (mode : Mode) : Bool := mode &&& 0o111 != 0

/-- Whether a path in writing leads to a file that can be run. -/
def isRunnable (disk : Disk) (here : Place) (text : String) : Bool :=
  match disk.locateText here true text with
  | .ok (.found _ (.file _ mode)) => isExecutable mode
  | _ => false

/-- The first program of that name on a search path, among those that are not hidden. -/
def find (disk : Disk) (hidden : String → Bool) (here : Place) (searchPath program : String) :
    Option String :=
  ((searchDirectories searchPath).map (inDirectory · program)).find? fun path =>
    !hidden path && isRunnable disk here path

/-- The search path of the system, where programs are searched if the environment sets none. -/
def systemPath : String := "/bin:/usr/bin"

/-- The search path of an environment. One that is set counts, be it empty. -/
def searchPathOf (environment : Environment) : String :=
  (environment.lookup "PATH").getD systemPath

end Bindery.Compiler
