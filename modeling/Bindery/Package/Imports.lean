/-
This file makes the imports between generated modules relative, so that the package works
wherever it is placed. An import of a module that was not generated stays as it is, and so does
every line of another form. Lines end at line feeds alone.
-/

import Bindery.Text.Word
import Bindery.Package.ModuleName

namespace Bindery.Package

open Text

/-- A line that imports a generated module under another name: the package it is imported
from, if one is written, the module's own name, and the name it is given. -/
structure ImportLine where
  package : Option (List Char)
  name : List Char
  given : List Char
deriving DecidableEq, Repr

namespace ImportLine

/-- The written form of an import line. -/
def text (line : ImportLine) : List Char :=
  (match line.package with
   | none => "import ".toList
   | some package => "from ".toList ++ package ++ " import ".toList) ++
    line.name ++ " as ".toList ++ line.given

/-- The dotted name of the module that is imported. -/
def target (line : ImportLine) : List Char :=
  match line.package with
  | none => line.name
  | some package => package ++ '.' :: line.name

/-- Whether a text is a name of word characters. -/
def isName (text : List Char) : Bool := text ≠ [] && text.all isWord

/-- Whether a text is the name of a generated module: the ending of modules after at least one
word character. -/
def isModule (text : List Char) : Bool :=
  match beforeBack? moduleEnding text with
  | some stem => isName stem
  | none => false

/-- Whether a character may stand in the name of a package: a word character or a point. -/
def inPackage (c : Char) : Bool := isWord c || c == '.'

/-- The module and the given name of `M as A`. -/
def readNames? (text : List Char) : Option (List Char × List Char) :=
  let name := text.takeWhile isWord
  match afterFront? " as ".toList (text.dropWhile isWord) with
  | some given => if isModule name && isName given then some (name, given) else none
  | none => none

/-- A line of the form `import M as A`. -/
def readPlain? (line : List Char) : Option ImportLine := do
  let rest ← afterFront? "import ".toList line
  let (name, given) ← readNames? rest
  return ⟨none, name, given⟩

/-- A line of the form `from P import M as A`. -/
def readFrom? (line : List Char) : Option ImportLine := do
  let rest ← afterFront? "from ".toList line
  let package := rest.takeWhile inPackage
  let tail ← afterFront? " import ".toList (rest.dropWhile inPackage)
  let (name, given) ← readNames? tail
  if package = [] then none else return ⟨some package, name, given⟩

/-- The import of the same module from its place relative to the importing package. -/
def relative (dots : List Char) (line : ImportLine) : ImportLine :=
  { line with package := some (dots ++ line.package.getD []) }

end ImportLine

/-- The dots that lead from a module `depth` packages below the root up to the root. -/
def dotsFor (depth : Int) : List Char := List.replicate (depth + 1).toNat '.'

/-- The line with the import that `read?` finds in it made relative, if it is one of a
generated module. -/
def rewriteLine (read? : List Char → Option ImportLine) (depth : Int)
    (generated : List String) (line : List Char) : List Char :=
  match read? line with
  | some found =>
    if generated.contains (String.ofList found.target) then
      (found.relative (dotsFor depth)).text
    else line
  | none => line

/-- The source of a module `depth` packages below the root, with its imports of generated
modules made relative: first those without a package, then those with one. -/
def rewriteImports (depth : Int) (generated : List String) (source : List Char) : List Char :=
  joinFields '\n' <| (fields '\n' source).map fun line =>
    rewriteLine ImportLine.readFrom? depth generated
      (rewriteLine ImportLine.readPlain? depth generated line)

/-- `rewriteImports` on texts. -/
def relativeImports (depth : Int) (generated : List String) (source : String) : String :=
  String.ofList (rewriteImports depth generated source.toList)

end Bindery.Package
