/-
This file names the modules of the generated package. The name of a module is dotted: the
directories of its schema and then the stem of the schema's file, in which a dash becomes an
underscore, followed by a fixed ending.
-/

import Bindery.Path

namespace Bindery.Package

open Text

/-- What the name of a schema file ends in. -/
def schemaEnding : List Char := ".proto".toList

/-- What the name of a generated module ends in. -/
def moduleEnding : List Char := "_pb2".toList

/-- The file name without the ending of schemas. -/
def schemaStem (file : List Char) : List Char :=
  (beforeBack? schemaEnding file).getD file

/-- A stem in the spelling of module names. -/
def moduleStem (stem : List Char) : List Char :=
  stem.map fun c => if c = '-' then '_' else c

/-- The names on the way to the module of a schema, given the fields of the schema's path. -/
def moduleFields : List (List Char) → List (List Char)
  | [] => []
  | [file] => [moduleStem (schemaStem file) ++ moduleEnding]
  | directory :: next :: others => directory :: moduleFields (next :: others)

/-- The dotted name of the module that the compiler generates for a schema. -/
def moduleName (schema : String) : String :=
  String.ofList (joinFields '.' (moduleFields (fields '/' schema.toList)))

/-- How many packages lie between the package root and a module. -/
def depth (moduleName : String) : Nat := moduleName.toList.count '.'

/-- The name below the package root under which a module is reached. -/
def topName (moduleName : String) : String :=
  String.ofList (cutOnce '.' moduleName.toList).1

/-- The file of a module below the package root. -/
def modulePath (root : Path) (moduleName suffix : String) : Except PathError Path :=
  ((cut '.' moduleName).foldl Path.child root).withSuffix suffix

end Bindery.Package
