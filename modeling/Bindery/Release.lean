/-
This file decides the version of the library and describes its distribution.
-/

namespace Bindery.Release

/-- What is known about the version at run time. -/
structure Sources where
  /-- The version that the source control wrote down, if any. -/
  recorded : Option String
  /-- The version that is installed, if any. -/
  installed : Option String
deriving DecidableEq, Repr

/-- The version of a tree that is neither recorded nor installed. -/
def developmentVersion : String := "dev"

/-- The words that warn about such a tree. -/
def developmentWarning : String :=
  "glide-protogen is neither installed nor built from git; reporting version 'dev'"

/-- The version and the warning that comes with it: what was recorded, else what is installed,
else the version of a development tree with a warning. -/
def version (sources : Sources) : String × Option String :=
  match sources.recorded, sources.installed with
  | some recorded, _ => (recorded, none)
  | none, some installed => (installed, none)
  | none, none => (developmentVersion, some developmentWarning)

/-- The source control as it answers during a build. -/
inductive SourceControl where
  /-- It cannot be asked. -/
  | missing
  /-- It was asked and failed. -/
  | failing
  /-- It was asked and answered. -/
  | answering (version : String)
deriving DecidableEq, Repr

/-- The version of a build that source control says nothing about. -/
def fallbackVersion : String := "0.1.0"

/-- Where source control is asked to write the version down. -/
def versionFile : String := "glide_protogen/_version.py"

/-- The version of a build, and the files that source control was asked to write. -/
def buildVersion : SourceControl → String × List String
  | .missing => (fallbackVersion, [])
  | .failing => (fallbackVersion, [versionFile])
  | .answering version => (version, [versionFile])

/-- The package of the generated bindings in the distribution. -/
def bindingsPackage : String := "glide_protobuf"

/-- Where the bindings lie in the source tree. -/
def bindingsDirectory : String := "generated/protobuf"

/-- The description of the distribution. -/
structure Distribution where
  name : String
  description : String
  packages : List String
  packageDirectories : List (String × String)
  packageData : List (String × List String)
  interpreter : String
  requirements : List String
  extras : List (String × List String)
  commands : List String
  includesPackageData : Bool
deriving DecidableEq, Repr

/-- The library with the checked-in bindings as a package of their own. -/
def distribution : Distribution where
  name := "glide-protogen"
  description := "Build-time protobuf binding generator for the Valkey GLIDE client"
  packages :=
    [bindingsPackage, "glide_protogen", "glide_protogen.cli", "glide_protogen.logging_utils"]
  packageDirectories := [(bindingsPackage, bindingsDirectory)]
  packageData := [(bindingsPackage, ["*.pyi", "descriptors.binpb"])]
  interpreter := ">=3.10"
  requirements := ["grpcio-tools", "protobuf", "pydantic>=2", "regex", "typing_extensions"]
  extras := [("test", ["pytest"])]
  commands := ["glide-protogen=glide_protogen.cli.main:main"]
  includesPackageData := true

end Bindery.Release
