/-
This file builds the command line of the compiler. Schemas are given by absolute paths below
absolute import roots, so that nothing about the location gets into the generated code.
-/

import Bindery.Compiler.Basic
import Bindery.Invocation.Basic
import Bindery.Policy

namespace Bindery.Compiler

/-- The name of the descriptor set among the bindings. -/
def descriptorSetName : String := "descriptors.binpb"

/-- The roots of imports, the include directory first. -/
def includeArguments (compiler : Compiler) (invocation : Invocation) : List String :=
  (invocation.includeDirectory.text :: compiler.includePaths).map ("--proto_path=" ++ ·)

/-- Where typed stubs and the descriptor set go; neither is made for the lite runtime. -/
def reflectionArguments (policy : Policy) (output : Path) : List String :=
  if policy.liteRuntime then []
  else [
    "--pyi_out=" ++ output.text,
    "--descriptor_set_out=" ++ (output.child descriptorSetName).text,
    "--include_imports",
    "--include_source_info"]

/-- The arguments that begin with a dash. -/
def options (compiler : Compiler) (invocation : Invocation) (policy : Policy) (output : Path) :
    List String :=
  compiler.includeArguments invocation ++ ["--python_out=" ++ output.text] ++
    reflectionArguments policy output

/-- The whole command for a run of the compiler that writes to `output`. -/
def commandLine (compiler : Compiler) (invocation : Invocation) (policy : Policy)
    (output : Path) : List String :=
  compiler.command ++ compiler.options invocation policy output ++
    invocation.inputFiles.map Path.text

end Bindery.Compiler
