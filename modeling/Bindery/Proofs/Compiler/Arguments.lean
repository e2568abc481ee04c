/-
This file proves that the compiler and the work after it go by the same names of schemas.

The compiler is a program of its own. How it reads its arguments is written down here: one that
begins with a dash is a flag, whose value follows the first equals sign and is taken as it is; every
other one is a file. A file is named by what is left of its path after the first root of imports, in
the order of the arguments, with whose names it begins.

The include directory is the first root, and each schema lies properly below it. Hence further roots
do not matter to the names, be they above the include directory, below it or the same.
-/

import Bindery.Compiler.Arguments
import Bindery.Proofs.Invocation.Established
import Bindery.Proofs.Invocation.Received

namespace Bindery

open Text

/-- A text is cut at the first separator. -/
theorem Text.cutOnce_append_cons {separator : Char} {front : List Char} (absent : separator ∉ front)
    (back : List Char) : cutOnce separator (front ++ separator :: back) = (front, some back) := by
  induction front with
  | nil => exact if_pos rfl
  | cons c rest inductionHypothesis =>
    have different : c ≠ separator := fun same => absent (same ▸ List.mem_cons_self)
    have restAbsent : separator ∉ rest := fun later => absent (List.mem_cons_of_mem _ later)
    rw [List.cons_append, cutOnce, if_neg different, inductionHypothesis restAbsent]

/-- A text without a separator is not cut. -/
theorem Text.cutOnce_of_not_mem {separator : Char} {text : List Char} (absent : separator ∉ text) :
    cutOnce separator text = (text, none) := by
  induction text with
  | nil => rfl
  | cons c rest inductionHypothesis =>
    have different : c ≠ separator := fun same => absent (same ▸ List.mem_cons_self)
    have restAbsent : separator ∉ rest := fun later => absent (List.mem_cons_of_mem _ later)
    rw [cutOnce, if_neg different, inductionHypothesis restAbsent]

theorem Text.head?_append {front : String} {c : Char} (begins : front.toList.head? = some c)
    (back : String) : (front ++ back).toList.head? = some c := by
  rw [String.toList_append, List.head?_append_of_ne_nil _ fun empty => by simp [empty] at begins]
  exact begins

namespace Compiler

/-! ### How the compiler reads its arguments -/

/-- Whether an argument is a flag. -/
def isFlag (argument : String) : Bool := argument.toList.head? = some '-'

/-- The value that an argument gives to a flag, if it is that flag. A flag may stand alone. -/
def valueOf? (flag argument : String) : Option (Option String) :=
  let (front, value) := cutOnce '=' argument.toList
  if front = flag.toList then some (value.map String.ofList) else none

/-- All values of a flag, in the order of the arguments. -/
def valuesOf (flag : String) (arguments : List String) : List (Option String) :=
  arguments.filterMap (valueOf? flag)

/-- The arguments that are no flags. -/
def filesOf (arguments : List String) : List String := arguments.filter fun each => !isFlag each

/-- The name of a file below a root: what is left of its path after the names of the root. -/
def nameBelow? (file root : String) : Option String :=
  ((Path.parse file).relativeTo? (Path.parse root)).map Path.text

/-- The compiler's name for a file, by the first root that it lies below. -/
def nameOf? (arguments : List String) (file : String) : Option String :=
  ((valuesOf "--proto_path" arguments).filterMap id).findSome? (nameBelow? file)

/-! ### Values of flags -/

variable {compiler : Compiler} {invocation : Invocation} {policy : Policy} {output : Path}

theorem valuesOf_append (flag : String) (first second : List String) :
    valuesOf flag (first ++ second) = valuesOf flag first ++ valuesOf flag second :=
  List.filterMap_append

/-- A flag with a value is read as it is written. -/
theorem valueOf?_append (flag : String) {name front : String} (front_eq : front = name ++ "=")
    (noSign : '=' ∉ name.toList) (value : String) :
    valueOf? flag (front ++ value) = if name = flag then some (some value) else none := by
  have chars : (front ++ value).toList = name.toList ++ '=' :: value.toList := by
    rw [front_eq, String.toList_append, String.toList_append, List.append_assoc]
    rfl
  rw [valueOf?, chars, cutOnce_append_cons noSign]
  simp only [String.toList_inj, Option.map_some, String.ofList_toList]

theorem valueOf?_protoPath (flag value : String) : valueOf? flag ("--proto_path=" ++ value) =
    if "--proto_path" = flag then some (some value) else none :=
  valueOf?_append flag (by decide) (by decide) value

theorem valueOf?_pythonOut (flag value : String) : valueOf? flag ("--python_out=" ++ value) =
    if "--python_out" = flag then some (some value) else none :=
  valueOf?_append flag (by decide) (by decide) value

theorem valueOf?_stubsOut (flag value : String) : valueOf? flag ("--pyi_out=" ++ value) =
    if "--pyi_out" = flag then some (some value) else none :=
  valueOf?_append flag (by decide) (by decide) value

theorem valueOf?_descriptorsOut (flag value : String) :
    valueOf? flag ("--descriptor_set_out=" ++ value) =
      if "--descriptor_set_out" = flag then some (some value) else none :=
  valueOf?_append flag (by decide) (by decide) value

/-- A flag may be given without a value. -/
theorem valueOf?_alone (flag : String) {name : String} (noSign : '=' ∉ name.toList) :
    valueOf? flag name = if name = flag then some none else none := by
  rw [valueOf?, cutOnce_of_not_mem noSign]
  simp only [String.toList_inj, Option.map_none]

/-- The roots of imports, the include directory first. -/
theorem valuesOf_includeArguments (flag : String) :
    valuesOf flag (compiler.includeArguments invocation) =
      if "--proto_path" = flag then
        (invocation.includeDirectory.text :: compiler.includePaths).map some
      else [] := by
  unfold includeArguments valuesOf
  rw [List.filterMap_map]
  have each : valueOf? flag ∘ ("--proto_path=" ++ ·) = fun value =>
      if "--proto_path" = flag then some (some value) else none :=
    funext (valueOf?_protoPath flag)
  rw [each]
  split
  next => exact congrFun List.filterMap_eq_map _
  next => exact List.filterMap_eq_nil_iff.mpr fun _ _ => rfl

/-- Where typed stubs and the descriptor set go. -/
theorem valuesOf_reflectionArguments {flag : String} (imports : "--include_imports" ≠ flag)
    (comments : "--include_source_info" ≠ flag) :
    valuesOf flag (reflectionArguments policy output) =
      if policy.liteRuntime then []
      else (if "--pyi_out" = flag then [some output.text] else []) ++
        if "--descriptor_set_out" = flag then [some (output.child descriptorSetName).text]
        else [] := by
  unfold reflectionArguments
  split
  next => rfl
  next =>
    unfold valuesOf
    rw [List.filterMap_cons, List.filterMap_cons, List.filterMap_cons, List.filterMap_cons,
      valueOf?_stubsOut, valueOf?_descriptorsOut, valueOf?_alone flag (by decide), if_neg imports,
      valueOf?_alone flag (by decide), if_neg comments]
    by_cases stubs : "--pyi_out" = flag <;> by_cases descriptors : "--descriptor_set_out" = flag <;>
      simp [stubs, descriptors]

/-- A path that does not depend on the working directory is no flag. -/
theorem head_text_of_isAbsolute {path : Path} (absolute : path.isAbsolute = true) :
    path.text.toList.head? = some '/' := by
  obtain ⟨anchor, parts⟩ := path
  have begins : (⟨anchor, parts⟩ : Path).written.toList.head? = some '/' := by
    cases anchor with
    | relative => cases absolute
    | root => exact head?_append (show "/".toList.head? = some '/' by decide) _
    | doubleRoot => exact head?_append (show "//".toList.head? = some '/' by decide) _
  unfold Path.text
  dsimp only
  split
  next empty =>
    rw [empty] at begins
    cases begins
  next => exact begins

theorem isFlag_text {path : Path} (absolute : path.isAbsolute = true) :
    isFlag path.text = false := by
  rw [isFlag, head_text_of_isAbsolute absolute]
  decide

/-- What begins with a slash is no flag with a value. -/
theorem valueOf?_text {flag : String} (isFlag : flag.toList.head? = some '-') {path : Path}
    (absolute : path.isAbsolute = true) : valueOf? flag path.text = none := by
  obtain ⟨rest, chars⟩ := List.head?_eq_some_iff.mp (head_text_of_isAbsolute absolute)
  unfold valueOf?
  rw [chars, cutOnce, if_neg (by decide)]
  refine if_neg fun same => ?_
  rw [← same] at isFlag
  cases isFlag

theorem valuesOf_files {flag : String} (isFlag : flag.toList.head? = some '-')
    (absolute : ∀ input ∈ invocation.inputFiles, input.isAbsolute = true) :
    valuesOf flag (invocation.inputFiles.map Path.text) = [] := by
  refine List.filterMap_eq_nil_iff.mpr fun text member => ?_
  obtain ⟨input, given, rfl⟩ := List.mem_map.mp member
  exact valueOf?_text isFlag (absolute input given)

/-- The arguments that follow the command. -/
def argumentsFor (compiler : Compiler) (invocation : Invocation) (policy : Policy)
    (output : Path) : List String :=
  compiler.options invocation policy output ++ invocation.inputFiles.map Path.text

theorem commandLine_eq : compiler.commandLine invocation policy output =
    compiler.command ++ compiler.argumentsFor invocation policy output :=
  List.append_assoc _ _ _

/-- The values that the arguments give to a flag which takes one. -/
theorem valuesOf_argumentsFor {flag : String} (isFlag : flag.toList.head? = some '-')
    (imports : "--include_imports" ≠ flag) (comments : "--include_source_info" ≠ flag)
    (absolute : ∀ input ∈ invocation.inputFiles, input.isAbsolute = true) :
    valuesOf flag (compiler.argumentsFor invocation policy output) =
      (if "--proto_path" = flag then
        (invocation.includeDirectory.text :: compiler.includePaths).map some
      else []) ++
      (if "--python_out" = flag then [some output.text] else []) ++
      if policy.liteRuntime then []
      else (if "--pyi_out" = flag then [some output.text] else []) ++
        if "--descriptor_set_out" = flag then [some (output.child descriptorSetName).text]
        else [] := by
  have bindings : valuesOf flag ["--python_out=" ++ output.text] =
      if "--python_out" = flag then [some output.text] else [] := by
    unfold valuesOf
    rw [List.filterMap_cons, valueOf?_pythonOut]
    by_cases same : "--python_out" = flag <;> simp [same]
  rw [argumentsFor, options, valuesOf_append, valuesOf_append, valuesOf_append,
    valuesOf_includeArguments, valuesOf_files isFlag absolute, List.append_nil, bindings,
    valuesOf_reflectionArguments imports comments]

/-! ### Files and their names -/

theorem isFlag_append {front : String} (dash : front.toList.head? = some '-') (value : String) :
    isFlag (front ++ value) = true :=
  decide_eq_true (head?_append dash value)

theorem isFlag_of_mem_options {argument : String}
    (member : argument ∈ compiler.options invocation policy output) : isFlag argument = true := by
  rw [options, List.mem_append, List.mem_append] at member
  rcases member with (root | bindings) | reflection
  · obtain ⟨value, -, rfl⟩ := List.mem_map.mp root
    exact isFlag_append (by decide) value
  · rw [List.mem_singleton.mp bindings]
    exact isFlag_append (by decide) _
  · unfold reflectionArguments at reflection
    split at reflection
    next => cases reflection
    next =>
      simp only [List.mem_cons, List.not_mem_nil, or_false] at reflection
      rcases reflection with rfl | rfl | rfl | rfl
      · exact isFlag_append (by decide) _
      · exact isFlag_append (by decide) _
      · decide
      · decide

/-- The files are the schemas, in their order. -/
theorem filesOf_argumentsFor
    (absolute : ∀ input ∈ invocation.inputFiles, input.isAbsolute = true) :
    filesOf (compiler.argumentsFor invocation policy output) =
      invocation.inputFiles.map Path.text := by
  have flags : (compiler.options invocation policy output).filter (fun each => !isFlag each) =
      [] := by
    refine List.filter_eq_nil_iff.mpr fun argument member => ?_
    rw [isFlag_of_mem_options member]
    decide
  have files : (invocation.inputFiles.map Path.text).filter (fun each => !isFlag each) =
      invocation.inputFiles.map Path.text := by
    refine List.filter_eq_self.mpr fun text member => ?_
    obtain ⟨input, given, rfl⟩ := List.mem_map.mp member
    rw [isFlag_text (absolute input given)]
    decide
  rw [filesOf, argumentsFor, List.filter_append, flags, files, List.nil_append]

end Compiler

/-- Schemas are named by the compiler as they are seen from the include directory. -/
theorem Invocation.seenFrom_eq {directory : Path} (root : IsRoot directory) {inputs : List Path}
    (inside : ∀ input ∈ inputs, IsInside directory input) :
    ∃ schemas, seenFrom directory inputs = .ok schemas ∧
      inputs.map (fun input => Compiler.nameBelow? input.text directory.text) =
        schemas.map some := by
  induction inputs with
  | nil => exact ⟨[], rfl, rfl⟩
  | cons input rest inductionHypothesis =>
    obtain ⟨schemas, seen, named⟩ :=
      inductionHypothesis fun each member => inside each (List.mem_cons_of_mem _ member)
    obtain ⟨final, names, -, shape⟩ := inside input List.mem_cons_self
    have found : input.relativeTo? directory = some ⟨.relative, names⟩ :=
      (Path.relativeTo?_eq_some_iff _ _ _).mpr ⟨rfl, shape⟩
    have relative : input.relativeTo directory = .ok ⟨.relative, names⟩ := by
      rw [Path.relativeTo, found]
    refine ⟨(⟨.relative, names⟩ : Path).text :: schemas, ?_, ?_⟩
    · rw [seenFrom, relative]
      dsimp only
      rw [seen]
      rfl
    · rw [List.map_cons, List.map_cons, named, Compiler.nameBelow?, final.parse_text,
        root.isFinal.parse_text, found]
      rfl

namespace Compiler

variable {compiler : Compiler} {invocation : Invocation} {policy : Policy} {output : Path}

/-- A file below the include directory is named from there, whatever roots follow. -/
theorem nameOf?_argumentsFor
    (absolute : ∀ input ∈ invocation.inputFiles, input.isAbsolute = true) {file name : String}
    (below : nameBelow? file invocation.includeDirectory.text = some name) :
    nameOf? (compiler.argumentsFor invocation policy output) file = some name := by
  have roots : (valuesOf "--proto_path"
      (compiler.argumentsFor invocation policy output)).filterMap id =
        invocation.includeDirectory.text :: compiler.includePaths := by
    rw [valuesOf_argumentsFor (by decide) (by decide) (by decide) absolute]
    simp
  rw [nameOf?, roots, List.findSome?_cons, below]

/-- The compiler and the work after it go by the same names of schemas, in the same order. Bindings
go to the directory that is given, and so do typed stubs and the descriptor set, unless they are for
the lite runtime. -/
theorem arguments_name_schemas (received : invocation.Received) (compiler : Compiler)
    (policy : Policy) (output : Path) :
    ∃ arguments schemas,
      compiler.commandLine invocation policy output = compiler.command ++ arguments ∧
      invocation.virtualPaths = .ok schemas ∧
      filesOf arguments = invocation.inputFiles.map Path.text ∧
      (filesOf arguments).map (nameOf? arguments) = schemas.map some ∧
      valuesOf "--python_out" arguments = [some output.text] ∧
      valuesOf "--pyi_out" arguments = (if policy.liteRuntime then [] else [some output.text]) ∧
      valuesOf "--descriptor_set_out" arguments =
        (if policy.liteRuntime then [] else [some (output.child descriptorSetName).text]) ∧
      (output.child descriptorSetName).parent = output := by
  obtain ⟨root, inside⟩ := received.spelled
  have absolute : ∀ input ∈ invocation.inputFiles, input.isAbsolute = true := by
    intro input member
    obtain ⟨-, names, -, rfl⟩ := inside input member
    exact root.isAbsolute
  obtain ⟨schemas, seen, named⟩ := Invocation.seenFrom_eq root inside
  refine ⟨compiler.argumentsFor invocation policy output, schemas, commandLine_eq, seen,
    filesOf_argumentsFor absolute, ?_, ?_, ?_, ?_, ?_⟩
  · rw [filesOf_argumentsFor absolute, List.map_map, ← named]
    refine List.map_congr_left fun input member => ?_
    have isNamed : Compiler.nameBelow? input.text invocation.includeDirectory.text ∈
        schemas.map some := by
      rw [← named]
      exact List.mem_map_of_mem member
    obtain ⟨name, -, below⟩ := List.mem_map.mp isNamed
    rw [Function.comp_apply, nameOf?_argumentsFor absolute below.symm, below]
  · rw [valuesOf_argumentsFor (by decide) (by decide) (by decide) absolute]
    simp
  · rw [valuesOf_argumentsFor (by decide) (by decide) (by decide) absolute]
    simp
  · rw [valuesOf_argumentsFor (by decide) (by decide) (by decide) absolute]
    simp
  · have single : Path.parse descriptorSetName = ⟨.relative, [descriptorSetName]⟩ := by
      decide +kernel
    show (output.append _).parent = output
    rw [single]
    exact congrArg (Path.mk output.anchor) List.dropLast_concat

/-- The invocation of two schemas whose directory a link leads to. -/
def linkedInvocation : Invocation :=
  ⟨Path.ofPlace ["p", "real"],
    [Path.ofPlace ["p", "real", "a.proto"], Path.ofPlace ["p", "real", "b.proto"]],
    Path.ofPlace ["p", "out"], none⟩

/-- A compiler that looks for imports above the include directory as well, there once more, and
at one of the schemas. -/
def manyRooted : Compiler := ⟨["protoc"], .searchPath, ["/p", "/p/real", "/p/real/a.proto"]⟩

/-- The schemas are named from the include directory, not from above it. -/
theorem arguments_name_linked_schemas :
    linkedInvocation.Received ∧ ∃ arguments schemas,
      manyRooted.commandLine linkedInvocation .standard (Path.ofPlace ["p", "new"]) =
        ["protoc"] ++ arguments ∧
      linkedInvocation.virtualPaths = .ok schemas ∧
      (filesOf arguments).map (nameOf? arguments) = schemas.map some ∧
      schemas = ["a.proto", "b.proto"] := by
  have received : linkedInvocation.Received := by
    refine ⟨Invocation.linkedSchemas, Invocation.pathArguments "link"
      ["a.proto", "../link/b.proto"] "out" none, ⟨by decide, ?_⟩, by decide +kernel⟩
    exact fun part member => List.mem_singleton.mp member ▸ by decide
  obtain ⟨arguments, schemas, line, listed, -, named, -⟩ :=
    arguments_name_schemas received manyRooted .standard (Path.ofPlace ["p", "new"])
  have names : linkedInvocation.virtualPaths = .ok ["a.proto", "b.proto"] := by decide +kernel
  exact ⟨received, arguments, schemas, line, listed, named,
    Except.ok.inj (listed.symm.trans names)⟩

end Compiler

end Bindery
