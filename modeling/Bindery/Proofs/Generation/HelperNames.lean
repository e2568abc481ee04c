/-
This file decides when the names of generated modules get in the way of the helpers.

A run that succeeds publishes a package in which the names at the top and the helpers' names stand
side by side. They are compared nowhere: the exported names repeat themselves exactly if the module
of a schema has a name that begins with a helper's, and the support module is hidden exactly if a
schema's module lies in a directory of its name. Either schema is accepted, and its run succeeds.
-/

import Bindery.Proofs.Generation.Writer
import Bindery.Proofs.Package.Exports

namespace Bindery

open Package

namespace Generation

variable {lookup : Compiler.Lookup} {run : Runner} {invocation : Invocation} {policy : Policy}
  {schemas : List String} {before after : Machine}

/-- A run that succeeds publishes the package's own module and the support module. The names that
are exported are different, and each stays what it was imported as first, exactly if no schema's
module has a name that begins with a helper's; the helpers come from the support module exactly if
no schema's module lies in a directory of its name. -/
theorem helpers_apart_iff (quiet : Quiet lookup) (confined : ConfinedRunner run invocation policy)
    (validated : invocation.Validated) (isTree : before.disk.IsTree)
    (openWay : OpenWay before invocation.outputDirectory (lastNumber after))
    (listed : invocation.virtualPaths = .ok schemas) (asked : policy.zeroCopyBuffers = true)
    (ran : (generate lookup run invocation policy).on before = (.ok (), after)) :
    ∃ (compiler : Compiler) (emission tree : Tree),
      Emitted run (commandTo compiler invocation policy (lastNumber after))
        (stagingPath invocation.outputDirectory (lastNumber after)) emission ∧
      after.disk.entryAt before.host.here invocation.outputDirectory = some tree ∧
      HelperNames schemas policy emission tree := by
  obtain ⟨emission, place, published⟩ := exists_published quiet confined validated.isRegular
    validated.isAbsolute isTree openWay listed ran
  obtain ⟨compiler, emitted⟩ := published.emitted
  exact ⟨compiler, emission, _, emitted, published.entry,
    helperNames_of_finished published.isTree asked published.tree_eq⟩

/-! ### Directories with the names of helpers -/

/-- The bindings of a schema in a directory are to be made. -/
def nestedSchema (directory : String) : Invocation :=
  ⟨Path.parse "/in", [Path.parse ("/in/" ++ directory ++ "/x.proto")], Path.parse "/out", none⟩

/-- A machine with the schema. -/
def withNestedSchema (directory : String) : Machine :=
  Machine.fresh {} ⟨[
    (["in"], .directory Disk.directoryMode),
    (["in", directory], .directory Disk.directoryMode),
    (["in", directory, "x.proto"], .file [] Disk.fileMode)]⟩

/-- Writes the bindings of the schema to a directory of its own. -/
def writesNested (directory : String) : Runner :=
  nestedWriterTo installed (nestedSchema directory) .standard 1 directory "x_pb2.py" "new\n"

/-- What becomes of the machine when the bindings of the schema are made. -/
def generateNested (directory : String) : Except Failure Unit × Machine :=
  (generate foundInstalled (writesNested directory) (nestedSchema directory) .standard).on
    (withNestedSchema directory)

theorem validated_nestedSchema {directory : String}
    (accepted : ((Invocation.ofPaths (Path.parse "/in")
      [Path.parse ("/in/" ++ directory ++ "/x.proto")] (Path.parse "/out") none).on
        (withNestedSchema directory)).1 = .ok (nestedSchema directory)) :
    (nestedSchema directory).Validated := Invocation.validated_of_accepted rfl accepted

theorem openWay_generateNested (directory : String) :
    OpenWay (withNestedSchema directory) (nestedSchema directory).outputDirectory
      (lastNumber (generateNested directory).2) := by
  have absolute : (Path.parse "/out").isAbsolute = true := by decide +kernel
  have top : (Path.parse "/out").parent.parts = [] := by decide +kernel
  exact fun base _ => unobstructed_of_top absolute top base

/-- For a schema in a directory with a helper's name and for one in a directory with the name of the
support module the run succeeds. One package exports a name twice, and the name is not what the
compiler wrote; in the other one the helpers are imported from an empty package. -/
theorem helpers_displaced :
    (nestedSchema "parse").Validated ∧ (generateNested "parse").1 = .ok () ∧
    (∃ tree : Tree,
      (generateNested "parse").2.disk.entryAt [] (Path.parse "/out") = some tree ∧
      (∃ mode, tree [initName] = some (.file (Text.bytesOf (packageText
        (importsOf (modulesOf ["parse/x.proto"]) .standard)
        ["parse", "parse", "payload_view"])) mode)) ∧
      boundFrom (importsOf (modulesOf ["parse/x.proto"]) .standard) "parse" = some buffersName) ∧
    (nestedSchema "_buffers").Validated ∧ (generateNested "_buffers").1 = .ok () ∧
    ∃ tree : Tree,
      (generateNested "_buffers").2.disk.entryAt [] (Path.parse "/out") = some tree ∧
      tree.HasFile Tree.buffersPlace ∧ importedFrom tree buffersName = [buffersName, initName] := by
  have absolute : ∀ directory, (nestedSchema directory).outputDirectory.isAbsolute = true := by
    intro directory
    show (Path.parse "/out").isAbsolute = true
    decide +kernel
  have firstValid : (nestedSchema "parse").Validated := validated_nestedSchema (by decide +kernel)
  have secondValid : (nestedSchema "_buffers").Validated :=
    validated_nestedSchema (by decide +kernel)
  have firstRan : (generateNested "parse").1 = .ok () := by decide +kernel
  have secondRan : (generateNested "_buffers").1 = .ok () := by decide +kernel
  obtain ⟨_, _, first, _, firstEntry, firstNames⟩ := helpers_apart_iff quiet_foundInstalled
    (confined_nestedWriterTo (absolute _) (by decide) (by decide) installed .standard 1 "new\n")
    firstValid (Disk.isTree_of_entries (by decide +kernel)) (openWay_generateNested "parse")
    (show (nestedSchema "parse").virtualPaths = .ok ["parse/x.proto"] by decide +kernel) rfl
    (Action.on_eq firstRan)
  obtain ⟨_, _, second, _, secondEntry, secondNames⟩ := helpers_apart_iff quiet_foundInstalled
    (confined_nestedWriterTo (absolute _) (by decide) (by decide) installed .standard 1 "new\n")
    secondValid (Disk.isTree_of_entries (by decide +kernel)) (openWay_generateNested "_buffers")
    (show (nestedSchema "_buffers").virtualPaths = .ok ["_buffers/x.proto"] by decide +kernel) rfl
    (Action.on_eq secondRan)
  have exported : exportedNames (modulesOf ["parse/x.proto"]) .standard =
      ["parse", "parse", "payload_view"] := by decide +kernel
  have reached : ((generateNested "_buffers").2.disk.entryAt [] (Path.parse "/out")).map
      (importedFrom · buffersName) = some [buffersName, initName] := by decide +kernel
  refine ⟨firstValid, firstRan, ⟨first, firstEntry, exported ▸ firstNames.top,
    firstNames.helpers _ (by decide)⟩, secondValid, secondRan, second, secondEntry, ?_, ?_⟩
  · obtain ⟨mode, found⟩ := secondNames.support
    exact ⟨_, mode, found⟩
  · have entry : (generateNested "_buffers").2.disk.entryAt [] (Path.parse "/out") = some second :=
      secondEntry
    rw [entry] at reached
    exact Option.some.inj reached

end Generation

end Bindery
