/-
This file proves that the output of a run is a function of what the compiler emitted.

Two runs that succeed for the same schemas, in whatever order, by the same policy and with compilers
that emit the same tree, leave the same tree at their outputs. What lay there before, the names of
the staging directories and the calls that failed on the way do not matter. The tree has the places
that were emitted and those that make it a package, and no others.
-/

import Bindery.Proofs.Generation.Writer

namespace Bindery.Generation

open Package

variable {lookup otherLookup : Compiler.Lookup} {run otherRun : Runner}
  {invocation otherInvocation : Invocation} {policy : Policy} {emission : Tree}
  {before after otherBefore otherAfter : Machine}

/-- Whenever the compiler succeeds at writing to a staging directory, it leaves the same tree. -/
def Emits (run : Runner) (invocation : Invocation) (policy : Policy) (number : Nat)
    (emission : Tree) : Prop :=
  ∀ compiler tree, Emitted run (commandTo compiler invocation policy number)
    (stagingPath invocation.outputDirectory number) tree → tree = emission

/-- A run that succeeds, with what is asked of the compiler and of the disk. -/
structure Succeeds (lookup : Compiler.Lookup) (run : Runner) (invocation : Invocation)
    (policy : Policy) (emission : Tree) (before after : Machine) : Prop where
  quiet : Quiet lookup
  confined : ConfinedRunner run invocation policy
  emits : Emits run invocation policy (lastNumber after) emission
  validated : invocation.Validated
  isTree : before.disk.IsTree
  ran : (generate lookup run invocation policy).on before = (.ok (), after)

/-- The output after a run that succeeds. -/
theorem Succeeds.entryAt (succeeds : Succeeds lookup run invocation policy emission before after)
    (openWay : OpenWay before invocation.outputDirectory (lastNumber after))
    {schemas : List String} (listed : invocation.virtualPaths = .ok schemas) :
    after.disk.entryAt before.host.here invocation.outputDirectory =
      some (Tree.finish (modulesOf schemas) policy emission) := by
  have validated := succeeds.validated
  obtain ⟨tree, place, published⟩ := exists_published succeeds.quiet succeeds.confined
    validated.isRegular validated.isAbsolute succeeds.isTree openWay listed succeeds.ran
  obtain ⟨compiler, emitted⟩ := published.emitted
  rw [published.entry, published.tree_eq, succeeds.emits compiler tree emitted]

theorem output_eq_of_emission
    (first : Succeeds lookup run invocation policy emission before after)
    (second : Succeeds otherLookup otherRun otherInvocation policy emission otherBefore otherAfter)
    (openWay : OpenWay before invocation.outputDirectory (lastNumber after))
    (otherWay : OpenWay otherBefore otherInvocation.outputDirectory (lastNumber otherAfter))
    {schemas otherSchemas : List String} (listed : invocation.virtualPaths = .ok schemas)
    (otherListed : otherInvocation.virtualPaths = .ok otherSchemas)
    (perm : schemas.Perm otherSchemas) :
    ∃ tree : Tree,
      after.disk.entryAt before.host.here invocation.outputDirectory = some tree ∧
        otherAfter.disk.entryAt otherBefore.host.here otherInvocation.outputDirectory = some tree ∧
          ∀ place, tree place ≠ none ↔
            Tree.Added (modulesOf schemas) policy place ∨ emission place ≠ none := by
  refine ⟨_, first.entryAt openWay listed, ?_, fun place => Tree.finish_ne_none_iff⟩
  rw [modulesOf_eq_of_perm perm]
  exact second.entryAt otherWay otherListed

/-! ### Runs that emit the same -/

/-- A run for one schema, as one that succeeds. -/
theorem succeeds_generateOneSchema {output : String} {before : Machine}
    (absolute : (oneSchema output).outputDirectory.isAbsolute = true)
    (validated : (oneSchema output).Validated) (isTree : before.disk.IsTree)
    (ran : (generateOneSchema output before).1 = .ok ()) :
    Succeeds foundInstalled (writesBindings output .standard) (oneSchema output) .standard
      (oneFile "x_pb2.py" "new\n") before (generateOneSchema output before).2 where
  quiet := quiet_foundInstalled
  confined := confined_writesBindings absolute _
  emits _ _ emitted := emitted_writerTo absolute (by decide) emitted
  validated := validated
  isTree := isTree
  ran := Action.on_eq ran

/-- A machine with output that is out of date. -/
def stale : Machine :=
  machineWith
    [(["out"], .directory Disk.directoryMode), (["out", "stale.py"], .file [] Disk.fileMode)]
    [] Log.Level.info

theorem output_eq_over_stale :
    ∃ tree : Tree,
      (generateOneSchema "/bindings" bare).2.disk.entryAt [] (Path.parse "/bindings") = some tree ∧
        (generateOneSchema "/out" stale).2.disk.entryAt [] (Path.parse "/out") = some tree ∧
          ∀ place, tree place ≠ none ↔
            Tree.Added (modulesOf ["x.proto"]) .standard place ∨
              oneFile "x_pb2.py" "new\n" place ≠ none :=
  have openWay : ∀ output before number, (Path.parse output).isAbsolute = true →
      (Path.parse output).parent.parts = [] →
        OpenWay before (oneSchema output).outputDirectory number :=
    fun _ _ _ absolute top base _ => unobstructed_of_top absolute top base
  output_eq_of_emission
    (succeeds_generateOneSchema (by decide +kernel)
      (validated_oneSchema bare rfl (by decide +kernel))
      (Disk.isTree_of_entries (by decide +kernel)) (by decide +kernel))
    (succeeds_generateOneSchema (by decide +kernel)
      (validated_oneSchema stale rfl (by decide +kernel))
      (Disk.isTree_of_entries (by decide +kernel)) (by decide +kernel))
    (openWay _ _ _ (by decide +kernel) (by decide +kernel))
    (openWay _ _ _ (by decide +kernel) (by decide +kernel))
    (show (oneSchema "/bindings").virtualPaths = .ok ["x.proto"] by decide +kernel)
    (show (oneSchema "/out").virtualPaths = .ok ["x.proto"] by decide +kernel) (.refl _)

/-- When the output was moved aside, its path leads to another directory, which has an entry of the
name of the staging directory. -/
def misled : Machine :=
  machineWith [(["a"], .directory Disk.directoryMode), (["a", "out"], .link "../b"),
    (["a", ".out-previous-00000001"], .link "."), (["b"], .directory Disk.directoryMode),
    (["b", ".out-staging-00000001"], .directory Disk.directoryMode),
    (["b", ".out-staging-00000001", "stale.py"], .file [] Disk.fileMode)] [] Log.Level.info

theorem output_ne_of_misled :
    Succeeds foundInstalled (writesBindings "/out" .standard) (oneSchema "/out") .standard
        (oneFile "x_pb2.py" "new\n") bare (generateOneSchema "/out" bare).2 ∧
      Succeeds foundInstalled (writesBindings "/a/.out-previous-00000001/out" .standard)
          (oneSchema "/a/.out-previous-00000001/out") .standard (oneFile "x_pb2.py" "new\n") misled
          (generateOneSchema "/a/.out-previous-00000001/out" misled).2 ∧
        (oneSchema "/out").virtualPaths =
            (oneSchema "/a/.out-previous-00000001/out").virtualPaths ∧
          (generateOneSchema "/out" bare).2.disk.entryAt [] (Path.parse "/out") ≠
            (generateOneSchema "/a/.out-previous-00000001/out" misled).2.disk.entryAt []
              (Path.parse "/a/.out-previous-00000001/out") := by
  have ran : (generateOneSchema "/out" bare).1 = .ok () ∧
      (generateOneSchema "/a/.out-previous-00000001/out" misled).1 = .ok () ∧
      ((generateOneSchema "/out" bare).2.disk.entryAt [] (Path.parse "/out")).bind
          (fun tree => tree ["stale.py"]) ≠
        ((generateOneSchema "/a/.out-previous-00000001/out" misled).2.disk.entryAt []
          (Path.parse "/a/.out-previous-00000001/out")).bind fun tree => tree ["stale.py"] := by
    decide +kernel
  obtain ⟨ranBare, ranMisled, differ⟩ := ran
  refine ⟨?_, ?_, rfl, fun same => ?_⟩
  · exact succeeds_generateOneSchema (by decide +kernel)
      (validated_oneSchema bare rfl (by decide +kernel))
      (Disk.isTree_of_entries (by decide +kernel)) ranBare
  · exact succeeds_generateOneSchema (by decide +kernel)
      (validated_oneSchema misled rfl (by decide +kernel))
      (Disk.isTree_of_entries (by decide +kernel)) ranMisled
  · exact differ (congrArg (fun entry => entry.bind fun tree => tree ["stale.py"]) same)

end Bindery.Generation
