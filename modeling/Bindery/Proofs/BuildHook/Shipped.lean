/-
This file proves when the hook of a build generates bindings, and which ones.

The switch in the environment decides, and nothing else does. What is generated is the tree that the
distribution ships, from the schemas of the same project: the other variables of the environment and
the directory that the process is in have no say in that. The package is built after a generation
that succeeds, or without one; a failure ends the build.
-/

import Bindery.BuildHook
import Bindery.Proofs.Settings.Planned

namespace Bindery.BuildHook

open Bindery.Settings

/-- The directory of the schemas of a project. -/
def schemaDirectory (root : String) : Path := (Path.parse root).down ["schemas", "protobuf"]

/-- The directory of the bindings of a project. -/
def bindingsDirectory (root : String) : Path := (Path.parse root).down ["generated", "protobuf"]

/-- The checks that come before the bindings of a project are generated, by the given compiler. -/
def checks (root : String) (compiler : Option String) : Action Invocation :=
  Invocation.ofPaths (schemaDirectory root) (standardSchemas.map Path.parse)
    (bindingsDirectory root) (compiler.map Path.parse)

/-- The bindings of an invocation are those that the distribution ships. -/
structure IsShipped (root : String) (machine : Machine) (invocation : Invocation) : Prop where
  output : invocation.outputDirectory = bindingsDirectory root
  package : ∀ directory,
    Release.distribution.packageDirectories.lookup Release.bindingsPackage = some directory →
      invocation.outputDirectory = (Path.parse root).child directory
  schemas : (Action.resolve (schemaDirectory root)).on machine =
    (.ok invocation.includeDirectory, machine)

variable {machine : Machine} {root : String}

theorem read_overrides (environment : Environment) (root : String) :
    read (layered environment (.text root) overrides) =
      .ok ⟨Path.parse root, true, standardInclude, standardSchemas, Path.parse shippedRoot,
        environment.compilerPath?.map Path.parse⟩ := by
  unfold layered environmentArguments
  cases environment.compilerPath? <;> cases environment.generatedRoot? <;> rfl

/-- The settings of the hook. Of the environment only the compiler gets into them. -/
def settings (root : String) (compiler : Option String) : Settings where
  projectRoot := Path.parse root
  enabled := true
  includeDirectory := schemaDirectory root
  schemaFiles := standardSchemas
  generatedRoot := (Path.parse root).child shippedRoot
  compilerOverride := compiler.map Path.parse

theorem ended_read_overrides (absolute : (Path.parse root).isAbsolute = true) (machine : Machine) :
    ended (workingDirectory machine)
        (read (layered machine.host.environment (.text root) overrides)) =
      .ok (settings root machine.host.environment.compilerPath?) := by
  have same : Path.absolute (workingDirectory machine) (Path.parse root) = Path.parse root :=
    if_pos absolute
  rw [read_overrides]
  unfold ended anchored
  dsimp only
  rw [same]
  rfl

theorem child_of_relative {name : String} {parts : List String}
    (relative : Path.parse name = ⟨.relative, parts⟩) (base : Path) :
    base.child name = base.down parts := by
  show base.append (Path.parse name) = _
  rw [relative]
  rfl

theorem check_settings (root : String) (compiler : Option String) :
    (settings root compiler).check = checks root compiler := by
  have output : (settings root compiler).outputDirectory = bindingsDirectory root := by
    have generated := child_of_relative
      (show Path.parse shippedRoot = ⟨.relative, ["generated"]⟩ by decide +kernel) (Path.parse root)
    show (((Path.parse root).child shippedRoot).down [outputName]) = _
    rw [generated, Path.down_down]
    rfl
  unfold Settings.check
  rw [output]
  rfl

/-- With the switch on, the hook reads the settings, generates, and builds. -/
theorem run_eq_build (on : machine.host.environment.buildProto = true)
    (generate : BuildStep.Generator) (build : Action Unit) (root : String) :
    (run generate build root).on machine =
      (Settings.build (.text root) overrides Policy.standard generate >>= fun _ => build).on
        machine := by
  unfold run Settings.build
  rw [Action.on_bind, Action.on_get]
  dsimp only
  rw [if_pos on]
  simp only [bind_assoc]

theorem isShipped_of_checks (absolute : (Path.parse root).isAbsolute = true)
    {compiler : Option String} {invocation : Invocation}
    (passed : ((checks root compiler).on machine).1 = .ok invocation) :
    IsShipped root machine invocation := by
  have asked := Invocation.asks_ofPaths (schemaDirectory root) (standardSchemas.map Path.parse)
    (bindingsDirectory root) (compiler.map Path.parse) machine
  obtain ⟨resolved, output, -⟩ := asked.2 invocation passed
  have same : invocation.outputDirectory = bindingsDirectory root := output.trans (if_pos absolute)
  refine ⟨same, fun directory listed => ?_, resolved⟩
  cases listed
  rw [same, child_of_relative (show Path.parse Release.bindingsDirectory =
    ⟨.relative, ["generated", "protobuf"]⟩ by decide +kernel)]
  rfl

theorem run_generates_shipped (machine : Machine) (absolute : (Path.parse root).isAbsolute = true) :
    (machine.host.environment.buildProto = false → ∀ generate build,
      (run generate build root).on machine = build.on machine) ∧
    (machine.host.environment.buildProto = true → ∃ ready, machine.Logged ready ∧
      ∀ generate build, (run generate build root).on machine =
        match ((checks root machine.host.environment.compilerPath?).on machine).1 with
        | .error failure => (.error failure, ready)
        | .ok invocation =>
          match (generate invocation Policy.standard).on ready with
          | (.ok _, after) => build.on after
          | (.error failure, after) => (.error failure, after)) ∧
    ∀ compiler invocation, ((checks root compiler).on machine).1 = .ok invocation →
      IsShipped root machine invocation := by
  refine ⟨fun off generate build => ?_, fun on => ?_, fun compiler invocation passed =>
    isShipped_of_checks absolute passed⟩
  · unfold run
    rw [Action.on_bind, Action.on_get]
    dsimp only
    rw [if_neg (by rw [off]; exact Bool.false_ne_true)]
  · obtain ⟨ready, logged, ran⟩ := exists_on_build Policy.standard
      (ended_read_overrides absolute machine) rfl
    refine ⟨ready, logged, fun generate build => ?_⟩
    rw [run_eq_build on, Action.on_bind, ran, check_settings]
    cases ((checks root machine.host.environment.compilerPath?).on machine).1 with
    | error failure => rfl
    | ok invocation =>
      dsimp only [afterChecks]
      obtain ⟨result, after⟩ := (generate invocation Policy.standard).on ready
      cases result <;> rfl

/-- A project that is built by a process with the switch on, and with a root for generated files
elsewhere. -/
def projectMachine : Machine :=
  Machine.fresh
    { environment := [("GLIDE_BUILD_PROTO", " YES "), ("GLIDE_GENERATED_ROOT", "/elsewhere")]
      here := ["p", "schemas"] }
    projectDisk

theorem project_built_with_bindings :
    ∃ invocation ready, IsShipped "/p" projectMachine invocation ∧
      projectMachine.Logged ready ∧
        (run (BuildStep.recorder none) (Action.note .built) "/p").on projectMachine =
          (.ok (), { ready with
            journal := .built :: .requested invocation Policy.standard :: ready.journal }) := by
  obtain ⟨-, generates, shipped⟩ :=
    run_generates_shipped projectMachine
      (show (Path.parse "/p").isAbsolute = true by decide +kernel)
  obtain ⟨ready, logged, ran⟩ := generates (by decide +kernel)
  have passes : ((checks "/p" projectMachine.host.environment.compilerPath?).on
      projectMachine).1.isOk = true := by decide +kernel
  cases passed : ((checks "/p" projectMachine.host.environment.compilerPath?).on
      projectMachine).1 with
  | error failure =>
    rw [passed] at passes
    cases passes
  | ok invocation =>
    refine ⟨invocation, ready, shipped _ invocation passed, logged, ?_⟩
    rw [ran, passed]
    rfl

end Bindery.BuildHook
