/-
This file regenerates the bindings before a package is built. The switch is looked at first;
only when it is on are settings read, and then the tree that the package ships is regenerated,
whatever the environment says about the root of generated files.
-/

import Bindery.Plan
import Bindery.Release

namespace Bindery.BuildHook

/-- The directory, below the project, that holds the tree of bindings that is shipped. -/
def shippedRoot : String := (Path.parse Release.bindingsDirectory).parent.text

/-- What the hook gives in the place of the environment. -/
def overrides : Arguments :=
  [("proto_enabled", .bool true), ("generated_root", .text shippedRoot)]

/-- Regenerates the bindings of the project at `root` if that is turned on, and then builds. -/
def run (generate : BuildStep.Generator) (build : Action Unit) (root : String) :
    Action Unit := do
  if (← get).host.environment.buildProto then
    let settings ← Settings.fromEnvironment (.text root) overrides
    let step ← BuildStep.plan settings Policy.standard
    step.perform generate
  build

end Bindery.BuildHook
