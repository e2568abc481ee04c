/-
This file proves what a build comes to whose settings turn generation on.

The settings are read, which leaves a record at most, then an invocation with them is checked, which
leaves nothing; what follows is the generation, or a failure of the checks and nothing else. This
holds of every function that generates, so that it is called for one invocation, and once.
-/

import Bindery.Plan
import Bindery.Proofs.Invocation.Checks
import Bindery.Proofs.Settings.Layers

namespace Bindery.Settings

/-- The checks of the invocation that settings ask for. -/
def check (settings : Settings) : Action Invocation :=
  Invocation.ofPaths settings.includeDirectory (settings.schemaFiles.map Path.parse)
    settings.outputDirectory settings.compilerOverride

/-- Reads settings, and carries out the step that is planned for them. -/
def build (root : Datum) (overrides : Arguments) (policy : Policy)
    (generate : BuildStep.Generator) : Action Unit := do
  let settings ← fromEnvironment root overrides
  let step ← BuildStep.plan settings policy
  step.perform generate

/-- What a generation comes to after checks that were made before. -/
def afterChecks (checks : Except Failure Invocation) (policy : Policy)
    (generate : BuildStep.Generator) : Action Unit :=
  match checks with
  | .ok invocation => generate invocation policy
  | .error failure => throw failure

variable {machine ready : Machine} {settings : Settings} {policy : Policy}

theorem looks_check (settings : Settings) : settings.check.Looks :=
  Invocation.looks_ofPaths _ _ _ _

theorem on_plan_perform (enabled : settings.enabled = true) (logged : machine.Logged ready)
    (generate : BuildStep.Generator) :
    (do
      let step ← BuildStep.plan settings policy
      step.perform generate : Action Unit).on ready =
      (afterChecks (settings.check.on machine).1 policy generate).on ready := by
  unfold BuildStep.plan
  rw [enabled, if_pos rfl, bind_assoc]
  show (settings.check >>= fun invocation => generate invocation policy).on ready = _
  rw [Action.on_bind, settings.looks_check.on_logged logged]
  cases (settings.check.on machine).1 <;> rfl

theorem on_build {root : Datum} {overrides : Arguments} (policy : Policy)
    (given : ended (workingDirectory machine)
      (read (layered machine.host.environment root overrides)) = .ok settings)
    (enabled : settings.enabled = true) (generate : BuildStep.Generator) :
    (build root overrides policy generate).on machine =
      (afterChecks (settings.check.on machine).1 policy generate).on
        ((fromEnvironment root overrides).on machine).2 := by
  obtain ⟨read, logged⟩ := fromEnvironment_meets root overrides machine
  rw [given] at read
  unfold build
  rw [Action.on_bind, read]
  exact on_plan_perform enabled logged generate

theorem exists_on_build {root : Datum} {overrides : Arguments} (policy : Policy)
    (given : ended (workingDirectory machine)
      (read (layered machine.host.environment root overrides)) = .ok settings)
    (enabled : settings.enabled = true) :
    ∃ ready, machine.Logged ready ∧ ∀ generate,
      (build root overrides policy generate).on machine =
        (afterChecks (settings.check.on machine).1 policy generate).on ready :=
  ⟨_, (fromEnvironment_meets root overrides machine).2, on_build policy given enabled⟩

/-- A disk with a project and its schemas. -/
def projectDisk : Disk :=
  ⟨[(["p"], .directory Disk.directoryMode), (["p", "schemas"], .directory Disk.directoryMode),
    (["p", "schemas", "protobuf"], .directory Disk.directoryMode)] ++
    standardSchemas.map fun name => (["p", "schemas", "protobuf", name], .file [] Disk.fileMode)⟩

end Bindery.Settings
