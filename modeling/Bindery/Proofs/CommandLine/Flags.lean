/-
This file follows the options of the program into the settings of a build.

An option that is not used becomes an override that is null. By the rule the environment would
decide then; as it is, generation stays off without an option that turns it on, and without an
option for it the root of generated files is the standard one, whatever the environment says.
-/

import Bindery.CommandLine.Run
import Bindery.Proofs.Settings.Layers

namespace Bindery.CommandLine

open Bindery.Settings

/-! ### Options that are not used -/

/-- Whether an option is among those that were used. -/
def Uses (uses : List Use) (flag : Flag) : Prop := ∃ use ∈ uses, use.flag = flag

instance (uses : List Use) (flag : Flag) : Decidable (Uses uses flag) := by
  unfold Uses
  infer_instance

theorem enabled_foldl_apply {uses : List Use} (unused : ¬ Uses uses protoFlag)
    (arguments : GenerateArguments) :
    (uses.foldl GenerateArguments.apply arguments).enabled = arguments.enabled := by
  induction uses generalizing arguments with
  | nil => rfl
  | cons use rest inductionHypothesis =>
    have other : use.flag ≠ protoFlag := fun same => unused ⟨use, List.mem_cons_self, same⟩
    rw [List.foldl_cons, inductionHypothesis
      fun ⟨each, member, same⟩ => unused ⟨each, List.mem_cons_of_mem _ member, same⟩]
    unfold GenerateArguments.apply
    rw [if_neg other]
    split
    next => rfl
    next => split <;> rfl

theorem generatedRoot_foldl_apply {uses : List Use} (unused : ¬ Uses uses generatedFlag)
    (arguments : GenerateArguments) :
    (uses.foldl GenerateArguments.apply arguments).generatedRoot = arguments.generatedRoot := by
  induction uses generalizing arguments with
  | nil => rfl
  | cons use rest inductionHypothesis =>
    have other : use.flag ≠ generatedFlag := fun same => unused ⟨use, List.mem_cons_self, same⟩
    rw [List.foldl_cons, inductionHypothesis
      fun ⟨each, member, same⟩ => unused ⟨each, List.mem_cons_of_mem _ member, same⟩]
    unfold GenerateArguments.apply
    split
    next => rfl
    next =>
      split
      next => rfl
      next => rfl

theorem enabled_ofUses {uses : List Use} (unused : ¬ Uses uses protoFlag) (here : Path) :
    (GenerateArguments.ofUses here uses).enabled = none := enabled_foldl_apply unused _

theorem generatedRoot_ofUses {uses : List Use} (unused : ¬ Uses uses generatedFlag) (here : Path) :
    (GenerateArguments.ofUses here uses).generatedRoot = none := generatedRoot_foldl_apply unused _

/-! ### Overrides that options make -/

theorem distinct_overrides (arguments : GenerateArguments) :
    (arguments.overrides.map Prod.fst).Nodup := by
  show ["proto_enabled", "generated_root"].Nodup
  decide

/-- The settings that options make on a machine. -/
def settingsOf (machine : Machine) (uses : List Use) : Action Settings :=
  let arguments := GenerateArguments.ofUses (workingDirectory machine) uses
  fromEnvironment (.text arguments.projectRoot.text) arguments.overrides

/-- Without an option, a field has its default. -/
theorem settingsOf_meets (machine : Machine) (uses : List Use) :
    (settingsOf machine uses).Meets machine fun result after =>
      after.disk = machine.disk ∧ ∀ settings, result = .ok settings →
        (¬ Uses uses protoFlag → settings.enabled = false) ∧
        (¬ Uses uses generatedFlag →
          settings.generatedRoot = settings.projectRoot ++ standardRoot) := by
  refine (fromEnvironment_meets _ _ machine).mono ?_
  rintro _ after ⟨rfl, logged⟩
  refine ⟨logged.disk, fun settings found => ?_⟩
  rw [read_layered _ _ (distinct_overrides _) rfl] at found
  generalize Settings.read (ruledArguments _ _ _) = byRule at found
  cases byRule with
  | error invalid => cases found
  | ok given =>
    cases found
    refine ⟨fun unused => ?_, fun unused => ?_⟩
    · have hidden : hides (GenerateArguments.ofUses (workingDirectory machine) uses).overrides
          "proto_enabled" = true := by
        unfold GenerateArguments.overrides
        rw [enabled_ofUses unused]
        rfl
      show (if hides _ "proto_enabled" = true then false else given.enabled) = false
      rw [if_pos hidden]
    · have hidden : hides (GenerateArguments.ofUses (workingDirectory machine) uses).overrides
          "generated_root" = true := by
        unfold GenerateArguments.overrides
        rw [generatedRoot_ofUses unused]
        rfl
      show _ ++ (if hides _ "generated_root" = true then standardRoot else given.generatedRoot) = _
      rw [if_pos hidden]
      rfl

/-! ### Runs without the option that turns generation on -/

theorem isDirectory_meets (path : Path) (machine : Machine) :
    (Action.isDirectory path).Meets machine fun _ after => after = machine := by
  unfold Action.Meets
  rw [Action.on_isDirectory]

theorem perform_skip_meets (machine : Machine) :
    (BuildStep.skip.perform generateReal).Meets machine fun _ after =>
      after.disk = machine.disk :=
  (Action.log_meets _ _ machine).mono fun _ _ ended => ended.2.2.1

theorem runGenerate_meets {machine : Machine} {uses : List Use} (unused : ¬ Uses uses protoFlag) :
    (runGenerate (GenerateArguments.ofUses (workingDirectory machine) uses)).Meets machine
      fun _ after => after.disk = machine.disk := by
  unfold runGenerate
  refine (isDirectory_meets _ machine).bind ?_ fun _ _ same => by rw [same]
  rintro there between rfl
  split
  next => exact rfl
  next =>
    refine (settingsOf_meets between uses).bind ?_ fun _ _ ended => ended.1
    rintro settings known ⟨same, fields⟩
    have off := (fields settings rfl).1 unused
    unfold BuildStep.plan
    rw [off, if_neg (by simp), pure_bind]
    refine (perform_skip_meets known).bind ?_ fun _ _ kept => kept.trans same
    intro _ after kept
    exact kept.trans same

theorem orFailure_meets (report : Except Template.Fault Report) (machine : Machine) :
    (orFailure report).Meets machine fun _ after => after = machine := by
  unfold orFailure
  split <;> exact rfl

theorem carryOut_meets {work : Action String} {machine : Machine}
    (kept : work.Meets machine fun _ after => after.disk = machine.disk) :
    (carryOut work).Meets machine fun _ after => after.disk = machine.disk := by
  unfold carryOut
  refine kept.outcome_bind ?_
  intro result between same
  split
  next => exact same
  next =>
    split
    next =>
      refine (Action.log_meets _ _ between).bind ?_ ?_
      · rintro _ after ⟨-, -, sameAfter, -⟩
        exact sameAfter.trans same
      · rintro _ after ⟨-, -, sameAfter, -⟩
        exact sameAfter.trans same
    next => exact same

theorem run_meets (version : String) {arguments rest : List String} (machine : Machine)
    (generates : (read topCommand.grammar arguments).command = some ("generate", rest))
    (unused : ¬ Uses (read generateCommand.grammar rest).uses protoFlag) :
    (run version arguments).Meets machine fun _ after => after.disk = machine.disk := by
  have shows (report : Except Template.Fault Report) :
      (orFailure report).Meets machine fun _ after => after.disk = machine.disk :=
    (orFailure_meets report machine).mono fun _ _ same => by rw [same]
  unfold run
  dsimp only
  split
  next => exact shows _
  next => exact rfl
  next =>
    rw [generates]
    show (runSubcommand .generate version _ rest).Meets machine _
    unfold runSubcommand
    dsimp only
    split
    next => exact shows _
    next => exact rfl
    next => exact rfl
    next =>
      rw [Action.meets_get_bind]
      exact carryOut_meets (runGenerate_meets unused)

/-! ### Where settings come from -/

/-- The layers are read by the rule but for fields that a null override hides. Overrides name each
field once, and the root is handed over apart from them. -/
theorem settings_by_rule_but_null (machine : Machine) (root : Datum) (overrides : Arguments)
    (distinct : (overrides.map Prod.fst).Nodup)
    (noRoot : overrides.lookup "project_root" = none) :
    ((fromEnvironment root overrides).on machine).1 = ended (workingDirectory machine)
        ((ruledSettings machine root overrides).map (forget overrides)) ∧
      (∀ settings, ruledSettings machine root overrides = .ok settings →
        (((fromEnvironment root overrides).on machine).1 =
            .ok (settings.anchored (workingDirectory machine)) ↔
          (hides overrides "proto_enabled" = true → settings.enabled = false) ∧
          (hides overrides "generated_root" = true →
            (settings.anchored (workingDirectory machine)).generatedRoot =
              Path.absolute (workingDirectory machine) settings.projectRoot ++ standardRoot) ∧
          (hides overrides "compiler_path_override" = true →
            settings.compilerOverride = none))) ∧
      (∀ (version : String) (arguments rest : List String),
        (read topCommand.grammar arguments).command = some ("generate", rest) →
        ¬ Uses (read generateCommand.grammar rest).uses protoFlag →
        ((run version arguments).on machine).2.disk = machine.disk) ∧
      ∀ (uses : List Use) (settings : Settings),
        ((settingsOf machine uses).on machine).1 = .ok settings →
        (¬ Uses uses protoFlag → settings.enabled = false) ∧
        (¬ Uses uses generatedFlag →
          settings.generatedRoot = settings.projectRoot ++ standardRoot) := by
  have result : ((fromEnvironment root overrides).on machine).1 = ended (workingDirectory machine)
      ((ruledSettings machine root overrides).map (forget overrides)) := by
    rw [(fromEnvironment_meets root overrides machine).1, read_layered _ _ distinct noRoot]
    rfl
  refine ⟨result, fun settings byRule => ?_,
    fun version arguments rest generates unused =>
      run_meets version machine generates unused,
    fun uses settings read => (settingsOf_meets machine uses).2 settings read⟩
  rw [result, byRule, ← anchored_forget_iff]
  exact ⟨Except.ok.inj, congrArg Except.ok⟩

/-- A machine whose environment turns generation on. -/
def switchedOn : Machine :=
  Machine.fresh { environment := [("GLIDE_BUILD_PROTO", "1")] } Disk.empty

/-- An override that is null keeps generation off. -/
theorem null_hides_switch :
    (∃ settings, ruledSettings switchedOn (.text "/p") [("proto_enabled", .null)] = .ok settings ∧
      settings.enabled = true ∧
        ((fromEnvironment (.text "/p") [("proto_enabled", .null)]).on switchedOn).1 ≠
          .ok (settings.anchored (workingDirectory switchedOn))) ∧
      ((run "0.1.0" ["generate"]).on switchedOn).2.disk = switchedOn.disk := by
  obtain ⟨-, iff, fromArguments, -⟩ := settings_by_rule_but_null switchedOn (.text "/p")
    [("proto_enabled", .null)] (by decide) rfl
  refine ⟨?_, fromArguments _ _ [] (by decide +kernel) (by decide +kernel)⟩
  have readable : (ruledSettings switchedOn (.text "/p") [("proto_enabled", .null)]).map
      Settings.enabled = .ok true := by decide +kernel
  cases byRule : ruledSettings switchedOn (.text "/p") [("proto_enabled", .null)] with
  | error invalid =>
    rw [byRule] at readable
    cases readable
  | ok settings =>
    rw [byRule] at readable
    have enabled : settings.enabled = true := Except.ok.inj readable
    refine ⟨settings, rfl, enabled, fun same => ?_⟩
    have off := ((iff settings byRule).mp same).1 rfl
    rw [enabled] at off
    cases off

end Bindery.CommandLine
