/-
This file is about actions that keep to certain paths.

Such an action is made of calls about allowed paths alone, and what it does next depends on nothing
but what these calls gave. So whatever machine it runs on, all that becomes of the disk is that
files are written by allowed paths, and every refusal names an allowed path. As every call that
reads or writes can be due to fail, the paths of refusals are those that are read or written.
-/

import Bindery.Proofs.Machine.Failures

namespace Bindery

/-- A disk comes from another one by writing to files by allowed paths. -/
inductive Disk.WrittenBy (allowed : Path → Prop) (here : Place) (disk : Disk) : Disk → Prop
  | same : WrittenBy allowed here disk disk
  | wrote {between after : Disk} (before : WrittenBy allowed here disk between) {path : Path}
    (isAllowed : allowed path) {bytes : List UInt8}
    (written : between.writeFile here path bytes = .ok after) : WrittenBy allowed here disk after

theorem Disk.WrittenBy.trans {allowed : Path → Prop} {here : Place} {first second third : Disk}
    (start : WrittenBy allowed here first second) (rest : WrittenBy allowed here second third) :
    WrittenBy allowed here first third := by
  induction rest with
  | same => exact start
  | wrote _ isAllowed written inductionHypothesis =>
    exact inductionHypothesis.wrote isAllowed written

namespace Action

variable {α β : Type} {allowed : Path → Prop} {action : Action α} {machine : Machine}

/-- An action reads, writes and asks for nothing but what allowed paths lead to. -/
inductive KeepsTo (allowed : Path → Prop) : {α : Type} → Action α → Prop
  | pure {α : Type} (value : α) : KeepsTo allowed (Pure.pure value : Action α)
  | bind {α β : Type} {action : Action α} {next : α → Action β} (first : KeepsTo allowed action)
    (rest : ∀ value, KeepsTo allowed (next value)) : KeepsTo allowed (action >>= next)
  | readText {path : Path} (isAllowed : allowed path) : KeepsTo allowed (readText path)
  | writeText {path : Path} (isAllowed : allowed path) (text : String) :
    KeepsTo allowed (writeText path text)
  | pathExists {path : Path} (isAllowed : allowed path) : KeepsTo allowed (pathExists path)

/-- What a run comes to that keeps to allowed paths. -/
structure Kept (allowed : Path → Prop) (machine : Machine) (result : Except Failure α)
    (after : Machine) : Prop where
  host : after.host = machine.host
  keeps : machine.Keeps .discard after
  written : machine.disk.WrittenBy allowed machine.host.here after.disk
  refused : ∀ fault, result = .error (.system fault) →
    ∃ path, allowed path ∧ fault.paths = [path.text]

/-! ### Single calls -/

theorem kept_readText {path : Path} (isAllowed : allowed path) (machine : Machine) :
    (readText path).Meets machine (Kept allowed machine) := by
  refine (readText_meets path machine).mono ?_
  rintro result after ⟨rfl, read⟩
  refine ⟨rfl, ⟨rfl, rfl⟩, .same, fun fault same => ⟨path, isAllowed, ?_⟩⟩
  cases read with
  | refused code =>
    cases same
    rfl
  | unusable | undecodable | read => cases same

theorem kept_writeText {path : Path} (isAllowed : allowed path) (text : String)
    (machine : Machine) : (writeText path text).Meets machine (Kept allowed machine) := by
  refine (attempt_meets .write [path] _ machine).mono fun result after ended => ?_
  cases ended with
  | refused code =>
    refine ⟨rfl, ⟨rfl, rfl⟩, .same, fun fault same => ⟨path, isAllowed, ?_⟩⟩
    cases same
    rfl
  | unusable => exact ⟨rfl, ⟨rfl, rfl⟩, .same, fun fault impossible => by cases impossible⟩
  | done disk _ written =>
    exact ⟨rfl, ⟨rfl, rfl⟩, .wrote .same isAllowed written,
      fun fault impossible => by cases impossible⟩

theorem kept_pathExists {path : Path} (isAllowed : allowed path) (machine : Machine) :
    (pathExists path).Meets machine (Kept allowed machine) := by
  unfold Meets
  rw [on_pathExists]
  refine ⟨rfl, .refl _ machine, .same, fun fault same => ⟨path, isAllowed, ?_⟩⟩
  cases answered : answer machine path with
  | ok found =>
    rw [answered] at same
    cases same
  | error failure =>
    rw [answered] at same
    obtain ⟨code, refusal, -⟩ := answer_fails answered
    cases refusal.symm.trans (Except.error.inj same)
    rfl

/-! ### Runs -/

theorem Kept.bind {next : α → Action β} (first : action.Meets machine (Kept allowed machine))
    (rest : ∀ value between, (next value).Meets between (Kept allowed between)) :
    (action >>= next).Meets machine (Kept allowed machine) := by
  refine Meets.bind first ?_ ?_
  · intro value between kept
    refine (rest value between).mono fun result after again => ?_
    have more := again.written
    rw [kept.host] at more
    exact ⟨again.host.trans kept.host, kept.keeps.trans again.keeps,
      kept.written.trans more, again.refused⟩
  · intro failure between kept
    exact ⟨kept.host, kept.keeps, kept.written, fun fault same =>
      kept.refused fault (congrArg Except.error (Except.error.inj same))⟩

/-- An action that keeps to allowed paths does so on every machine. -/
theorem KeepsTo.kept (keeps : KeepsTo allowed action) (machine : Machine) :
    action.Meets machine (Kept allowed machine) := by
  induction keeps generalizing machine with
  | pure value => exact ⟨rfl, .refl _ machine, .same, fun fault impossible => by cases impossible⟩
  | bind _ _ first rest => exact Kept.bind (first machine) rest
  | readText isAllowed => exact kept_readText isAllowed machine
  | writeText isAllowed text => exact kept_writeText isAllowed text machine
  | pathExists isAllowed => exact kept_pathExists isAllowed machine

end Action

end Bindery
