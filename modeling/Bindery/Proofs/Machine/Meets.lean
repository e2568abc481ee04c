/-
This file states what a run of an action brings about.

An action meets a condition on a machine when the condition holds of its outcome and of the
machine that it leaves. What a sequence of actions meets follows from what its parts meet, one
part at a time: a part that fails ends the sequence, and what it did before stays done. The
failures of a part are values to whoever asks for them, and a part that runs in any case runs
after both endings.
-/

import Bindery.Machine.Basic

namespace Bindery.Action

deriving instance DecidableEq for Except

variable {α β : Type}

/-! ### Runs of composed actions -/

theorem on_get (machine : Machine) :
    (get : Action Machine).on machine = (.ok machine, machine) := rfl

theorem on_set (machine other : Machine) :
    (set other : Action Unit).on machine = (.ok (), other) := rfl

/-- What follows an action runs only when the action gave a value. -/
theorem on_bind (action : Action α) (next : α → Action β) (machine : Machine) :
    (action >>= next).on machine =
      match (action.on machine).1 with
      | .ok value => (next value).on (action.on machine).2
      | .error failure => (.error failure, (action.on machine).2) := by
  show (ExceptT.bindCont next (action.on machine).1 (action.on machine).2 :
    Except Failure β × Machine) = _
  cases (action.on machine).1 <;> rfl

theorem on_bind_of_ok {action : Action α} {machine between : Machine} {value : α}
    (ran : action.on machine = (.ok value, between)) (next : α → Action β) :
    (action >>= next).on machine = (next value).on between := by
  rw [on_bind, ran]

theorem on_bind_of_error {action : Action α} {machine between : Machine} {failure : Failure}
    (ran : action.on machine = (.error failure, between)) (next : α → Action β) :
    (action >>= next).on machine = (.error failure, between) := by
  rw [on_bind, ran]

/-- A sequence that gives a value has gone through a value of its first part. -/
theorem exists_of_on_bind {action : Action α} {next : α → Action β} {machine after : Machine}
    {value : β} (ran : (action >>= next).on machine = (.ok value, after)) :
    ∃ first between, action.on machine = (.ok first, between) ∧
      (next first).on between = (.ok value, after) := by
  rw [on_bind] at ran
  cases ended : action.on machine with
  | mk result between =>
    rw [ended] at ran
    cases result with
    | ok first => exact ⟨first, between, rfl, ran⟩
    | error failure => cases ran

/-- A sequence that fails has failed in its first part, or has gone through a value of it. -/
theorem error_of_on_bind {action : Action α} {next : α → Action β} {machine after : Machine}
    {failure : Failure} (ran : (action >>= next).on machine = (.error failure, after)) :
    action.on machine = (.error failure, after) ∨
      ∃ first between, action.on machine = (.ok first, between) ∧
        (next first).on between = (.error failure, after) := by
  rw [on_bind] at ran
  cases ended : action.on machine with
  | mk result between =>
    rw [ended] at ran
    cases result with
    | ok first => exact .inr ⟨first, between, rfl, ran⟩
    | error other =>
      cases ran
      exact .inl rfl

/-- A failure that is caught is handled on the machine that the failed action left. -/
theorem on_tryCatch (action : Action α) (handle : Failure → Action α) (machine : Machine) :
    (tryCatch action handle).on machine =
      match (action.on machine).1 with
      | .ok value => (.ok value, (action.on machine).2)
      | .error failure => (handle failure).on (action.on machine).2 := by
  obtain ⟨result, after, ran⟩ : ∃ result after, action.on machine = (result, after) :=
    ⟨_, _, rfl⟩
  rw [ran]
  have started : (action : StateM Machine (Except Failure α)) machine = (result, after) := ran
  show ExceptT.tryCatch action handle machine = _
  simp only [ExceptT.tryCatch, ExceptT.mk, bind, StateT.bind, started]
  cases result <;> rfl

/-- Asking for the outcome of an action never fails. -/
theorem on_outcome (action : Action α) (machine : Machine) :
    action.outcome.on machine = (.ok (action.on machine).1, (action.on machine).2) := by
  have mapped : (Except.ok <$> action : Action (Except Failure α)).on machine =
      match (action.on machine).1 with
      | .ok value => (.ok (.ok value), (action.on machine).2)
      | .error failure => (.error failure, (action.on machine).2) := by
    rw [map_eq_pure_bind, on_bind]
    cases (action.on machine).1 <;> rfl
  unfold outcome
  rw [on_tryCatch, mapped]
  cases (action.on machine).1 <;> rfl

/-- What runs in any case decides the outcome only if it fails itself. -/
theorem on_andFinally (action : Action α) (last : Action Unit) (machine : Machine) :
    (action.andFinally last).on machine =
      match last.on (action.on machine).2 with
      | (.ok _, after) => ((action.on machine).1, after)
      | (.error failure, after) => (.error failure, after) := by
  unfold andFinally
  rw [on_bind, on_outcome]
  dsimp only
  rw [on_bind]
  cases last.on (action.on machine).2 with
  | mk final after =>
    cases final with
    | error failure => rfl
    | ok value => cases (action.on machine).1 <;> rfl

/-- A failure in the end is that of the action, or of what runs in any case. -/
theorem error_of_on_andFinally {action : Action α} {last : Action Unit} {machine after : Machine}
    {failure : Failure} (ran : (action.andFinally last).on machine = (.error failure, after)) :
    ∃ result between, action.on machine = (result, between) ∧
      (result = .error failure ∧ last.on between = (.ok (), after) ∨
        last.on between = (.error failure, after)) := by
  rw [on_andFinally] at ran
  refine ⟨(action.on machine).1, (action.on machine).2, rfl, ?_⟩
  cases ended : last.on (action.on machine).2 with
  | mk final left =>
    rw [ended] at ran
    obtain ⟨same, rfl⟩ := Prod.mk.inj ran
    cases final with
    | ok _ => exact .inl ⟨same, rfl⟩
    | error other =>
      cases same
      exact .inr rfl

/-- A run, by its outcome. -/
theorem on_eq {action : Action α} {machine : Machine} {result : Except Failure α}
    (ended : (action.on machine).1 = result) :
    action.on machine = (result, (action.on machine).2) := by
  rw [← ended]

/-! ### Conditions on runs -/

/-- A condition holds of the outcome of an action and of the machine afterwards. -/
def Meets (action : Action α) (machine : Machine)
    (condition : Except Failure α → Machine → Prop) : Prop :=
  condition (action.on machine).1 (action.on machine).2

variable {action : Action α} {machine : Machine}

/-- What an action meets holds of every pair of outcome and machine that it is known to run to. -/
theorem Meets.of_on {condition : Except Failure α → Machine → Prop}
    (met : action.Meets machine condition) {result : Except Failure α} {after : Machine}
    (ran : action.on machine = (result, after)) : condition result after := by
  unfold Meets at met
  rwa [ran] at met

/-- Every run meets the condition that it is that run. -/
theorem meets_on (action : Action α) (machine : Machine) :
    action.Meets machine fun result after => action.on machine = (result, after) := rfl

theorem Meets.mono {condition weaker : Except Failure α → Machine → Prop}
    (met : action.Meets machine condition)
    (weaken : ∀ result after, condition result after → weaker result after) :
    action.Meets machine weaker :=
  weaken _ _ met

/-- An action meets two conditions when it meets each of them. -/
theorem Meets.and {condition other : Except Failure α → Machine → Prop}
    (met : action.Meets machine condition) (metOther : action.Meets machine other) :
    action.Meets machine fun result after => condition result after ∧ other result after :=
  ⟨met, metOther⟩

theorem meets_throw {failure : Failure} {condition : Except Failure α → Machine → Prop} :
    (throw failure : Action α).Meets machine condition ↔ condition (.error failure) machine :=
  Iff.rfl

theorem meets_get_bind {next : Machine → Action β} {condition : Except Failure β → Machine → Prop} :
    (get >>= next).Meets machine condition ↔ (next machine).Meets machine condition := Iff.rfl

theorem meets_set_bind {other : Machine} {next : PUnit → Action β}
    {condition : Except Failure β → Machine → Prop} :
    (set other >>= next).Meets machine condition ↔ (next ⟨⟩).Meets other condition := Iff.rfl

/-- The rule for sequences: the second part starts from what the first one is known to meet. -/
theorem Meets.bind {next : α → Action β} {middle : Except Failure α → Machine → Prop}
    {condition : Except Failure β → Machine → Prop} (first : action.Meets machine middle)
    (continued : ∀ value between, middle (.ok value) between →
      (next value).Meets between condition)
    (failed : ∀ failure between, middle (.error failure) between →
      condition (.error failure) between) :
    (action >>= next).Meets machine condition := by
  unfold Meets at *
  rw [on_bind]
  cases ended : (action.on machine).1 with
  | ok value =>
    rw [ended] at first
    exact continued value _ first
  | error failure =>
    rw [ended] at first
    exact failed failure _ first

/-- The rule for outcomes that are looked at: both endings go on. -/
theorem Meets.outcome_bind {next : Except Failure α → Action β}
    {middle : Except Failure α → Machine → Prop} {condition : Except Failure β → Machine → Prop}
    (first : action.Meets machine middle)
    (continued : ∀ result between, middle result between →
      (next result).Meets between condition) :
    (action.outcome >>= next).Meets machine condition := by
  have asked : action.outcome.Meets machine fun result between =>
      ∃ ended, result = .ok ended ∧ middle ended between := by
    unfold Meets
    rw [on_outcome]
    exact ⟨_, rfl, first⟩
  refine asked.bind ?_ ?_
  · rintro value between ⟨ended, same, held⟩
    cases same
    exact continued _ _ held
  · rintro failure between ⟨ended, same, _⟩
    cases same

/-- The rule for failures that are caught. -/
theorem Meets.tryCatch {handle : Failure → Action α}
    {middle condition : Except Failure α → Machine → Prop} (first : action.Meets machine middle)
    (succeeded : ∀ value between, middle (.ok value) between → condition (.ok value) between)
    (handled : ∀ failure between, middle (.error failure) between →
      (handle failure).Meets between condition) :
    (MonadExcept.tryCatch action handle).Meets machine condition := by
  unfold Meets at *
  show condition ((MonadExceptOf.tryCatch action handle : Action α).on machine).1
    ((MonadExceptOf.tryCatch action handle : Action α).on machine).2
  rw [show (MonadExceptOf.tryCatch action handle : Action α).on machine = _ from
    on_tryCatch action handle machine]
  cases ended : (action.on machine).1 with
  | ok value =>
    rw [ended] at first
    exact succeeded value _ first
  | error failure =>
    rw [ended] at first
    exact handled failure _ first

/-- The rule for what runs in any case: when it does not fail itself, the outcome is that of the
action before it. -/
theorem Meets.andFinally {last : Action Unit} {middle condition : Except Failure α → Machine → Prop}
    (first : action.Meets machine middle)
    (ended : ∀ result between, middle result between → last.Meets between fun final after =>
      match final with
      | .ok () => condition result after
      | .error failure => condition (.error failure) after) :
    (action.andFinally last).Meets machine condition := by
  unfold Action.andFinally
  refine first.outcome_bind fun result between held => ?_
  refine (ended result between held).bind (fun _ after settled => ?_) fun _ _ failed => failed
  cases result with
  | ok value => exact settled
  | error failure => exact settled

end Bindery.Action
