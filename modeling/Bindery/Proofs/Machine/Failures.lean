/-
This file tells in which ways actions can fail, whatever machine they run on.

The failures of a sequence are those of its parts; those of a part whose outcome is looked at are
in the hands of whoever looks. A call to the system fails because the system refuses it, or because
a path cannot be handed over, and what is made of such calls alone fails in no other way. Records,
and questions about what lies at a path itself, never fail.
-/

import Bindery.Proofs.Machine.Nulls

namespace Bindery.Action

variable {α β : Type} {action : Action α} {kind : Failure → Prop}

/-! ### Kinds of failures -/

/-- Whatever machine an action runs on, its failure, if there is one, is of a kind. -/
def FailsOnly (action : Action α) (kind : Failure → Prop) : Prop :=
  ∀ machine, action.Meets machine fun result _ => ∀ failure, result = .error failure → kind failure

theorem failsOnly_pure (value : α) : FailsOnly (pure value) kind := fun _ _ impossible => by
  cases impossible

theorem failsOnly_throw {failure : Failure} (holds : kind failure) :
    FailsOnly (throw failure : Action α) kind := fun _ _ same => Except.error.inj same ▸ holds

theorem FailsOnly.mono {wider : Failure → Prop} (fails : FailsOnly action kind)
    (widen : ∀ failure, kind failure → wider failure) : FailsOnly action wider := fun machine =>
  (fails machine).mono fun _ _ ended failure same => widen failure (ended failure same)

theorem FailsOnly.bind {next : α → Action β} (first : FailsOnly action kind)
    (rest : ∀ value, FailsOnly (next value) kind) : FailsOnly (action >>= next) kind :=
  fun machine => (first machine).bind (fun value between _ => rest value between)
    fun failure _ ended _ same =>
    Except.error.inj same ▸ ended failure rfl

/-- Whoever looks at the outcome of an action meets only failures of its kind. -/
theorem FailsOnly.outcome_bind {other : Failure → Prop} {next : Except Failure α → Action β}
    (first : FailsOnly action other)
    (rest : ∀ result, (∀ failure, result = .error failure → other failure) →
      FailsOnly (next result) kind) : FailsOnly (action.outcome >>= next) kind := fun machine =>
  (first machine).outcome_bind fun result between ended => rest result ended between

theorem failsOnly_get_bind {next : Machine → Action β}
    (rest : ∀ machine, FailsOnly (next machine) kind) : FailsOnly (get >>= next) kind :=
  fun machine => rest machine machine

theorem failsOnly_set_bind {other : Machine} {next : PUnit → Action β}
    (rest : FailsOnly (next ⟨⟩) kind) : FailsOnly (set other >>= next) kind := fun _ => rest other

/-! ### Calls to the system -/

/-- A failure of calls to the system: it refuses, or a path cannot be handed over. The latter is
known to happen only under a condition. -/
inductive OfCalls (null : Prop) : Failure → Prop
  | refused (fault : SystemFault) : OfCalls null (.system fault)
  | unusable (holds : null) : OfCalls null (.value .embeddedNull)

theorem OfCalls.mono {null wider : Prop} (widen : null → wider) {failure : Failure}
    (ofCalls : OfCalls null failure) : OfCalls wider failure := by
  cases ofCalls with
  | refused fault => exact .refused fault
  | unusable holds => exact .unusable (widen holds)

/-- Calls whose paths can all be handed over are refused, or they do not fail. -/
theorem OfCalls.refusal {null : Prop} {failure : Failure} (ofCalls : OfCalls null failure)
    (usable : ¬ null) : ∃ fault, failure = .system fault := by
  cases ofCalls with
  | refused fault => exact ⟨fault, rfl⟩
  | unusable holds => exact absurd holds usable

theorem failsOnly_attempt (kind : Primitive) (paths : List Path)
    (operation : Disk → Place → Except Errno Disk) :
    FailsOnly (do due kind paths; change paths operation)
      (OfCalls (paths.any holdsNull = true)) := fun machine =>
  (attempt_meets kind paths operation machine).mono fun result after ended => by
    cases ended with
    | refused code =>
      intro failure same
      cases same
      exact .refused _
    | unusable null =>
      intro failure same
      cases same
      exact .unusable null
    | done => exact fun failure impossible => by cases impossible

theorem failsOnly_log (level : Log.Level) (content : Content) :
    FailsOnly (log level content) kind := fun machine =>
  (log_logged level content machine).mono fun _ _ ended failure same => by
    cases ended.1.symm.trans same

theorem failsOnly_entryAt? (path : Path) : FailsOnly (entryAt? path) kind := by
  intro machine
  unfold Meets
  rw [on_entryAt?]
  intro failure impossible
  cases impossible

/-- What a path leads to is withheld: a name on the way is too long, or the path itself, or the
process may not look. -/
structure Withheld (machine : Machine) (path : Path) (code : Errno) : Prop where
  refused : machine.look true path = .error code
  reason : code = Errno.nameTooLong ∨ code = Errno.accessDenied

theorem Withheld.somewhere {machine : Machine} {path : Path} {code : Errno}
    (withheld : Withheld machine path code) : leadsNowhere code = false := by
  rcases withheld.reason with rfl | rfl <;> decide

/-- Records do not change what is withheld. -/
theorem Withheld.logged {before after : Machine} {path : Path} {code : Errno}
    (withheld : Withheld before path code) (logged : before.Logged after) :
    Withheld after path code :=
  ⟨look_congr logged.follows.host logged.disk ▸ withheld.refused, withheld.reason⟩

/-- What is withheld is not said to be missing. -/
theorem Withheld.ne_noEntry {machine : Machine} {path : Path} {code : Errno}
    (withheld : Withheld machine path code) : code ≠ Errno.noEntry := by
  rintro rfl
  exact absurd withheld.somewhere (by decide)

theorem not_withheld_of_look {machine : Machine} {path : Path} {node : Node}
    (found : machine.look true path = .ok node) (code : Errno) : ¬ Withheld machine path code := by
  intro withheld
  cases found.symm.trans withheld.refused

/-- Unless it is withheld, a look shows what the disk holds, and no name on the way is too long. -/
theorem look_of_not_withheld {machine : Machine} {path : Path}
    (shown : ∀ code, ¬ Withheld machine path code) :
    machine.look true path = machine.disk.nodeAt machine.host.here true path ∧
      machine.disk.nodeAt machine.host.here true path ≠ .error Errno.nameTooLong := by
  have same : machine.look true path = machine.disk.nodeAt machine.host.here true path := by
    unfold Machine.look
    split
    next barred => exact absurd ⟨if_pos barred, .inr rfl⟩ (shown Errno.accessDenied)
    next => rfl
  exact ⟨same, fun tooLong => shown _ ⟨same.trans tooLong, .inl rfl⟩⟩

/-- A question about a path fails only if the answer is withheld: the other refusals say that the
path leads nowhere. -/
theorem answer_fails {machine : Machine} {path : Path} {failure : Failure}
    (failed : answer machine path = .error failure) :
    ∃ code, failure = .system ⟨code, [path.text]⟩ ∧ Withheld machine path code := by
  obtain ⟨code, refused, rfl, somewhere⟩ := answer_eq_error failed
  refine ⟨code, rfl, refused, ?_⟩
  rcases look_eq_error refused with ⟨-, rfl⟩ | missing
  · exact .inr rfl
  · rcases Disk.nodeAt_astray missing with rfl | rfl | rfl | rfl
    · exact absurd somewhere (by decide)
    · exact absurd somewhere (by decide)
    · exact absurd somewhere (by decide)
    · exact .inl rfl

/-- A question whose answer is withheld fails. -/
theorem answer_of_withheld {machine : Machine} {path : Path} {code : Errno}
    (usable : holdsNull path = false) (withheld : Withheld machine path code) :
    answer machine path = .error (.system ⟨code, [path.text]⟩) := by
  unfold answer
  rw [usable, if_neg Bool.false_ne_true, withheld.refused]
  exact if_neg (Bool.eq_false_iff.mp withheld.somewhere)

/-- What is asked about a path is answered, or the system refuses. -/
theorem failsOnly_isDirectory {null : Prop} (path : Path) :
    FailsOnly (isDirectory path) (OfCalls null) := by
  intro machine
  unfold Meets
  rw [on_isDirectory]
  intro failure same
  cases answered : answer machine path with
  | ok found =>
    rw [answered] at same
    cases same
  | error other =>
    rw [answered] at same
    cases same
    obtain ⟨code, -, rfl, -⟩ := answer_eq_error answered
    exact .refused _

/-! ### Why the system refuses -/

/-- A call is refused because it is due to fail, because a path is hidden, or because its operation
is refused. -/
theorem attempt_refused (kind : Primitive) (paths : List Path)
    (operation : Disk → Place → Except Errno Disk) (machine : Machine) :
    (do due kind paths; change paths operation : Action Unit).Meets machine fun result _ =>
      ∀ fault, result = .error (.system fault) →
        machine.schedule kind (machine.calls kind + 1) = some fault.code ∨
          fault.code = Errno.accessDenied ∨
            operation machine.disk machine.host.here = .error fault.code := by
  unfold Meets
  rw [on_bind, on_due]
  cases scheduled : machine.schedule kind (machine.calls kind + 1) with
  | some code =>
    intro fault same
    cases same
    exact .inl rfl
  | none =>
    intro fault same
    dsimp only at same
    rw [on_change] at same
    split at same
    next => cases same
    next =>
      split at same
      next =>
        cases same
        exact .inr (.inl rfl)
      next =>
        split at same
        next => cases same
        next code refused =>
          cases same
          exact .inr (.inr refused)

/-- Reading a text is refused because it is due to fail, because the path is hidden, or because the
file cannot be read. -/
theorem readText_refused (path : Path) (machine : Machine) :
    (readText path).Meets machine fun result _ =>
      ∀ fault, result = .error (.system fault) →
        machine.schedule .read (machine.calls .read + 1) = some fault.code ∨
          fault.code = Errno.accessDenied ∨
            machine.disk.readFile machine.host.here path = .error fault.code := by
  have counted : (due .read [path]).Meets machine fun result between =>
      between = machine.counted .read ∧ ∀ fault, result = .error (.system fault) →
        machine.schedule .read (machine.calls .read + 1) = some fault.code := by
    unfold Meets
    rw [on_due]
    cases machine.schedule .read (machine.calls .read + 1) with
    | some code => exact ⟨rfl, fun fault same => by cases same; rfl⟩
    | none => exact ⟨rfl, fun fault same => by cases same⟩
  unfold readText
  refine counted.bind ?_ ?_
  · rintro _ between ⟨rfl, -⟩
    unfold Meets
    rw [on_bind, on_inspect]
    cases holdsNull path with
    | true => exact fun fault same => by cases same
    | false =>
      cases (machine.counted .read).hides path with
      | true => exact fun fault same => .inr (.inl (by cases same; rfl))
      | false =>
        simp only [Bool.false_eq_true, if_false, Machine.counted_disk, Machine.counted_host]
        cases there : machine.disk.readFile machine.host.here path with
        | error code => exact fun fault same => .inr (.inr (by cases same; rfl))
        | ok bytes =>
          dsimp only [Except.mapError]
          cases Text.textOf bytes with
          | error fault => exact fun fault same => by cases same
          | ok source => exact fun fault same => by cases same
  · exact fun failure between held fault same =>
      .inl (held.2 fault (by rw [Except.error.inj same]))

/-- Writing a text is refused because it is due to fail, because the path is hidden, or because the
file cannot be written. -/
theorem writeText_refused (path : Path) (text : String) (machine : Machine) :
    (writeText path text).Meets machine fun result _ =>
      ∀ fault, result = .error (.system fault) → fault.paths = [path.text] ∧
        (machine.schedule .write (machine.calls .write + 1) = some fault.code ∨
          fault.code = Errno.accessDenied ∨
            machine.disk.writeFile machine.host.here path (Text.bytesOf text) =
              .error fault.code) := by
  have caused := attempt_refused .write [path]
    (fun disk here => disk.writeFile here path (Text.bytesOf text)) machine
  refine ((attempt_meets .write _ _ machine).and caused).mono ?_
  rintro result after ⟨ended, cause⟩ fault same
  refine ⟨?_, cause fault same⟩
  cases ended with
  | refused code =>
    cases same
    rfl
  | unusable | done => cases same

/-- That nothing is there is not said because a path is hidden. -/
theorem cause_of_noEntry {scheduled refused : Prop} {code : Errno} (absent : code = Errno.noEntry)
    (cause : scheduled ∨ code = Errno.accessDenied ∨ refused) : scheduled ∨ refused := by
  subst absent
  exact cause.imp_right fun other => other.resolve_left (by decide)

/-! ### Calls that are due to fail -/

/-- An action leaves the calls that are due to fail as they are. -/
def KeepsSchedule (action : Action α) : Prop :=
  ∀ machine, action.Meets machine fun _ after => after.schedule = machine.schedule

theorem keepsSchedule_pure (value : α) : KeepsSchedule (pure value) := fun _ => rfl

theorem KeepsSchedule.bind {next : α → Action β} (first : KeepsSchedule action)
    (rest : ∀ value, KeepsSchedule (next value)) : KeepsSchedule (action >>= next) :=
  fun machine => (first machine).bind
    (fun value between same => (rest value between).mono fun _ _ again => again.trans same)
    fun _ _ same => same

theorem keepsSchedule_attempt (kind : Primitive) (paths : List Path)
    (operation : Disk → Place → Except Errno Disk) :
    KeepsSchedule (do due kind paths; change paths operation) := fun machine =>
  (attempt_meets kind paths operation machine).mono fun _ _ ended => by
    cases ended with
    | refused | unusable | done => rfl

/-! ### Making directories -/

theorem failsOnly_makeDirectory (path : Path) (mode : Mode) :
    FailsOnly (makeDirectory path mode) (OfCalls (holdsNull path = true)) :=
  (failsOnly_attempt .makeDirectory [path] _).mono fun _ ofCalls => ofCalls.mono (by simp)

theorem failsOnly_orThere {null : Prop} (path : Path) {failure : Failure}
    (ofCalls : OfCalls null failure) : FailsOnly (orThere path failure) (OfCalls null) := by
  refine (failsOnly_isDirectory path).bind fun isDirectory => ?_
  split
  next => exact failsOnly_pure _
  next => exact failsOnly_throw ofCalls

/-- The directories above a path hold none of the characters that it does not hold. -/
theorem holdsNull_of_parent {path : Path} (null : holdsNull path.parent = true) :
    holdsNull path = true := by
  obtain ⟨part, member, inPart⟩ := (holdsNull_iff _).mp null
  exact (holdsNull_iff _).mpr ⟨part, List.dropLast_subset _ member, inPart⟩

theorem failsOnly_makeDirectoriesUpTo (depth : Nat) (path : Path) :
    FailsOnly (makeDirectoriesUpTo depth path) (OfCalls (holdsNull path = true)) := by
  induction depth generalizing path with
  | zero =>
    unfold makeDirectoriesUpTo
    refine (failsOnly_makeDirectory path _).outcome_bind fun result ended => ?_
    split
    next => exact failsOnly_pure _
    next fault =>
      split
      next => exact failsOnly_throw (ended _ rfl)
      next => exact failsOnly_orThere path (ended _ rfl)
    next => exact failsOnly_throw (ended _ rfl)
  | succ depth inductionHypothesis =>
    unfold makeDirectoriesUpTo
    refine (failsOnly_makeDirectory path _).outcome_bind fun result ended => ?_
    split
    next => exact failsOnly_pure _
    next fault =>
      split
      next =>
        have above := (inductionHypothesis path.parent).mono fun _ ofCalls =>
          ofCalls.mono holdsNull_of_parent
        refine above.bind fun _ => ?_
        refine (failsOnly_makeDirectory path _).outcome_bind fun again endedAgain => ?_
        split
        next => exact failsOnly_pure _
        next =>
          split
          next => exact failsOnly_throw (endedAgain _ rfl)
          next => exact failsOnly_orThere path (endedAgain _ rfl)
        next => exact failsOnly_throw (endedAgain _ rfl)
      next => exact failsOnly_orThere path (ended _ rfl)
    next => exact failsOnly_throw (ended _ rfl)

theorem failsOnly_makeTemporaryUpTo (parent : Path) (front : String) (attempts : Nat) :
    FailsOnly (makeTemporaryUpTo parent front attempts)
      (OfCalls (∃ number, holdsNull (parent.down [front ++ temporaryDigits number]) = true)) := by
  induction attempts with
  | zero => exact failsOnly_throw (.refused _)
  | succ attempts inductionHypothesis =>
    unfold makeTemporaryUpTo
    refine failsOnly_get_bind fun machine => failsOnly_set_bind ?_
    have attempt : FailsOnly (do
        due .makeTemporary [parent.down [front ++ temporaryDigits machine.nextTemporary]]
        change [parent.down [front ++ temporaryDigits machine.nextTemporary]] fun disk here =>
          disk.makeDirectory here (parent.down [front ++ temporaryDigits machine.nextTemporary])
            temporaryMode)
        (OfCalls (∃ number, holdsNull (parent.down [front ++ temporaryDigits number]) = true)) :=
      (failsOnly_attempt .makeTemporary _ _).mono fun _ ofCalls =>
        ofCalls.mono fun null => ⟨machine.nextTemporary, by simpa using null⟩
    refine attempt.outcome_bind fun result ended => ?_
    split
    next => exact failsOnly_pure _
    next fault =>
      split
      next => exact inductionHypothesis
      next => exact failsOnly_throw (ended _ rfl)
    next => exact failsOnly_throw (ended _ rfl)

end Bindery.Action
