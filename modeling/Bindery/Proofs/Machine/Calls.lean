/-
This file states what a single call to the system can do to a machine.

A call is counted, and then it is refused, or it cannot be handed over at all because a path
holds the character that ends texts, or it is carried out and changes nothing but the disk. Nothing
else can happen, whatever the schedule of failures says. Questions about paths and log records
leave the disk as it is.
-/

import Bindery.Proofs.Machine.Meets

namespace Bindery

/-! ### Machines that go on from others -/

namespace Machine

/-- The machine after one more call of a kind. -/
def counted (machine : Machine) (kind : Primitive) : Machine :=
  { machine with
    calls := fun each => if each = kind then machine.calls kind + 1 else machine.calls each }

@[simp] theorem counted_disk (machine : Machine) (kind : Primitive) :
    (machine.counted kind).disk = machine.disk := rfl

@[simp] theorem counted_host (machine : Machine) (kind : Primitive) :
    (machine.counted kind).host = machine.host := rfl

@[simp] theorem counted_calls (machine : Machine) (kind : Primitive) :
    (machine.counted kind).calls kind = machine.calls kind + 1 := if_pos rfl

/-- A later state of a machine: the process stays where it is, and no record is taken back. -/
structure Onward (before after : Machine) : Prop where
  host : after.host = before.host
  journal : before.journal <:+ after.journal

/-- A later state of a machine on which no temporary name was taken and nothing was renamed. -/
structure Follows (before after : Machine) : Prop extends Onward before after where
  temporary : after.nextTemporary = before.nextTemporary
  renames : after.calls .rename = before.calls .rename

theorem Onward.refl (machine : Machine) : Onward machine machine := ⟨rfl, List.suffix_refl _⟩

theorem Onward.trans {first second third : Machine} (start : Onward first second)
    (rest : Onward second third) : Onward first third :=
  ⟨rest.host.trans start.host, start.journal.trans rest.journal⟩

theorem Follows.refl (machine : Machine) : Follows machine machine := ⟨.refl machine, rfl, rfl⟩

theorem Follows.trans {first second third : Machine} (start : Follows first second)
    (rest : Follows second third) : Follows first third :=
  ⟨start.toOnward.trans rest.toOnward, rest.temporary.trans start.temporary,
    rest.renames.trans start.renames⟩

/-- A later state of a machine on which nothing was done but to log records. -/
def Logged (before after : Machine) : Prop :=
  ∃ records, after = { before with journal := records ++ before.journal }

theorem Logged.refl (machine : Machine) : Logged machine machine := ⟨[], rfl⟩

theorem Logged.trans {first second third : Machine} (start : Logged first second)
    (rest : Logged second third) : Logged first third := by
  obtain ⟨records, rfl⟩ := start
  obtain ⟨more, rfl⟩ := rest
  exact ⟨more ++ records, by rw [List.append_assoc]⟩

theorem Logged.follows {before after : Machine} (logged : Logged before after) :
    Follows before after := by
  obtain ⟨records, rfl⟩ := logged
  exact ⟨⟨rfl, List.suffix_append _ _⟩, rfl, rfl⟩

theorem Logged.disk {before after : Machine} (logged : Logged before after) :
    after.disk = before.disk := by
  obtain ⟨records, rfl⟩ := logged
  rfl

/-- A later state of a machine on which no call of a kind was made, and on which the same calls are
due to fail. -/
structure Keeps (kind : Primitive) (before after : Machine) : Prop where
  schedule : after.schedule = before.schedule
  calls : after.calls kind = before.calls kind

theorem Keeps.refl (kind : Primitive) (machine : Machine) : Keeps kind machine machine := ⟨rfl, rfl⟩

theorem Keeps.trans {kind : Primitive} {first second third : Machine}
    (start : Keeps kind first second) (rest : Keeps kind second third) : Keeps kind first third :=
  ⟨rest.schedule.trans start.schedule, rest.calls.trans start.calls⟩

theorem Logged.keeps (kind : Primitive) {before after : Machine} (logged : Logged before after) :
    Keeps kind before after := by
  obtain ⟨records, rfl⟩ := logged
  exact ⟨rfl, rfl⟩

/-- A call of a kind was made, and it was due to fail. -/
def Refused (kind : Primitive) (before after : Machine) : Prop :=
  ∃ count, before.calls kind < count ∧ count ≤ after.calls kind ∧
    (before.schedule kind count).isSome = true

theorem Keeps.not_refused {kind : Primitive} {before after : Machine}
    (keeps : Keeps kind before after) : ¬ Refused kind before after := by
  rintro ⟨count, more, notMore, -⟩
  rw [keeps.calls] at notMore
  omega

/-- Where no call of a kind is made before and after, nothing is refused there either. -/
theorem Refused.carry_iff {kind : Primitive} {first before after last : Machine}
    (start : Keeps kind first before) (rest : Keeps kind after last) :
    Refused kind first last ↔ Refused kind before after := by
  unfold Refused
  rw [start.schedule, start.calls, rest.calls]

/-- Counting a call and changing the disk is a later state. -/
theorem onward_counted (machine : Machine) (kind : Primitive) (disk : Disk) :
    Onward machine { machine.counted kind with disk := disk } := ⟨rfl, List.suffix_refl _⟩

theorem follows_counted (machine : Machine) {kind : Primitive} (other : kind ≠ .rename)
    (disk : Disk) : Follows machine { machine.counted kind with disk := disk } :=
  ⟨machine.onward_counted kind disk, rfl, if_neg (Ne.symm other)⟩

end Machine

namespace Action

/-! ### Calls that change the disk -/

/-- How a call that changes the disk can end. -/
inductive Attempted (kind : Primitive) (paths : List Path)
    (operation : Disk → Place → Except Errno Disk) (machine : Machine) :
    Except Failure Unit → Machine → Prop
  /-- The system refuses. -/
  | refused (code : Errno) : Attempted kind paths operation machine
      (.error (.system ⟨code, paths.map Path.text⟩)) (machine.counted kind)
  /-- A path cannot be handed to the system. -/
  | unusable (null : paths.any holdsNull = true) : Attempted kind paths operation machine
      (.error (.value .embeddedNull)) (machine.counted kind)
  /-- The operation is carried out. -/
  | done (disk : Disk) (usable : paths.any holdsNull = false)
      (worked : operation machine.disk machine.host.here = .ok disk)
      (shown : paths.any machine.hides = false) :
      Attempted kind paths operation machine (.ok ())
        { machine.counted kind with disk := disk }

theorem on_due (kind : Primitive) (paths : List Path) (machine : Machine) :
    (due kind paths).on machine =
      match machine.schedule kind (machine.calls kind + 1) with
      | some code => (.error (.system ⟨code, paths.map Path.text⟩), machine.counted kind)
      | none => (.ok (), machine.counted kind) := by
  unfold due
  simp only [on_bind, on_get, on_set]
  cases machine.schedule kind (machine.calls kind + 1) <;> rfl

theorem on_usable (paths : List Path) (machine : Machine) :
    (usable paths).on machine =
      if paths.any holdsNull then (.error (.value .embeddedNull), machine)
      else (.ok (), machine) := by
  unfold usable
  split <;> rfl

theorem on_change (paths : List Path) (operation : Disk → Place → Except Errno Disk)
    (machine : Machine) :
    (change paths operation).on machine =
      if paths.any holdsNull then (.error (.value .embeddedNull), machine)
      else if paths.any machine.hides then
        (.error (.system ⟨Errno.accessDenied, paths.map Path.text⟩), machine)
      else
        match operation machine.disk machine.host.here with
        | .ok disk => (.ok (), { machine with disk := disk })
        | .error code => (.error (.system ⟨code, paths.map Path.text⟩), machine) := by
  unfold change
  cases null : paths.any holdsNull with
  | true => simp only [on_bind, on_usable, null, if_true]
  | false =>
    simp only [on_bind, on_usable, null, on_get, Bool.false_eq_true, if_false]
    cases paths.any machine.hides with
    | true => rfl
    | false => cases operation machine.disk machine.host.here <;> rfl

theorem on_inspect {α : Type} (path : Path) (operation : Disk → Place → Except Errno α)
    (machine : Machine) :
    (inspect path operation).on machine =
      if holdsNull path then (.error (.value .embeddedNull), machine)
      else if machine.hides path then
        (.error (.system ⟨Errno.accessDenied, [path.text]⟩), machine)
      else
        ((operation machine.disk machine.host.here).mapError
          fun code => .system ⟨code, [path.text]⟩, machine) := by
  unfold inspect
  simp only [on_bind, on_usable, List.any_cons, List.any_nil, Bool.or_false]
  cases holdsNull path with
  | true => rfl
  | false =>
    simp only [Bool.false_eq_true, if_false, on_get]
    cases machine.hides path with
    | true => rfl
    | false => cases operation machine.disk machine.host.here <;> rfl

theorem due_meets (kind : Primitive) (paths : List Path) (machine : Machine) :
    (due kind paths).Meets machine fun result after => after = machine.counted kind ∧
      (result = .ok () ∨ ∃ code, result = .error (.system ⟨code, paths.map Path.text⟩)) := by
  unfold Meets
  rw [on_due]
  cases machine.schedule kind (machine.calls kind + 1) with
  | some code => exact ⟨rfl, .inr ⟨code, rfl⟩⟩
  | none => exact ⟨rfl, .inl rfl⟩

/-- Counting a call and then carrying out its operation ends in one of three ways. -/
theorem attempt_meets (kind : Primitive) (paths : List Path)
    (operation : Disk → Place → Except Errno Disk) (machine : Machine) :
    (do due kind paths; change paths operation : Action Unit).Meets machine
      (Attempted kind paths operation machine) := by
  refine (due_meets kind paths machine).bind ?_ ?_
  · rintro value between ⟨rfl, -⟩
    unfold Meets
    rw [on_change]
    cases null : paths.any holdsNull with
    | true => exact .unusable null
    | false =>
      have same : (machine.counted kind).hides = machine.hides := rfl
      rw [if_neg Bool.false_ne_true, same]
      cases shown : paths.any machine.hides with
      | true => exact .refused Errno.accessDenied
      | false =>
        simp only [Bool.false_eq_true, if_false, Machine.counted_disk, Machine.counted_host]
        cases worked : operation machine.disk machine.host.here with
        | ok disk => exact .done disk null worked shown
        | error code => exact .refused code
  · rintro failure between ⟨rfl, impossible | ⟨code, same⟩⟩
    · cases impossible
    · cases same
      exact .refused code

/-- Whatever became of a call, the machine has gone on, and only the disk can have changed. -/
theorem Attempted.onward {kind : Primitive} {paths : List Path}
    {operation : Disk → Place → Except Errno Disk} {before after : Machine}
    {result : Except Failure Unit} (ended : Attempted kind paths operation before result after) :
    before.Onward after ∧ after.nextTemporary = before.nextTemporary := by
  cases ended with
  | refused | unusable => exact ⟨before.onward_counted kind before.disk, rfl⟩
  | done disk => exact ⟨before.onward_counted kind disk, rfl⟩

theorem Attempted.follows {kind : Primitive} {paths : List Path}
    {operation : Disk → Place → Except Errno Disk} {before after : Machine}
    {result : Except Failure Unit} (ended : Attempted kind paths operation before result after)
    (other : kind ≠ .rename) : before.Follows after := by
  cases ended with
  | refused | unusable => exact before.follows_counted other before.disk
  | done disk => exact before.follows_counted other disk

theorem Attempted.keeps {kind other : Primitive} {paths : List Path}
    {operation : Disk → Place → Except Errno Disk} {before after : Machine}
    {result : Except Failure Unit} (ended : Attempted kind paths operation before result after)
    (different : kind ≠ other) : before.Keeps other after := by
  cases ended with
  | refused | unusable | done => exact ⟨rfl, if_neg different.symm⟩

/-- A call whose operation would be carried out is refused only if it is due to fail. -/
theorem attempt_ready_meets {kind : Primitive} {paths : List Path}
    {operation : Disk → Place → Except Errno Disk} {machine : Machine} {disk : Disk}
    (usable : paths.any holdsNull = false) (shown : paths.any machine.hides = false)
    (works : operation machine.disk machine.host.here = .ok disk) :
    (do due kind paths; change paths operation : Action Unit).Meets machine fun result after =>
      match result with
      | .ok () => machine.schedule kind (machine.calls kind + 1) = none ∧
        after = { machine.counted kind with disk := disk }
      | .error _ => (∃ code, machine.schedule kind (machine.calls kind + 1) = some code) ∧
        after = machine.counted kind := by
  unfold Meets
  rw [on_bind, on_due]
  cases scheduled : machine.schedule kind (machine.calls kind + 1) with
  | some code => exact ⟨⟨code, rfl⟩, rfl⟩
  | none =>
    have still : paths.any (machine.counted kind).hides = false := shown
    simp [on_change, usable, still, works]

/-! ### Calls that read -/

/-- How reading a text can end. -/
inductive TextRead (path : Path) (machine : Machine) : Except Failure String → Prop
  /-- The system refuses. -/
  | refused (code : Errno) : TextRead path machine (.error (.system ⟨code, [path.text]⟩))
  /-- The path cannot be handed to the system. -/
  | unusable (null : holdsNull path = true) :
      TextRead path machine (.error (.value .embeddedNull))
  /-- What the file holds is no text. -/
  | undecodable (bytes : List UInt8) (fault : Text.Utf8Fault) (usable : holdsNull path = false)
      (there : machine.disk.readFile machine.host.here path = .ok bytes)
      (decoded : Text.textOf bytes = .error fault) :
      TextRead path machine (.error (.value (.undecodable fault)))
  /-- The text of a file is read. -/
  | read (bytes : List UInt8) (source : String) (usable : holdsNull path = false)
      (there : machine.disk.readFile machine.host.here path = .ok bytes)
      (decoded : Text.textOf bytes = .ok source) (shown : machine.hides path = false) :
      TextRead path machine (.ok (Text.withUnixLines source))

/-- Reading a text counts a call and ends in one of four ways. -/
theorem readText_meets (path : Path) (machine : Machine) :
    (readText path).Meets machine fun result after =>
      after = machine.counted .read ∧ TextRead path machine result := by
  unfold readText
  refine (due_meets .read [path] machine).bind ?_ ?_
  · rintro _ between ⟨rfl, -⟩
    unfold Meets
    have same : (machine.counted .read).hides = machine.hides := rfl
    rw [on_bind, on_inspect, same]
    cases null : holdsNull path with
    | true => exact ⟨rfl, .unusable null⟩
    | false =>
      cases shown : machine.hides path with
      | true => exact ⟨rfl, .refused Errno.accessDenied⟩
      | false =>
        simp only [Bool.false_eq_true, if_false, Machine.counted_disk, Machine.counted_host]
        cases there : machine.disk.readFile machine.host.here path with
        | error code => exact ⟨rfl, .refused code⟩
        | ok bytes =>
          dsimp only [Except.mapError]
          cases decoded : Text.textOf bytes with
          | error fault => exact ⟨rfl, .undecodable bytes fault null there decoded⟩
          | ok source => exact ⟨rfl, .read bytes source null there decoded shown⟩
  · rintro failure between ⟨rfl, impossible | ⟨code, same⟩⟩
    · cases impossible
    · cases same
      exact ⟨rfl, .refused code⟩

/-! ### Records -/

/-- Logging adds at most one record, which it adds when the level is high enough. -/
theorem log_logged (level : Log.Level) (content : Content) (machine : Machine) :
    (log level content).Meets machine fun result after =>
      result = .ok () ∧ machine.Logged after ∧
        (machine.host.level.deciding ≤ level → .logged level content ∈ after.journal) := by
  unfold Meets log
  simp only [on_bind, on_get]
  split
  next high => exact ⟨rfl, ⟨[.logged level content], rfl⟩, fun _ => List.mem_cons_self⟩
  next low => exact ⟨rfl, .refl machine, fun high => absurd high low⟩

/-- A record is logged, and then a value is given. -/
theorem log_return_meets {α : Type} (level : Log.Level) (content : Content) (value : α)
    (machine : Machine) :
    (do
      log level content
      return value : Action α).Meets machine fun result after =>
        result = .ok value ∧ machine.Logged after ∧
          (machine.host.level.deciding ≤ level → .logged level content ∈ after.journal) := by
  refine (log_logged level content machine).bind ?_ ?_
  · rintro _ after ⟨-, logged, recorded⟩
    exact ⟨rfl, logged, recorded⟩
  · rintro failure after ⟨impossible, -⟩
    cases impossible

theorem log_meets (level : Log.Level) (content : Content) (machine : Machine) :
    (log level content).Meets machine fun result after =>
      result = .ok () ∧ machine.Follows after ∧ after.disk = machine.disk ∧
        (machine.host.level.deciding ≤ level → .logged level content ∈ after.journal) :=
  (log_logged level content machine).mono fun _ _ ended =>
    ⟨ended.1, ended.2.1.follows, ended.2.1.disk, ended.2.2⟩

/-! ### Questions about paths -/

/-- What is barred depends on the process and the disk, and so does what a look shows. -/
theorem bars_congr {machine other : Machine} (host : other.host = machine.host)
    (disk : other.disk = machine.disk) : other.bars = machine.bars := by
  funext follow path
  unfold Machine.bars Machine.hides Machine.hasLink
  rw [host, disk]

theorem look_congr {machine other : Machine} (host : other.host = machine.host)
    (disk : other.disk = machine.disk) : other.look = machine.look := by
  funext follow path
  unfold Machine.look
  rw [bars_congr host disk, host, disk]

/-- What is hidden depends on the process. -/
theorem hides_congr {machine other : Machine} (host : other.host = machine.host) :
    other.hides = machine.hides := by
  funext path
  unfold Machine.hides
  rw [host]

theorem realPath_congr {machine other : Machine} (host : other.host = machine.host)
    (disk : other.disk = machine.disk) : other.realPath = machine.realPath := by
  funext path
  unfold Machine.realPath
  rw [hides_congr host, host, disk]

/-- What a look shows is on the disk. -/
theorem nodeAt_of_look {machine : Machine} {follow : Bool} {path : Path} {node : Node}
    (shown : machine.look follow path = .ok node) :
    machine.disk.nodeAt machine.host.here follow path = .ok node := by
  unfold Machine.look at shown
  split at shown
  next => cases shown
  next => exact shown

/-- What a look refuses is barred, or it is not on the disk. -/
theorem look_eq_error {machine : Machine} {follow : Bool} {path : Path} {code : Errno}
    (refused : machine.look follow path = .error code) :
    machine.bars follow path = true ∧ code = Errno.accessDenied ∨
      machine.disk.nodeAt machine.host.here follow path = .error code := by
  unfold Machine.look at refused
  split at refused
  next barred =>
    cases refused
    exact .inl ⟨barred, rfl⟩
  next => exact .inr refused

/-- At a path that is not hidden, a look shows what lies there unless that is a link. -/
theorem look_of_shown {machine : Machine} {path : Path} (shown : machine.hides path = false)
    (follow : Bool) (notLink : machine.hasLink path = false) :
    machine.look follow path = machine.disk.nodeAt machine.host.here follow path := by
  unfold Machine.look Machine.bars
  rw [shown, notLink, Bool.and_false, Bool.false_and, Bool.or_self, if_neg Bool.false_ne_true]

/-- What a machine answers when it is asked what a path leads to, or what lies at it itself. -/
def answer (machine : Machine) (path : Path) (follow : Bool := true) :
    Except Failure (Option Node) :=
  if holdsNull path then .ok none
  else
    match machine.look follow path with
    | .ok node => .ok (some node)
    | .error code =>
      if leadsNowhere code then .ok none else .error (.system ⟨code, [path.text]⟩)

/-- A question fails only because the system refuses, and not to say that the path leads nowhere. -/
theorem answer_eq_error {machine : Machine} {path : Path} {follow : Bool} {failure : Failure}
    (failed : answer machine path follow = .error failure) :
    ∃ code, machine.look follow path = .error code ∧
      failure = .system ⟨code, [path.text]⟩ ∧ leadsNowhere code = false := by
  unfold answer at failed
  split at failed
  next => cases failed
  next =>
    split at failed
    next => cases failed
    next code refused =>
      split at failed
      next => cases failed
      next somewhere =>
        cases failed
        exact ⟨code, refused, rfl, Bool.eq_false_iff.mpr somewhere⟩

/-- A question about a path is answered or fails; the machine stays as it is. -/
theorem on_nodeAt? (path : Path) (follow : Bool) (machine : Machine) :
    (nodeAt? path follow).on machine = (answer machine path follow, machine) := by
  unfold nodeAt? answer
  split
  · rfl
  · simp only [on_bind, on_get]
    cases machine.look follow path with
    | ok node => rfl
    | error code =>
      show (if leadsNowhere code = true then _ else _ : Action (Option Node)).on machine = _
      dsimp only
      split <;> rfl

theorem on_pathExists (path : Path) (machine : Machine) :
    (pathExists path).on machine = ((answer machine path).map Option.isSome, machine) := by
  unfold pathExists
  rw [on_bind, on_nodeAt?]
  cases answer machine path <;> rfl

theorem on_isDirectory (path : Path) (machine : Machine) :
    (isDirectory path).on machine =
      ((answer machine path).map (·.any Node.isDirectory), machine) := by
  unfold isDirectory
  rw [on_bind, on_nodeAt?]
  cases answer machine path <;> rfl

theorem on_isLink (path : Path) (machine : Machine) :
    (isLink path).on machine =
      ((answer machine path false).map (·.any Node.isLink), machine) := by
  unfold isLink
  rw [on_bind, on_nodeAt?]
  cases answer machine path false <;> rfl

theorem on_isFile (path : Path) (machine : Machine) :
    (isFile path).on machine = ((answer machine path).map (·.any Node.isFile), machine) := by
  unfold isFile
  rw [on_bind, on_nodeAt?]
  cases answer machine path <;> rfl

/-- What is answered is shown by a look, at a path that can be handed over. -/
theorem look_of_answer {path : Path} {follow : Bool} {machine : Machine} {node : Node}
    (answered : answer machine path follow = .ok (some node)) :
    holdsNull path = false ∧ machine.look follow path = .ok node := by
  unfold answer at answered
  split at answered
  next => cases answered
  next usable =>
    split at answered
    next found there =>
      cases answered
      exact ⟨Bool.eq_false_iff.mpr usable, there⟩
    next => split at answered <;> cases answered

/-- What is answered lies where the path leads. -/
theorem locate_of_answer {path : Path} {follow : Bool} {machine : Machine} {node : Node}
    (answered : answer machine path follow = .ok (some node)) :
    ∃ place, machine.disk.locate machine.host.here follow path = .ok (.found place node) := by
  have there := nodeAt_of_look (look_of_answer answered).2
  unfold Disk.nodeAt at there
  split at there
  next place node located =>
    cases there
    exact ⟨place, located⟩
  all_goals cases there

/-- Nothing is answered about a path that is hidden. -/
theorem hides_of_answer {path : Path} {follow : Bool} {machine : Machine} {found : Option Node}
    (usable : holdsNull path = false) (answered : answer machine path follow = .ok found) :
    machine.hides path = false := by
  refine Bool.eq_false_iff.mpr fun hidden => ?_
  have refused : machine.look follow path = .error Errno.accessDenied := by
    unfold Machine.look Machine.bars
    rw [hidden, Bool.true_or, if_pos rfl]
  unfold answer at answered
  rw [usable, if_neg Bool.false_ne_true, refused] at answered
  cases answered

/-- Whatever is answered is what the disk holds: a look that is denied gives no answer. -/
theorem nodeAt_of_answer {path : Path} {follow : Bool} {machine : Machine} {found : Option Node}
    (usable : holdsNull path = false) (answered : answer machine path follow = .ok found) :
    match machine.disk.nodeAt machine.host.here follow path with
    | .ok node => found = some node
    | .error code => found = none ∧ leadsNowhere code = true := by
  unfold answer at answered
  rw [usable, if_neg Bool.false_ne_true] at answered
  split at answered
  next node shown =>
    cases answered
    rw [nodeAt_of_look shown]
  next code refused =>
    split at answered
    next nowhere =>
      cases answered
      rcases look_eq_error refused with ⟨-, rfl⟩ | missing
      · exact absurd nowhere (by decide)
      · rw [missing]
        exact ⟨rfl, nowhere⟩
    next => cases answered

/-- What a machine answers when it is asked what lies at a path itself. -/
def entry (machine : Machine) (path : Path) : Option Node :=
  if holdsNull path then none
  else (machine.disk.nodeAt machine.host.here false path).toOption

/-- The answer depends on the disk and on the directory that the process is in. -/
theorem entry_congr {machine other : Machine} (disk : other.disk = machine.disk)
    (here : other.host.here = machine.host.here) (path : Path) :
    entry other path = entry machine path := by
  unfold entry
  rw [disk, here]

theorem on_entryAt? (path : Path) (machine : Machine) :
    (entryAt? path).on machine = (.ok (entry machine path), machine) := by
  unfold entryAt? entry
  split
  · rfl
  · simp only [on_bind, on_get]
    cases machine.disk.nodeAt machine.host.here false path <;> rfl

theorem meets_entryAt?_bind {α : Type} {path : Path} {machine : Machine}
    {next : Option Node → Action α} {condition : Except Failure α → Machine → Prop} :
    (entryAt? path >>= next).Meets machine condition ↔
      (next (entry machine path)).Meets machine condition := by
  unfold Meets
  rw [on_bind, on_entryAt?]

/-! ### Actions that make no call of a kind -/

/-- An action makes no call of a kind, and leaves the calls that are due to fail as they are. -/
def Spares {α : Type} (kind : Primitive) (action : Action α) : Prop :=
  ∀ machine, action.Meets machine fun _ after => machine.Keeps kind after

/-! ### Actions that take no temporary name -/

/-- An action goes on from every machine, takes no temporary name and discards no tree. -/
def Steady {α : Type} (action : Action α) : Prop :=
  ∀ machine, action.Meets machine fun _ after =>
    machine.Onward after ∧ after.nextTemporary = machine.nextTemporary ∧
      machine.Keeps .discard after

variable {α β : Type}

theorem steady_pure (value : α) : Steady (pure value) :=
  fun machine => ⟨.refl machine, rfl, .refl _ machine⟩

theorem steady_throw (failure : Failure) : Steady (throw failure : Action α) :=
  fun machine => ⟨.refl machine, rfl, .refl _ machine⟩

theorem Steady.bind {action : Action α} {next : α → Action β} (first : Steady action)
    (rest : ∀ value, Steady (next value)) : Steady (action >>= next) := by
  intro machine
  refine (first machine).bind ?_ fun _ _ ended => ended
  rintro value between ⟨onward, temporary, keeps⟩
  refine (rest value between).mono ?_
  rintro result after ⟨onwardAgain, temporaryAgain, keepsAgain⟩
  exact ⟨onward.trans onwardAgain, temporaryAgain.trans temporary, keeps.trans keepsAgain⟩

theorem Steady.outcome {action : Action α} (steady : Steady action) : Steady action.outcome := by
  intro machine
  have met := steady machine
  unfold Meets at met ⊢
  rw [on_outcome]
  exact met

theorem steady_attempt {kind : Primitive} (other : kind ≠ .discard) (paths : List Path)
    (operation : Disk → Place → Except Errno Disk) :
    Steady (do due kind paths; change paths operation) := fun machine =>
  (attempt_meets kind paths operation machine).mono fun _ _ ended =>
    ⟨ended.onward.1, ended.onward.2, ended.keeps other⟩

theorem steady_log (level : Log.Level) (content : Content) : Steady (log level content) :=
  fun machine => (log_logged level content machine).mono fun _ _ ended =>
    ⟨ended.2.1.follows.toOnward, ended.2.1.follows.temporary, ended.2.1.keeps _⟩

theorem steady_entryAt? (path : Path) : Steady (entryAt? path) := by
  intro machine
  unfold Meets
  rw [on_entryAt?]
  exact ⟨.refl machine, rfl, .refl _ machine⟩

end Action

end Bindery
