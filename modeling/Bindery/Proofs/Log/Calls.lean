/-
This file tells what becomes of the loggers in any sequence of calls that set them up.

Finding a logger may make it, and may move others in the tree, but it changes no handlers, no level
and no passing on. So a call changes these for its own logger only, and only if that has no handler
yet. The handler is attached before the level is looked up: after the first call for a logger it has
one for good, whether the call succeeded or not, and every later call finds it set up already.
-/

import Bindery.Disk.Basic
import Bindery.Log.Registry

namespace Bindery.Log

/-! ### What setting up is about -/

/-- What a call may change in a logger. -/
structure Setting where
  handlers : Nat
  level : Level
  propagates : Bool
deriving DecidableEq

/-- What a call may have changed in a logger. -/
def Logger.setting (logger : Logger) : Setting :=
  ⟨logger.handlers, logger.level, logger.propagates⟩

namespace Registry

variable {registry : Registry} {name other : String}

/-- The setting of a kept name's logger, also if it was not asked for yet. -/
def settingOf (registry : Registry) (kept : String) : Setting :=
  ((registry.logger? kept).getD (Logger.unset kept)).setting

theorem get?_set (registry : Registry) (name other : String) (holder : Holder) :
    (registry.set name holder).get? other =
      if other = name then some holder else registry.get? other := by
  unfold get? set
  by_cases same : other = name
  · simp [same]
  · have found := Disk.lookup_filter_key (fun each => decide (each ≠ name)) other registry
    have differs : (other == name) = false := by simp [same]
    simp only [List.lookup_cons, differs]
    rw [found]
    simp [same]

theorem logger?_set_logger (registry : Registry) (name other : String) (logger : Logger) :
    (registry.set name (.logger logger)).logger? other =
      if other = name then some logger else registry.logger? other := by
  unfold logger?
  rw [get?_set]
  by_cases same : other = name <;> simp [same]

theorem settingOf_set_logger (registry : Registry) (name other : String) (logger : Logger) :
    (registry.set name (.logger logger)).settingOf other =
      if other = name then logger.setting else registry.settingOf other := by
  unfold settingOf
  rw [logger?_set_logger]
  by_cases same : other = name <;> simp [same]

/-! ### Finding a logger -/

/-- A place that is noted where no logger is changes no logger. -/
theorem logger?_set_place (vacant : registry.logger? name = none) (below : List String)
    (other : String) :
    (registry.set name (.place below)).logger? other = registry.logger? other := by
  by_cases same : other = name
  · rw [same, vacant, logger?, get?_set, if_pos rfl]
  · rw [logger?, get?_set, if_neg same, logger?]

theorem logger?_findParent (registry : Registry) (name : String) (uppers : List String)
    (other : String) :
    (registry.findParent name uppers).2.logger? other = registry.logger? other := by
  induction uppers generalizing registry with
  | nil => rfl
  | cons upper uppers inductionHypothesis =>
    unfold findParent
    split
    next => rfl
    next below found =>
      rw [inductionHypothesis, logger?_set_place]
      rw [logger?, found]
    next found =>
      rw [inductionHypothesis, logger?_set_place]
      rw [logger?, found]

/-- The logger of a name that is found as it was gets another one above it, and no more. -/
theorem settingOf_adopt (registry : Registry) (name : String) (below : List String)
    (other : String) : (registry.adopt name below).settingOf other = registry.settingOf other := by
  unfold adopt
  induction below generalizing registry with
  | nil => rfl
  | cons child below inductionHypothesis =>
    rw [List.foldl_cons, inductionHypothesis]
    dsimp only
    split
    next => rfl
    next logger found =>
      split
      next => rfl
      next =>
        rw [settingOf_set_logger]
        split
        next same =>
          rw [same, settingOf, found]
          rfl
        next => rfl

/-- Asking for a logger gives it as it is set, and leaves every logger as it is set. -/
theorem ask_setting (registry : Registry) (name : String) :
    (registry.ask name).1.setting = registry.settingOf name ∧
      ∀ other, (registry.ask name).2.settingOf other = registry.settingOf other := by
  unfold ask
  split
  next logger found =>
    refine ⟨?_, fun other => rfl⟩
    rw [settingOf, found]
    rfl
  next vacant =>
    have unset : registry.settingOf name = (Logger.unset name).setting := by
      rw [settingOf, vacant]
      rfl
    refine ⟨unset.symm, fun other => ?_⟩
    dsimp only
    rw [settingOf_set_logger]
    split
    next same =>
      rw [same, unset]
      rfl
    next =>
      rw [settingOf, logger?_findParent, ← settingOf]
      split
      next => exact settingOf_adopt ..
      next => rfl

/-- Forgetting the answers leaves every logger as it is set. -/
theorem logger?_forget (registry : Registry) (name : String) :
    registry.forget.logger? name =
      (registry.logger? name).map fun logger => { logger with known := [] } := by
  induction registry with
  | nil => rfl
  | cons entry registry inductionHypothesis =>
    obtain ⟨first, holder⟩ := entry
    unfold logger? get? forget at inductionHypothesis ⊢
    cases same : name == first <;> cases holder <;>
      simp only [List.map_cons, List.lookup_cons, same, inductionHypothesis, Option.map_some,
        Option.map_none]

theorem settingOf_forget (registry : Registry) (name : String) :
    registry.forget.settingOf name = registry.settingOf name := by
  rw [settingOf, settingOf, logger?_forget]
  cases registry.logger? name <;> rfl

end Registry

/-! ### One call -/

/-- A call that sets up the logger of a name in an environment. -/
structure Call where
  environment : Environment
  name : String

namespace Call

/-- The level that the environment of a call names. -/
def level? (call : Call) : Option Level := Level.ofName? call.environment.loggingLevel

/-- What a call gives, and the loggers afterwards. -/
def on (call : Call) (registry : Registry) : Except String Logger × Registry :=
  registry.setUp call.environment call.name

/-- The name that the logger of a call is kept under. -/
def kept (call : Call) : String := keptName call.name

/-- What a call gives for a logger that is set in some way, and how the logger is set afterwards. -/
def settle (call : Call) (setting : Setting) : Except String Setting × Setting :=
  if setting.handlers ≠ 0 then (.ok setting, setting)
  else
    match call.level? with
    | some level => (.ok ⟨1, level, false⟩, ⟨1, level, false⟩)
    | none => (.error call.environment.loggingLevel, { setting with handlers := 1 })

variable {call : Call} {setting : Setting}

theorem settle_of_attached (attached : setting.handlers ≠ 0) :
    call.settle setting = (.ok setting, setting) :=
  if_pos attached

theorem settle_of_level {level : Level} (bare : setting.handlers = 0)
    (named : call.level? = some level) :
    call.settle setting = (.ok ⟨1, level, false⟩, ⟨1, level, false⟩) := by
  rw [settle, if_neg (absurd bare), named]

theorem settle_of_none (bare : setting.handlers = 0) (unnamed : call.level? = none) :
    call.settle setting =
      (.error call.environment.loggingLevel, { setting with handlers := 1 }) := by
  rw [settle, if_neg (absurd bare), unnamed]

/-- All that can come of a call. -/
theorem settle_cases (call : Call) (setting : Setting) :
    (setting.handlers ≠ 0 ∧ call.settle setting = (.ok setting, setting)) ∨
    (setting.handlers = 0 ∧ ∃ level, call.level? = some level ∧
      call.settle setting = (.ok ⟨1, level, false⟩, ⟨1, level, false⟩)) ∨
    (setting.handlers = 0 ∧ call.level? = none ∧ call.settle setting =
      (.error call.environment.loggingLevel, { setting with handlers := 1 })) := by
  by_cases bare : setting.handlers = 0
  · cases named : call.level? with
    | some level => exact .inr (.inl ⟨bare, level, rfl, settle_of_level bare named⟩)
    | none => exact .inr (.inr ⟨bare, rfl, settle_of_none bare named⟩)
  · exact .inl ⟨bare, settle_of_attached bare⟩

/-- After a call its logger has a handler, whether the call succeeded or not. -/
theorem handlers_settle_ne_zero (call : Call) (setting : Setting) :
    (call.settle setting).2.handlers ≠ 0 := by
  rcases call.settle_cases setting with ⟨attached, done⟩ | ⟨-, level, -, done⟩ | ⟨-, -, done⟩ <;>
    rw [done]
  · exact attached
  · exact Nat.one_ne_zero
  · exact Nat.one_ne_zero

theorem handlers_settle_le (call : Call) (few : setting.handlers ≤ 1) :
    (call.settle setting).2.handlers ≤ 1 := by
  rcases call.settle_cases setting with ⟨-, done⟩ | ⟨-, level, -, done⟩ | ⟨-, -, done⟩
  · rwa [done]
  · exact Nat.le_of_eq (congrArg (fun result => result.2.handlers) done)
  · exact Nat.le_of_eq (congrArg (fun result => result.2.handlers) done)

/-- A call that gives a logger gives it as it is set then. -/
theorem settled_of_ok {given : Setting} (returned : (call.settle setting).1 = .ok given) :
    given = (call.settle setting).2 := by
  rcases call.settle_cases setting with ⟨-, done⟩ | ⟨-, level, -, done⟩ | ⟨-, -, done⟩ <;>
    rw [done] at returned ⊢
  · exact (Except.ok.inj returned).symm
  · exact (Except.ok.inj returned).symm
  · cases returned

/-- A call fails if its logger has no handler and its environment names no level. -/
theorem settle_eq_error_iff {word : String} :
    (call.settle setting).1 = .error word ↔
      word = call.environment.loggingLevel ∧ call.level? = none ∧ setting.handlers = 0 := by
  rcases call.settle_cases setting with
    ⟨attached, done⟩ | ⟨-, level, named, done⟩ | ⟨bare, unnamed, done⟩ <;> rw [done]
  · simp [attached]
  · simp [named]
  · simp [bare, unnamed, eq_comm]

/-- A call settles its own logger and leaves the others as they are set. -/
theorem on_settles (call : Call) (registry : Registry) :
    (call.on registry).1.map Logger.setting = (call.settle (registry.settingOf call.kept)).1 ∧
      ∀ name, (call.on registry).2.settingOf name =
        if name = call.kept then (call.settle (registry.settingOf call.kept)).2
        else registry.settingOf name := by
  obtain ⟨asked, others⟩ := registry.ask_setting call.kept
  rcases found : registry.ask call.kept with ⟨logger, loggers⟩
  rw [found] at asked others
  have done : call.on registry =
      if logger.handlers ≠ 0 then (.ok logger, loggers)
      else call.level?.elim
        (.error call.environment.loggingLevel,
          loggers.set call.kept (.logger { logger with handlers := logger.handlers + 1 }))
        fun level =>
          let ready := { logger with
            handlers := logger.handlers + 1, level := level, propagates := false, known := [] }
          (.ok ready, loggers.forget.set call.kept (.logger ready)) := by
    unfold on Registry.setUp level?
    unfold kept at found ⊢
    dsimp only
    rw [found]
    cases Level.ofName? call.environment.loggingLevel <;> rfl
  rw [← asked]
  by_cases bare : logger.handlers = 0
  · rw [done, if_neg (absurd bare)]
    cases named : call.level? with
    | none =>
      rw [Option.elim_none, settle_of_none bare named]
      refine ⟨rfl, fun name => ?_⟩
      rw [Registry.settingOf_set_logger, others, bare]
      rfl
    | some level =>
      rw [Option.elim_some, settle_of_level bare named, bare]
      refine ⟨rfl, fun name => ?_⟩
      rw [Registry.settingOf_set_logger, Registry.settingOf_forget, others]
      rfl
  · rw [done, if_pos bare, settle_of_attached (show logger.setting.handlers ≠ 0 from bare)]
    refine ⟨rfl, fun name => ?_⟩
    split
    next same => rw [same, others, asked]
    next => exact others name

theorem on_eq_error_iff {registry : Registry} {word : String} :
    (call.on registry).1 = .error word ↔ word = call.environment.loggingLevel ∧
      call.level? = none ∧ (registry.settingOf call.kept).handlers = 0 := by
  rw [← settle_eq_error_iff, ← (call.on_settles registry).1]
  cases (call.on registry).1 with
  | error failed =>
    show (Except.error failed = _) ↔ (Except.error failed = _)
    rw [Except.error.injEq, Except.error.injEq]
  | ok logger => exact ⟨nofun, nofun⟩

end Call

/-! ### Any sequence of calls -/

namespace Registry

variable {registry : Registry}

/-- The loggers after calls. -/
def after (registry : Registry) (calls : List Call) : Registry :=
  calls.foldl (fun registry call => (call.on registry).2) registry

/-- The first call for a logger settles it, and no later one changes it. -/
theorem settingOf_after (registry : Registry) (calls : List Call) (name : String) :
    (registry.after calls).settingOf name =
      match calls.find? fun call => call.kept = name with
      | none => registry.settingOf name
      | some first => (first.settle (registry.settingOf name)).2 := by
  induction calls generalizing registry with
  | nil => rfl
  | cons call calls inductionHypothesis =>
    have settled := (call.on_settles registry).2 name
    show ((call.on registry).2.after calls).settingOf name = _
    rw [inductionHypothesis, settled]
    by_cases same : call.kept = name
    · subst same
      rw [List.find?_cons_of_pos (by simp), if_pos rfl]
      split
      next => rfl
      next first _ =>
        rw [Call.settle_of_attached (call.handlers_settle_ne_zero _)]
    · rw [List.find?_cons_of_neg (by simpa using same), if_neg (Ne.symm same)]

/-- No logger gets a second handler. -/
theorem handlers_after_le {calls : List Call} (few : ∀ name, (registry.settingOf name).handlers ≤ 1)
    (name : String) : ((registry.after calls).settingOf name).handlers ≤ 1 := by
  rw [settingOf_after]
  split
  next => exact few name
  next first _ => exact first.handlers_settle_le (few name)

/-- A logger to which nothing was done has no handler and passes records on. -/
theorem settingOf_nil (name : String) :
    settingOf [] name = ⟨0, (Logger.unset name).level, true⟩ := rfl

end Registry

namespace Call

variable {before : List Call} {call : Call}

/-- A logger that no call was for is as it is made. -/
theorem settingOf_of_uncalled {name : String} (uncalled : ∀ earlier ∈ before, earlier.kept ≠ name) :
    (Registry.after [] before).settingOf name = (Logger.unset name).setting := by
  have none : before.find? (fun call => call.kept = name) = none := by
    simpa [List.find?_eq_none] using uncalled
  rw [Registry.settingOf_after, none]
  rfl

/-- A logger has a handler exactly if a call was for it. -/
theorem handlers_eq_zero_iff {name : String} :
    ((Registry.after [] before).settingOf name).handlers = 0 ↔
      ∀ earlier ∈ before, earlier.kept ≠ name := by
  constructor
  · intro bare earlier member same
    rw [Registry.settingOf_after] at bare
    split at bare
    next none =>
      have others := List.find?_eq_none.mp none earlier member
      exact others (decide_eq_true same)
    next first _ => exact first.handlers_settle_ne_zero _ bare
  · intro uncalled
    rw [settingOf_of_uncalled uncalled]
    rfl

/-- Whether a call is the first one for its logger that returns, after other calls. -/
def FirstReturn (before : List Call) (call : Call) : Prop :=
  (∃ logger, (call.on (Registry.after [] before)).1 = .ok logger) ∧
    ∀ front earlier back, before = front ++ earlier :: back → earlier.kept = call.kept →
      ∃ word, (earlier.on (Registry.after [] front)).1 = .error word

/-- If the first call for a logger failed, it has its handler and nothing else. -/
theorem settingOf_of_failed (failed : ∀ front earlier back, before = front ++ earlier :: back →
      earlier.kept = call.kept → ∃ word, (earlier.on (Registry.after [] front)).1 = .error word)
    (called : ¬ ∀ earlier ∈ before, earlier.kept ≠ call.kept) :
    (Registry.after [] before).settingOf call.kept =
      { (Logger.unset call.kept).setting with handlers := 1 } := by
  rw [Registry.settingOf_after]
  split
  next none =>
    refine absurd (fun earlier member same => ?_) called
    exact List.find?_eq_none.mp none earlier member (decide_eq_true same)
  next first found =>
    obtain ⟨same, front, back, split, -⟩ := List.find?_eq_some_iff_append.mp found
    obtain ⟨word, error⟩ := failed front first back split (of_decide_eq_true same)
    exact congrArg Prod.snd (settle_of_none rfl (on_eq_error_iff.mp error).2.1)

/-- How a call leaves the loggers, after some calls and before others. -/
structure Settles (before : List Call) (call : Call) (later : List Call) : Prop where
  /-- No logger ever has a second handler. -/
  single : ∀ name logger, (Registry.after [] before).logger? name = some logger →
    logger.handlers ≤ 1
  /-- A call fails exactly if it is the first one for its logger and names no level. -/
  fails : ∀ word, (call.on (Registry.after [] before)).1 = .error word ↔
    word = call.environment.loggingLevel ∧ call.level? = none ∧
      ∀ earlier ∈ before, earlier.kept ≠ call.kept
  /-- A call that fails leaves its logger with a handler that it did not have. -/
  attaches : ∀ word, (call.on (Registry.after [] before)).1 = .error word →
    ((Registry.after [] before).settingOf call.kept).handlers = 0 ∧
      (call.on (Registry.after [] before)).2.settingOf call.kept =
        { (Registry.after [] before).settingOf call.kept with handlers := 1 }
  /-- A call that returns gives the logger as it is set then. -/
  gives : ∀ logger, (call.on (Registry.after [] before)).1 = .ok logger →
    logger.setting = (call.on (Registry.after [] before)).2.settingOf call.kept
  /-- Other loggers stay as they are set. -/
  others : ∀ name, name ≠ call.kept → (call.on (Registry.after [] before)).2.settingOf name =
    (Registry.after [] before).settingOf name
  /-- Later calls leave the logger as it is set. -/
  lasts : (Registry.after [] (before ++ call :: later)).settingOf call.kept =
    (call.on (Registry.after [] before)).2.settingOf call.kept
  /-- The first call for a logger that returns sets it as it should be exactly if no call for it
  failed; else the logger stays without a level of its own and passes records on. -/
  first : call.FirstReturn before →
    if ∀ earlier ∈ before, earlier.kept ≠ call.kept then
      ∃ level, call.level? = some level ∧
        (call.on (Registry.after [] before)).2.settingOf call.kept = ⟨1, level, false⟩
    else (call.on (Registry.after [] before)).2.settingOf call.kept =
      ⟨1, (Logger.unset call.kept).level, true⟩

theorem settled_by_first_call (before : List Call) (call : Call) (later : List Call) :
    Settles before call later where
  single name logger found := by
    have few : ((Registry.after [] before).settingOf name).handlers ≤ 1 := by
      refine Registry.handlers_after_le (fun unasked => ?_) name
      rw [Registry.settingOf_nil]
      exact Nat.zero_le 1
    rw [Registry.settingOf, found] at few
    exact few
  fails word := by rw [on_eq_error_iff, handlers_eq_zero_iff]
  attaches word failed := by
    obtain ⟨-, unnamed, bare⟩ := on_eq_error_iff.mp failed
    refine ⟨bare, ?_⟩
    rw [(call.on_settles _).2, if_pos rfl, settle_of_none bare unnamed]
  gives logger returned := by
    have given := (call.on_settles (Registry.after [] before)).1
    rw [(call.on_settles _).2, if_pos rfl]
    rw [returned] at given
    exact settled_of_ok given.symm
  others name other := by rw [(call.on_settles _).2, if_neg other]
  lasts := by
    rw [Registry.after, List.foldl_append, List.foldl_cons, ← Registry.after, ← Registry.after,
      Registry.settingOf_after]
    split
    next => rfl
    next last _ =>
      refine congrArg Prod.snd (settle_of_attached ?_)
      rw [(call.on_settles _).2, if_pos rfl]
      exact call.handlers_settle_ne_zero _
  first returns := by
    obtain ⟨⟨logger, returned⟩, failed⟩ := returns
    rw [(call.on_settles _).2, if_pos rfl]
    split
    next uncalled =>
      cases named : call.level? with
      | none =>
        have error := on_eq_error_iff.mpr ⟨rfl, named, handlers_eq_zero_iff.mpr uncalled⟩
        rw [returned] at error
        cases error
      | some level =>
        rw [settle_of_level (handlers_eq_zero_iff.mpr uncalled) named]
        exact ⟨level, rfl, rfl⟩
    next called =>
      rw [settle_of_attached (mt handlers_eq_zero_iff.mp called), settingOf_of_failed failed called]
      rfl

/-- An environment that names a level, or a word that is none. -/
def leveled (word : String) : Environment := [(Variable.loggingLevel.name, word)]

/-- A logger that was asked for with a word that is no level is not set up by the next call, which
returns, nor by any other. -/
theorem failed_call_stays :
    ((Call.mk (leveled "nope") "a").on []).1 = .error "NOPE" ∧
    (Call.mk (leveled "error") "a").FirstReturn [⟨leveled "nope", "a"⟩] ∧
    (Registry.after [] [⟨leveled "nope", "a"⟩, ⟨leveled "error", "a"⟩,
      ⟨leveled "info", "a"⟩]).settingOf "a" = ⟨1, Level.notSet, true⟩ := by
  have failed : ((Call.mk (leveled "nope") "a").on (Registry.after [] [])).1 = .error "NOPE" :=
    ((settled_by_first_call [] ⟨leveled "nope", "a"⟩ []).fails "NOPE").mpr
      ⟨by decide +kernel, by decide +kernel, fun _ member => by cases member⟩
  have settles := settled_by_first_call [⟨leveled "nope", "a"⟩] ⟨leveled "error", "a"⟩
    [⟨leveled "info", "a"⟩]
  have returns : (Call.mk (leveled "error") "a").FirstReturn [⟨leveled "nope", "a"⟩] := by
    refine ⟨?_, fun front earlier back split _ => ?_⟩
    · cases result : ((Call.mk (leveled "error") "a").on
          (Registry.after [] [⟨leveled "nope", "a"⟩])).1 with
      | ok logger => exact ⟨logger, rfl⟩
      | error word =>
        have unnamed := ((settles.fails word).mp result).2.1
        exact absurd unnamed (by decide +kernel)
    · obtain ⟨rfl, rfl, rfl⟩ : front = [] ∧ earlier = ⟨leveled "nope", "a"⟩ ∧ back = [] := by
        cases front <;> simp_all
      exact ⟨"NOPE", failed⟩
  refine ⟨failed, returns, ?_⟩
  have called : ¬ ∀ earlier ∈ [Call.mk (leveled "nope") "a"],
      earlier.kept ≠ (Call.mk (leveled "error") "a").kept :=
    fun uncalled => uncalled _ (List.mem_singleton_self _) rfl
  have set := settles.first returns
  rw [if_neg called] at set
  exact (settles.lasts.trans set).trans (by decide +kernel)

end Call

end Bindery.Log
