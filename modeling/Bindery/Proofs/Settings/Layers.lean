/-
This file proves where the settings of a build come from.

By the rule an override that is not null comes before the environment, and what neither gives has
its default. The settings keep to the rule but for one thing: an override that is null hides what
the environment says, so that the field has its default.
-/

import Bindery.Settings
import Bindery.Proofs.Machine.Calls

namespace Bindery

/-! ### Values with findings -/

namespace Checked

variable {α β γ δ : Type}

/-- Values can be changed before or after they are brought together. -/
theorem both_map (first : Checked α) (second : Checked β) (f : α → γ) (g : β → δ) :
    both (first.map f) (second.map g) = (both first second).map (Prod.map f g) := by
  cases first <;> cases second <;> rfl

theorem both_map_right (first : Checked α) (second : Checked β) (g : β → δ) :
    both first (second.map g) = (both first second).map (Prod.map id g) := by
  cases first <;> cases second <;> rfl

theorem map_id_eq (checked : Checked α) : checked.map id = checked := by cases checked <;> rfl

end Checked

namespace Settings

/-! ### Arguments that are not null -/

/-- A value, unless it is null. -/
def unlessNull : Option Datum → Option Datum
  | some .null => none
  | value => value

/-- With distinct names, leaving null arguments out leaves null values out. -/
theorem lookup_given {arguments : Arguments} (distinct : (arguments.map Prod.fst).Nodup)
    (name : String) : (given arguments).lookup name = unlessNull (arguments.lookup name) := by
  induction arguments with
  | nil => rfl
  | cons argument rest inductionHypothesis =>
    obtain ⟨key, value⟩ := argument
    obtain ⟨new, others⟩ := List.nodup_cons.mp distinct
    have later := inductionHypothesis others
    cases found : name == key with
    | false =>
      rw [List.lookup_cons, found]
      cases value with
      | null => exact later
      | _ => exact (List.lookup_cons.trans (by rw [found]; rfl)).trans later
    | true =>
      have same : name = key := eq_of_beq found
      subst same
      have absent : rest.lookup name = none := by
        rw [List.lookup_eq_none_iff]
        intro pair member
        have different : name ≠ pair.1 := by
          rintro rfl
          exact new (List.mem_map.mpr ⟨pair, member, rfl⟩)
        simpa using different
      rw [List.lookup_cons, found]
      cases value with
      | null => exact later.trans (by rw [absent]; rfl)
      | _ => exact List.lookup_cons.trans (by rw [found]; rfl)

/-! ### The rule -/

/-- What the environment and the caller say below the overrides. -/
def below (environment : Environment) (root : Datum) : Arguments :=
  ("project_root", root) :: environmentArguments environment

/-- What a field is read from by the rule: the override unless it is null, else what is below. -/
def ruled (override below : Option Datum) : Option Datum :=
  (unlessNull override).or (unlessNull below)

/-- The names of all fields. -/
def fieldNames : List String :=
  ["project_root", "proto_enabled", "include_directory", "schema_files", "generated_root",
    "compiler_path_override"]

/-- The arguments of a build by the rule. -/
def ruledArguments (environment : Environment) (root : Datum) (overrides : Arguments) : Arguments :=
  fieldNames.filterMap fun name =>
    (ruled (overrides.lookup name) ((below environment root).lookup name)).map (name, ·)

/-- A field has an override that is null. -/
def hides (overrides : Arguments) (name : String) : Bool :=
  match overrides.lookup name with
  | some .null => true
  | _ => false

/-- The settings with defaults in the fields whose overrides are null. -/
def forget (overrides : Arguments) (settings : Settings) : Settings :=
  { settings with
    enabled := if hides overrides "proto_enabled" then false else settings.enabled
    generatedRoot :=
      if hides overrides "generated_root" then standardRoot else settings.generatedRoot
    compilerOverride :=
      if hides overrides "compiler_path_override" then none else settings.compilerOverride }

/-! ### What the fields are read from -/

theorem lookup_filterMap_key (value : String → Option Datum) {names : List String} {name : String}
    (member : name ∈ names) :
    (names.filterMap fun each => (value each).map (each, ·)).lookup name = value name := by
  have absent : ∀ others : List String, value name = none →
      (others.filterMap fun each => (value each).map (each, ·)).lookup name = none := by
    intro others nothing
    rw [List.lookup_eq_none_iff]
    intro pair listed
    obtain ⟨each, -, found⟩ := List.mem_filterMap.mp listed
    obtain ⟨datum, there, rfl⟩ := Option.map_eq_some_iff.mp found
    have different : name ≠ each := by
      rintro rfl
      rw [nothing] at there
      cases there
    simpa using different
  induction names with
  | nil => cases member
  | cons first rest inductionHypothesis =>
    by_cases same : name = first
    · subst same
      cases there : value name with
      | none => exact absent _ there
      | some datum => rw [List.filterMap_cons_some (by rw [there]; rfl), List.lookup_cons_self]
    · have later := inductionHypothesis ((List.mem_cons.mp member).resolve_left same)
      have different : (name == first) = false := by simpa using same
      cases there : value first with
      | none =>
        rw [List.filterMap_cons_none (by rw [there]; rfl)]
        exact later
      | some datum =>
        rw [List.filterMap_cons_some (by rw [there]; rfl), List.lookup_cons, different]
        exact later

theorem lookup_ruledArguments (environment : Environment) (root : Datum) (overrides : Arguments)
    {name : String} (member : name ∈ fieldNames) :
    (ruledArguments environment root overrides).lookup name =
      ruled (overrides.lookup name) ((below environment root).lookup name) :=
  lookup_filterMap_key _ member

theorem lookup_layered (environment : Environment) (root : Datum) {overrides : Arguments}
    (distinct : (overrides.map Prod.fst).Nodup) (name : String) :
    (layered environment root overrides).lookup name =
      unlessNull ((overrides.lookup name).or ((below environment root).lookup name)) := by
  have distinctBelow : ((below environment root).map Prod.fst).Nodup := by
    show ["project_root", "proto_enabled", "generated_root", "compiler_path_override"].Nodup
    decide
  unfold layered
  rw [lookup_given, List.lookup_append]
  · congr 1
    have found := Disk.lookup_filter_key (fun each => (overrides.lookup each).isNone) name
      (below environment root)
    show (overrides.lookup name).or (((below environment root).filter fun entry =>
      (overrides.lookup entry.1).isNone).lookup name) = _
    rw [found]
    cases overrides.lookup name <;> rfl
  · rw [List.map_append, List.nodup_append]
    refine ⟨distinct, distinctBelow.sublist (List.filter_sublist.map Prod.fst), ?_⟩
    rintro _ inOverrides other inBelow rfl
    obtain ⟨pair, member, rfl⟩ := List.mem_map.mp inOverrides
    obtain ⟨entry, listed, same⟩ := List.mem_map.mp inBelow
    have absent : (overrides.lookup entry.1).isNone = true := (List.mem_filter.mp listed).2
    rw [same, Option.isNone_iff_eq_none, List.lookup_eq_none_iff] at absent
    exact absurd (absent pair member) (by simp)

/-- A field read from the layers is the field read by the rule, unless its override is null. -/
theorem optional_layered {α : Type} (environment : Environment) (root : Datum)
    {overrides : Arguments} (distinct : (overrides.map Prod.fst).Nodup) {name : String}
    (member : name ∈ fieldNames) (default : α) {read : Datum → Checked α}
    (readable : ∀ value, unlessNull ((below environment root).lookup name) = some value →
      ∃ result, read value = .ok result) :
    Checked.optional (layered environment root overrides) name default read =
      (Checked.optional (ruledArguments environment root overrides) name default read).map
        fun value => if hides overrides name then default else value := by
  unfold Checked.optional hides
  rw [lookup_layered environment root distinct,
    lookup_ruledArguments environment root overrides member]
  cases given : overrides.lookup name with
  | none => exact (Checked.map_id_eq _).symm
  | some override =>
    cases override with
    | null =>
      show Except.ok default = Except.map (fun _ => default) _
      cases said : unlessNull ((below environment root).lookup name) with
      | none =>
        rw [show ruled (some .null) ((below environment root).lookup name) = none from said]
        rfl
      | some value =>
        rw [show ruled (some .null) ((below environment root).lookup name) = some value from said]
        obtain ⟨result, worked⟩ := readable value said
        show _ = Except.map _ (Checked.under (.field name) (read value))
        rw [worked]
        rfl
    | _ => exact (Checked.map_id_eq _).symm

/-- A field that the environment says nothing about is read by the rule. -/
theorem optional_layered_of_none {α : Type} (environment : Environment) (root : Datum)
    {overrides : Arguments} (distinct : (overrides.map Prod.fst).Nodup) {name : String}
    (member : name ∈ fieldNames) (silent : (below environment root).lookup name = none)
    (default : α) (read : Datum → Checked α) :
    Checked.optional (layered environment root overrides) name default read =
      Checked.optional (ruledArguments environment root overrides) name default read := by
  unfold Checked.optional
  rw [lookup_layered environment root distinct, lookup_ruledArguments environment root overrides
    member, silent, Option.or_none, ruled, show unlessNull none = none from rfl, Option.or_none]

/-- What the layers give is what the rule gives, but for the fields whose overrides are null. -/
theorem read_layered (environment : Environment) (root : Datum) {overrides : Arguments}
    (distinct : (overrides.map Prod.fst).Nodup) (noRoot : overrides.lookup "project_root" = none) :
    read (layered environment root overrides) =
      (read (ruledArguments environment root overrides)).map (forget overrides) := by
  have rootSame : Checked.required (layered environment root overrides) "project_root"
      Datum.readPath =
        Checked.required (ruledArguments environment root overrides) "project_root"
          Datum.readPath := by
    unfold Checked.required
    rw [lookup_layered environment root distinct,
      lookup_ruledArguments environment root overrides (by decide), noRoot]
    rfl
  have said (text? : Option String) (value : Datum)
      (found : unlessNull (some (textOrNull text?)) = some value) : ∃ text, value = .text text := by
    cases text? with
    | none => cases found
    | some text =>
      cases found
      exact ⟨text, rfl⟩
  have enabled : Checked.optional (layered environment root overrides) "proto_enabled" false
      Datum.readBool = _ :=
    optional_layered environment root distinct (by decide) false fun value found => by
      cases found
      exact ⟨_, rfl⟩
  have directory : Checked.optional (layered environment root overrides) "include_directory"
      standardInclude Datum.readPath = _ :=
    optional_layered_of_none environment root distinct (by decide) rfl _ _
  have files : Checked.optional (layered environment root overrides) "schema_files"
      standardSchemas Datum.readTexts = _ :=
    optional_layered_of_none environment root distinct (by decide) rfl _ _
  have generated : Checked.optional (layered environment root overrides) "generated_root"
      standardRoot Datum.readPath = _ :=
    optional_layered environment root distinct (by decide) standardRoot fun value found => by
      obtain ⟨text, rfl⟩ := said environment.generatedRoot? value found
      exact ⟨_, rfl⟩
  have override : Checked.optional (layered environment root overrides) "compiler_path_override"
      none Datum.readPath? = _ :=
    optional_layered environment root distinct (by decide) none fun value found => by
      obtain ⟨text, rfl⟩ := said environment.compilerPath? value found
      exact ⟨_, rfl⟩
  unfold read
  rw [rootSame, enabled, directory, files, generated, override]
  dsimp only
  rw [Checked.both_map, Checked.both_map_right, Checked.both_map_right, Checked.both_map,
    Checked.both_map_right]
  generalize Checked.both (Checked.required (ruledArguments environment root overrides)
    "project_root" Datum.readPath) _ = fields
  cases fields <;> rfl

/-! ### Settings on a machine -/

/-- What the rule gives on a machine. -/
def ruledSettings (machine : Machine) (root : Datum) (overrides : Arguments) :
    Except Invalid Settings :=
  read (ruledArguments machine.host.environment root overrides)

/-- The directory that a process is in, as a path. -/
def workingDirectory (machine : Machine) : Path := ⟨.root, machine.host.here⟩

/-- How reading settings ends. -/
def ended (here : Path) : Except Invalid Settings → Except Failure Settings
  | .ok settings => .ok (settings.anchored here)
  | .error invalid => .error (.invalid invalid)

theorem fromEnvironment_meets (root : Datum) (overrides : Arguments) (machine : Machine) :
    (fromEnvironment root overrides).Meets machine fun result after =>
      result = ended (workingDirectory machine)
        (read (layered machine.host.environment root overrides)) ∧ machine.Logged after := by
  unfold fromEnvironment ofArguments
  rw [Action.meets_get_bind]
  cases read (layered machine.host.environment root overrides) with
  | error invalid => exact ⟨rfl, .refl machine⟩
  | ok settings =>
    dsimp only
    rw [bind_assoc, Action.meets_get_bind, pure_bind]
    exact (Action.log_return_meets _ _ _ machine).mono fun _ _ ended => ⟨ended.1, ended.2.1⟩

/-- Defaults in some fields are no change exactly if the fields have them. -/
theorem anchored_forget_iff (here : Path) (overrides : Arguments) (settings : Settings) :
    (forget overrides settings).anchored here = settings.anchored here ↔
      (hides overrides "proto_enabled" = true → settings.enabled = false) ∧
      (hides overrides "generated_root" = true → (settings.anchored here).generatedRoot =
        Path.absolute here settings.projectRoot ++ standardRoot) ∧
      (hides overrides "compiler_path_override" = true → settings.compilerOverride = none) := by
  constructor
  · intro same
    refine ⟨fun hidden => ?_, fun hidden => ?_, fun hidden => ?_⟩
    · have field := congrArg Settings.enabled same
      simpa only [forget, anchored, hidden, if_true] using field.symm
    · have field := congrArg Settings.generatedRoot same
      simpa only [forget, anchored, hidden, if_true] using field.symm
    · have field := congrArg Settings.compilerOverride same
      simpa only [forget, anchored, hidden, if_true] using field.symm
  · rintro ⟨enabled, generated, override⟩
    unfold forget anchored at *
    dsimp only at *
    congr 1
    · split
      next hidden => exact (enabled hidden).symm
      next => rfl
    · split
      next hidden => exact (generated hidden).symm
      next => rfl
    · split
      next hidden => exact (override hidden).symm
      next => rfl

end Settings

end Bindery
