/-
This file proves what is known of an invocation that passed its checks.

Checking only asks the machine and changes nothing on it. The paths that come out of it are
absolute, whatever was given, and a path that was read from a text has neither empty names nor
points.
-/

import Bindery.Invocation.Validation
import Bindery.Proofs.Disk.Built
import Bindery.Proofs.Machine.Nulls

namespace Bindery

open Text

namespace Path

theorem isRegular_parse (text : String) : (parse text).IsRegular := by
  intro part member
  obtain ⟨field, isField, rfl⟩ := List.mem_map.mp member
  have kept := (List.mem_filter.mp isField).2
  constructor
  · intro empty
    rw [String.ofList_eq_empty_iff.mp empty] at kept
    exact absurd kept (by decide)
  · intro point
    have same : field = ['.'] := String.ofList_injective (point.trans (by decide))
    rw [same] at kept
    exact absurd kept (by decide)

theorem IsRegular.append {base path : Path} (baseRegular : base.IsRegular)
    (regular : path.IsRegular) : (base.append path).IsRegular := by
  unfold Path.append
  split
  next => exact regular
  next =>
    intro part member
    rcases List.mem_append.mp member with front | back
    · exact baseRegular part front
    · exact regular part back

theorem isAbsolute_append {base : Path} (absolute : base.isAbsolute = true) (path : Path) :
    (base.append path).isAbsolute = true := by
  unfold Path.append
  split
  next isAbsolute => exact isAbsolute
  next => exact absolute

end Path

namespace Action

variable {α β : Type}

/-- An action only asks the machine. -/
def Asks (action : Action α) (answers : Machine → α → Prop) : Prop :=
  ∀ machine, action.Meets machine fun result after =>
    after = machine ∧ ∀ value, result = .ok value → answers machine value

theorem asks_pure (value : α) : Asks (pure value) fun _ answer => answer = value :=
  fun _ => ⟨rfl, fun _ same => (Except.ok.inj same).symm⟩

theorem asks_throw (failure : Failure) {answers : Machine → α → Prop} :
    Asks (throw failure) answers := fun _ => ⟨rfl, fun _ impossible => by cases impossible⟩

theorem Asks.bind {action : Action α} {next : α → Action β} {answers : Machine → α → Prop}
    {more : Machine → β → Prop} (first : Asks action answers)
    (rest : ∀ value, Asks (next value) fun machine answer =>
      answers machine value → more machine answer) : Asks (action >>= next) more := by
  intro machine
  refine (first machine).bind ?_ ?_
  · rintro value between ⟨rfl, answered⟩
    refine (rest value between).mono ?_
    rintro result after ⟨same, answeredNext⟩
    exact ⟨same, fun answer done => answeredNext answer done (answered value rfl)⟩
  · rintro failure between ⟨same, -⟩
    exact ⟨same, fun _ impossible => by cases impossible⟩

theorem Asks.mono {action : Action α} {answers weaker : Machine → α → Prop}
    (asks : Asks action answers) (weaken : ∀ machine value, answers machine value →
      weaker machine value) : Asks action weaker := fun machine =>
  (asks machine).mono fun _ _ ended =>
    ⟨ended.1, fun value done => weaken machine value (ended.2 value done)⟩

theorem asks_get : Asks get fun machine answer => answer = machine :=
  fun _ => ⟨rfl, fun _ same => (Except.ok.inj same).symm⟩

theorem asks_usable (paths : List Path) : Asks (usable paths) fun _ _ => True := by
  unfold usable
  split
  next => exact asks_throw _
  next => exact (asks_pure ()).mono fun _ _ _ => trivial

theorem Asks.outcome {action : Action α} {answers : Machine → α → Prop}
    (asks : Asks action answers) : Asks action.outcome fun machine result =>
      ∀ value, result = .ok value → answers machine value := by
  intro machine
  have met := asks machine
  unfold Meets at met ⊢
  rw [on_outcome]
  refine ⟨met.1, fun result same => ?_⟩
  cases same
  exact met.2

/-- What is found lies where the path leads, and the path can be handed to the system. -/
theorem asks_nodeAt? (path : Path) :
    Asks (nodeAt? path) fun machine found => ∀ node, found = some node →
      holdsNull path = false ∧ machine.disk.nodeAt machine.host.here true path = .ok node := by
  intro machine
  unfold Meets
  rw [on_nodeAt?]
  refine ⟨rfl, fun found answered node isNode => ?_⟩
  obtain ⟨usable, shown⟩ := look_of_answer (answered.trans (congrArg _ isNode))
  exact ⟨usable, nodeAt_of_look shown⟩

theorem asks_isDirectory (path : Path) :
    Asks (isDirectory path) fun machine isDirectory => isDirectory = true →
      ∃ mode, machine.disk.nodeAt machine.host.here true path = .ok (.directory mode) := by
  refine (asks_nodeAt? path).bind fun found => (asks_pure _).mono ?_
  rintro machine _ rfl there isDirectory
  rcases found with _ | ⟨bytes, mode⟩ | mode | target
  · cases isDirectory
  · cases isDirectory
  · exact ⟨mode, (there _ rfl).2⟩
  · cases isDirectory

theorem asks_isFile (path : Path) :
    Asks (isFile path) fun machine isFile => isFile = true → holdsNull path = false ∧
      ∃ bytes mode, machine.disk.nodeAt machine.host.here true path = .ok (.file bytes mode) := by
  refine (asks_nodeAt? path).bind fun found => (asks_pure _).mono ?_
  rintro machine _ rfl there isFile
  rcases found with _ | ⟨bytes, mode⟩ | mode | target
  · cases isFile
  · exact ⟨(there _ rfl).1, bytes, mode, (there _ rfl).2⟩
  · cases isFile
  · cases isFile

/-- A path without links and points is absolute. -/
theorem isAbsolute_realPath (machine : Machine) (path : Path) :
    (machine.realPath path).isAbsolute = true :=
  Path.isAbsolute_append rfl _

theorem asks_resolve (path : Path) :
    Asks (resolve path) fun machine real =>
      real = machine.realPath path := by
  refine (asks_usable [path]).bind fun _ => ?_
  refine (asks_get).bind fun machine => ?_
  dsimp only
  split
  next => exact (asks_pure _).mono fun _ _ same here _ => same.trans (here ▸ rfl)
  next =>
    split
    next => exact asks_throw _
    next => exact (asks_pure _).mono fun _ _ same here _ => same.trans (here ▸ rfl)

end Action

namespace Invocation

open Bindery.Action

theorem asks_asFinding {α : Type} {action : Action α} {answers : Machine → α → Prop}
    (asks : Asks action answers) : Asks (asFinding action) fun machine checked =>
      ∀ value, checked = .ok value → answers machine value := by
  refine asks.outcome.bind fun result => ?_
  split
  next value =>
    refine (asks_pure _).mono ?_
    rintro machine _ rfl answered _ same
    cases same
    exact answered value rfl
  next =>
    refine (asks_pure _).mono ?_
    rintro machine _ rfl _ _ impossible
    cases impossible
  next => exact asks_throw _

/-- The include directory is the given one without links and points, and it is a directory. -/
structure Included (machine : Machine) (given real : Path) : Prop where
  isReal : real = machine.realPath given
  isDirectory : ∃ mode, machine.disk.nodeAt machine.host.here true real = .ok (.directory mode)

theorem asks_checkInclude (path : Path) :
    Asks (checkInclude path) fun machine checked =>
      ∀ real, checked = .ok real → Included machine path real := by
  have refused : ∀ findings, Asks (pure (.error findings) : Action (Checked Path))
      fun machine checked => ∀ real, checked = .ok real → Included machine path real := by
    intro findings
    refine (asks_pure _).mono ?_
    rintro machine _ rfl real impossible
    cases impossible
  refine (asks_asFinding (asks_resolve path)).bind fun checked => ?_
  split
  next => exact (refused _).mono fun _ _ answered _ => answered
  next real =>
    refine (asks_isDirectory real).bind fun isDirectory => ?_
    split
    next there =>
      refine (asks_pure _).mono ?_
      rintro machine _ rfl directory isReal other same
      cases same
      exact ⟨isReal _ rfl, directory there⟩
    next => exact (refused _).mono fun _ _ answered _ _ => answered

/-- What is known of a schema that was accepted. -/
structure Accepted (directory path : Path) : Prop where
  isAbsolute : path.isAbsolute = true
  isBelow : path.isBelow directory = true
  usable : Action.holdsNull path = false

/-- What is known of schemas that were accepted: each of them was, and no two are the same. -/
structure AllAccepted (directory : Path) (paths : List Path) : Prop where
  accepted : ∀ path ∈ paths, Accepted directory path
  nodup : paths.Nodup

/-- What is known of such a schema on the machine that accepted it: it is one of the given files,
without links and points. -/
structure Admitted (machine : Machine) (files : List Path) (directory path : Path) : Prop
    extends Accepted directory path where
  isReal : ∃ file ∈ files, path = machine.realPath (directory ++ file)
  isFile : ∃ bytes mode, machine.disk.nodeAt machine.host.here true path = .ok (.file bytes mode)

/-- What is known of the schemas on the machine that accepted them. -/
structure AllAdmitted (machine : Machine) (files : List Path) (directory : Path)
    (paths : List Path) : Prop where
  admitted : ∀ path ∈ paths, Admitted machine files directory path
  nodup : paths.Nodup

theorem AllAdmitted.allAccepted {machine : Machine} {directory : Path} {files paths : List Path}
    (all : AllAdmitted machine files directory paths) : AllAccepted directory paths :=
  ⟨fun path member => (all.admitted path member).toAccepted, all.nodup⟩

/-- A further schema that differs from those before. -/
theorem AllAdmitted.concat {machine : Machine} {directory path : Path} {files paths : List Path}
    (all : AllAdmitted machine files directory paths)
    (admitted : Admitted machine files directory path) (new : path ∉ paths) :
    AllAdmitted machine files directory (paths ++ [path]) := by
  constructor
  · intro each member
    rcases List.mem_append.mp member with before | last
    · exact all.admitted each before
    · rw [List.mem_singleton.mp last]
      exact admitted
  · refine List.nodup_append.mpr ⟨all.nodup, by simp, fun each before other last same => ?_⟩
    rw [List.mem_singleton.mp last] at same
    exact new (same ▸ before)

theorem asks_checkFiles (directory : Path) (accepted files given : List Path)
    (among : ∀ file ∈ files, file ∈ given) :
    Asks (checkFiles directory accepted files) fun machine result =>
      AllAdmitted machine given directory accepted → ∀ paths, result = .ok paths →
        AllAdmitted machine given directory paths ∧
          paths.length = accepted.length + files.length := by
  induction files generalizing accepted with
  | nil =>
    refine (asks_pure _).mono ?_
    rintro machine _ rfl known paths same
    cases same
    exact ⟨known, rfl⟩
  | cons file rest inductionHypothesis =>
    have refused : ∀ issue, Asks (pure (.error issue) : Action (Except SchemaIssue (List Path)))
        fun machine result => ∀ paths, result = .ok paths →
          AllAdmitted machine given directory paths ∧
            paths.length = accepted.length + (file :: rest).length := by
      intro issue
      refine (asks_pure _).mono ?_
      rintro machine _ rfl paths impossible
      cases impossible
    refine (asks_resolve (directory ++ file)).bind fun real => ?_
    split
    next => exact (refused _).mono fun _ _ answered _ _ => answered
    next below =>
      refine (asks_isFile real).bind fun isFile => ?_
      split
      next => exact (refused _).mono fun _ _ answered _ _ _ => answered
      next there =>
        split
        next => exact (refused _).mono fun _ _ answered _ _ _ => answered
        next new =>
          refine (inductionHypothesis _ fun each member =>
            among each (List.mem_cons_of_mem _ member)).mono
              fun machine _ answered found isReal known paths same => ?_
          obtain ⟨usable, isFile⟩ := found (by simpa using there)
          have absolute : real.isAbsolute = true := isReal ▸ isAbsolute_realPath machine _
          obtain ⟨admitted, length⟩ := answered (known.concat
            ⟨⟨absolute, by simpa using below, usable⟩,
              ⟨file, among file List.mem_cons_self, isReal⟩, isFile⟩
            (by simpa using new)) paths same
          refine ⟨admitted, ?_⟩
          rw [length, List.length_append, List.length_singleton, List.length_cons]
          omega

theorem asks_checkSchemas (directory : Path) (files : List Path) :
    Asks (checkSchemas directory files) fun machine checked =>
      ∀ paths, checked = .ok paths → AllAdmitted machine files directory paths ∧ paths ≠ [] := by
  have refused : ∀ findings, Asks (pure (.error findings) : Action (Checked (List Path)))
      fun machine checked => ∀ paths, checked = .ok paths →
        AllAdmitted machine files directory paths ∧ paths ≠ [] := by
    intro findings
    refine (asks_pure _).mono ?_
    rintro machine _ rfl paths impossible
    cases impossible
  unfold checkSchemas
  split
  next => exact refused _
  next some =>
    refine (asks_asFinding (asks_checkFiles directory [] files files
      fun _ member => member)).bind fun checked => ?_
    split
    next => exact (refused _).mono fun _ _ answered _ => answered
    next => exact (refused _).mono fun _ _ answered _ => answered
    next paths =>
      refine (asks_pure _).mono ?_
      rintro machine _ rfl answered _ same
      cases same
      obtain ⟨admitted, length⟩ := answered _ rfl ⟨by simp, List.nodup_nil⟩ paths rfl
      refine ⟨admitted, fun none => some ?_⟩
      rw [none, List.length_nil, Nat.zero_add] at length
      exact List.isEmpty_iff.mpr (List.length_eq_zero_iff.mp length.symm)

theorem both_eq_ok {α β : Type} {first : Checked α} {second : Checked β} {a : α} {b : β}
    (both : Checked.both first second = .ok (a, b)) : first = .ok a ∧ second = .ok b := by
  cases first with
  | error findings => cases both
  | ok value =>
    cases second with
    | error findings => cases both
    | ok other =>
      cases both
      exact ⟨rfl, rfl⟩

/-- What is known of an invocation on the machine that checked it. -/
structure Passed (machine : Machine) (includeDirectory : Path) (inputFiles : List Path)
    (outputDirectory : Path) (invocation : Invocation) : Prop where
  included : Included machine includeDirectory invocation.includeDirectory
  schemas : AllAdmitted machine inputFiles invocation.includeDirectory invocation.inputFiles
  some : invocation.inputFiles ≠ []
  output : invocation.outputDirectory = Path.absolute ⟨.root, machine.host.here⟩ outputDirectory

/-- An invocation is made only if every field is right by itself. -/
theorem asks_assemble (includeDirectory : Checked Path) (inputFiles : Checked (List Path))
    (outputDirectory : Checked Path) (compilerOverride : Checked (Option Path)) :
    Asks (assemble includeDirectory inputFiles outputDirectory compilerOverride)
      fun machine invocation => ∃ directory files output, includeDirectory = .ok directory ∧
        inputFiles = .ok files ∧ outputDirectory = .ok output ∧
          Passed machine directory files output invocation := by
  have checksInclude : Asks (andCheck includeDirectory fun path => do
      return Checked.under (.field "include_directory") (← checkInclude path))
      fun machine checked => ∀ real, checked = .ok real →
        ∃ directory, includeDirectory = .ok directory ∧ Included machine directory real := by
    unfold andCheck
    split
    next path =>
      refine (asks_checkInclude path).bind fun checked => (asks_pure _).mono ?_
      rintro machine _ rfl included real same
      cases checked with
      | error findings => cases same
      | ok found =>
        cases same
        exact ⟨path, rfl, included real rfl⟩
    next =>
      refine (asks_pure _).mono ?_
      rintro machine _ rfl real impossible
      cases impossible
  have seesOutput : Asks (andCheck outputDirectory fun path => do
      return .ok (← Action.absolute path)) fun machine checked => ∀ real, checked = .ok real →
        ∃ output, outputDirectory = .ok output ∧
          real = Path.absolute ⟨.root, machine.host.here⟩ output := by
    unfold andCheck
    split
    next path =>
      refine asks_get.bind fun machine => (asks_pure _).mono ?_
      rintro _ _ rfl rfl real same
      exact ⟨path, rfl, (Except.ok.inj same).symm⟩
    next =>
      refine (asks_pure _).mono ?_
      rintro machine _ rfl real impossible
      cases impossible
  unfold assemble
  refine checksInclude.bind fun directory => seesOutput.bind fun checkedOutput => ?_
  split
  next => exact asks_throw _
  next directory files outputPath override both =>
    refine (asks_checkSchemas directory files).bind fun checked => ?_
    split
    next => exact asks_throw _
    next real =>
      refine (asks_pure _).mono ?_
      rintro machine _ rfl known isOutput isIncluded
      obtain ⟨included, others⟩ := both_eq_ok both
      obtain ⟨given, others⟩ := both_eq_ok others
      obtain ⟨seen, -⟩ := both_eq_ok others
      obtain ⟨output, outputGiven, outputSame⟩ := isOutput _ seen
      obtain ⟨root, rootGiven, isRoot⟩ := isIncluded _ included
      obtain ⟨admitted, some⟩ := known real rfl
      exact ⟨root, files, output, rootGiven, given, outputGiven, isRoot, admitted, some, outputSame⟩

/-- An invocation passed its checks on some machine, whose process was in a directory with a
regular path. Its output directory was read from a text. -/
def Validated (invocation : Invocation) : Prop :=
  ∃ (machine after : Machine) (includeDirectory : Checked Path) (inputFiles : Checked (List Path))
    (output : String) (compilerOverride : Checked (Option Path)),
    Path.IsRegular ⟨.root, machine.host.here⟩ ∧
      (assemble includeDirectory inputFiles (.ok (Path.parse output)) compilerOverride).on machine =
        (.ok invocation, after)

variable {invocation : Invocation}

/-- An invocation that was accepted by a process at the top passed its checks. -/
theorem validated_of_accepted {machine : Machine} {includeDirectory : Path}
    {inputFiles : List Path} {output : String} {compilerOverride : Option Path}
    (atTop : machine.host.here = [])
    (accepted : ((ofPaths includeDirectory inputFiles (Path.parse output) compilerOverride).on
      machine).1 = .ok invocation) : invocation.Validated := by
  have regular : Path.IsRegular ⟨.root, machine.host.here⟩ := by
    rw [atTop]
    exact fun part member => by cases member
  exact ⟨machine, _, _, _, output, _, regular, Action.on_eq accepted⟩

/-- What the checks of an invocation established. -/
theorem Validated.exists_passed (validated : invocation.Validated) :
    ∃ machine directory files output, Path.IsRegular ⟨.root, machine.host.here⟩ ∧
      Passed machine directory files (Path.parse output) invocation := by
  obtain ⟨machine, after, includeDirectory, inputFiles, output, override, regular, ran⟩ := validated
  obtain ⟨-, known⟩ := (asks_assemble includeDirectory inputFiles (.ok (Path.parse output)) override
    machine).of_on ran
  obtain ⟨directory, files, _, -, -, same, passed⟩ := known invocation rfl
  cases same
  exact ⟨machine, directory, files, output, regular, passed⟩

theorem Validated.isRegular (validated : invocation.Validated) :
    invocation.outputDirectory.IsRegular := by
  obtain ⟨machine, directory, files, output, regular, passed⟩ := validated.exists_passed
  rw [passed.output]
  exact regular.append (Path.isRegular_parse output)

theorem Validated.isAbsolute (validated : invocation.Validated) :
    invocation.outputDirectory.isAbsolute = true := by
  obtain ⟨machine, directory, files, output, regular, passed⟩ := validated.exists_passed
  rw [passed.output]
  exact Path.isAbsolute_append rfl _

theorem Validated.allAccepted (validated : invocation.Validated) :
    AllAccepted invocation.includeDirectory invocation.inputFiles := by
  obtain ⟨machine, directory, files, output, -, passed⟩ := validated.exists_passed
  exact passed.schemas.allAccepted

theorem Validated.inputFiles_ne_nil (validated : invocation.Validated) :
    invocation.inputFiles ≠ [] := by
  obtain ⟨machine, directory, files, output, -, passed⟩ := validated.exists_passed
  exact passed.some

theorem Validated.accepted (validated : invocation.Validated) {input : Path}
    (member : input ∈ invocation.inputFiles) : Accepted invocation.includeDirectory input :=
  validated.allAccepted.accepted input member

theorem Validated.isAbsolute_of_mem (validated : invocation.Validated) {input : Path}
    (member : input ∈ invocation.inputFiles) : input.isAbsolute = true :=
  (validated.accepted member).isAbsolute

/-- Schemas that were accepted have paths inside the directory, which can be handed to the
system. -/
theorem exists_seenFrom {directory : Path} {paths : List Path}
    (accepted : ∀ path ∈ paths, Accepted directory path) :
    ∃ schemas, seenFrom directory paths = .ok schemas ∧
      ∀ schema ∈ schemas, '\x00' ∉ schema.toList := by
  induction paths with
  | nil => exact ⟨[], rfl, fun _ impossible => by cases impossible⟩
  | cons path rest inductionHypothesis =>
    obtain ⟨schemas, seen, usable⟩ :=
      inductionHypothesis fun each member => accepted each (List.mem_cons_of_mem _ member)
    obtain ⟨-, below, usablePath⟩ := accepted path List.mem_cons_self
    obtain ⟨inner, found⟩ := Option.isSome_iff_exists.mp below
    have relative : path.relativeTo directory = .ok inner := by
      unfold Path.relativeTo
      rw [found]
    obtain ⟨-, shape⟩ := (Path.relativeTo?_eq_some_iff path directory inner).mp found
    have usableInner : Action.holdsNull inner = false := by
      rw [← Bool.not_eq_true, Action.holdsNull_iff] at usablePath ⊢
      rintro ⟨part, member, inPart⟩
      refine usablePath ⟨part, ?_, inPart⟩
      rw [shape]
      exact List.mem_append_right _ member
    refine ⟨inner.text :: schemas, ?_, fun schema member => ?_⟩
    · rw [seenFrom, relative]
      dsimp only
      rw [seen]
      rfl
    · rcases List.mem_cons.mp member with rfl | later
      · unfold Action.holdsNull at usableInner
        simpa using usableInner
      · exact usable schema later

/-- There are as many names of schemas as there are schemas. -/
theorem length_of_seenFrom {directory : Path} {paths : List Path} {schemas : List String}
    (seen : seenFrom directory paths = .ok schemas) : schemas.length = paths.length := by
  induction paths generalizing schemas with
  | nil =>
    cases seen
    rfl
  | cons path rest inductionHypothesis =>
    rw [seenFrom] at seen
    split at seen
    next => cases seen
    next inner _ =>
      cases others : seenFrom directory rest with
      | error error =>
        rw [others] at seen
        cases seen
      | ok names =>
        rw [others] at seen
        cases seen
        rw [List.length_cons, List.length_cons, inductionHypothesis others]

/-- The schemas of an invocation that passed its checks can be listed. -/
theorem Validated.virtualPaths (validated : invocation.Validated) :
    ∃ schemas, invocation.virtualPaths = .ok schemas ∧
      ∀ schema ∈ schemas, '\x00' ∉ schema.toList :=
  exists_seenFrom fun _ member => validated.accepted member

end Invocation

end Bindery
