/-
This file proves how the paths of an invocation are spelled that was made from arguments.

Arguments give paths as texts, so that no name of a path is empty, is a point or holds a slash.
This stays so when links are followed, even if they lead back to themselves: what is left to follow
is read as a text again. Two points are struck out in the end. Hence the include directory and the
schemas are what their own texts stand for, and each schema lies properly below the directory.
-/

import Bindery.Proofs.Invocation.Followed

namespace Bindery

open Text

/-! ### Paths that texts stand for -/

/-- The names of a path are such as are read from a text. -/
def Path.IsSpelled (path : Path) : Prop := path.IsRegular ∧ path.Slashless

theorem Path.isSpelled_parse (text : String) : (Path.parse text).IsSpelled :=
  ⟨isRegular_parse text, slashless_parse text⟩

theorem Path.isSpelled_nil (anchor : Anchor) : Path.IsSpelled ⟨anchor, []⟩ := by
  constructor <;> exact fun _ impossible => by cases impossible

theorem Path.IsSpelled.append {base path : Path} (baseSpelled : base.IsSpelled)
    (spelled : path.IsSpelled) : (base ++ path).IsSpelled :=
  ⟨baseSpelled.1.append spelled.1, baseSpelled.2.append spelled.2⟩

/-- A path all of whose names are among others that can be read from a text. -/
theorem Path.IsSpelled.subset {path other : Path} (spelled : other.IsSpelled)
    (among : path.parts ⊆ other.parts) : path.IsSpelled :=
  ⟨fun part member => spelled.1 part (among member),
    fun part member => spelled.2 part (among member)⟩

theorem Path.IsSpelled.concat {path : Path} (spelled : path.IsSpelled) {name : String}
    (notEmpty : name ≠ "") (notPoint : name ≠ ".") (slashless : '/' ∉ name.toList) :
    Path.IsSpelled ⟨path.anchor, path.parts ++ [name]⟩ := by
  constructor
  · intro part member
    rcases List.mem_append.mp member with front | last
    · exact spelled.1 part front
    · exact List.mem_singleton.mp last ▸ ⟨notEmpty, notPoint⟩
  · intro part member
    rcases List.mem_append.mp member with front | last
    · exact spelled.2 part front
    · exact List.mem_singleton.mp last ▸ slashless

/-- A path whose names are names of entries and hold no slashes. -/
def Path.IsFinal (path : Path) : Prop := (∀ name ∈ path.parts, IsName name) ∧ path.Slashless

/-- A path is read from its own text again, wherever it begins. -/
theorem Path.IsFinal.parse_text {path : Path} (final : path.IsFinal) :
    Path.parse path.text = path := by
  obtain ⟨anchor, names⟩ := path
  obtain ⟨named, slashless⟩ := final
  have relative : Path.parse (⟨.relative, names⟩ : Path).text = ⟨.relative, names⟩ :=
    parse_text_relative named slashless
  cases names with
  | nil => cases anchor <;> decide +kernel
  | cons first rest =>
    obtain ⟨c, notSlash, begins⟩ := exists_head_join (named first List.mem_cons_self)
      (slashless first List.mem_cons_self) rest
    obtain ⟨others, chars⟩ : ∃ others, (join "/" (first :: rest)).toList = c :: others :=
      List.head?_eq_some_iff.mp begins
    have text : ∀ anchor : Anchor, (⟨anchor, first :: rest⟩ : Path).text =
        anchor.text ++ join "/" (first :: rest) := by
      intro anchor
      refine if_neg fun empty => ?_
      have noChars := congrArg String.toList empty
      rw [Path.written, String.toList_append, chars] at noChars
      exact List.append_ne_nil_of_right_ne_nil _ (List.cons_ne_nil _ _) noChars
    have fieldsRead : ((fields '/' (c :: others)).filter isPart).map String.ofList =
        first :: rest := by
      rw [text, Anchor.text, String.empty_append] at relative
      rw [← chars]
      exact congrArg Path.parts relative
    have emptyField : ∀ chars, (fields '/' ('/' :: chars)).filter isPart =
        (fields '/' chars).filter isPart := by
      intro chars
      rw [fields, if_pos rfl, List.filter_cons]
      exact if_neg (by decide)
    cases anchor with
    | relative => exact relative
    | root =>
      have whole : ("/" ++ join "/" (first :: rest)).toList = '/' :: c :: others := by
        rw [String.toList_append, chars]
        rfl
      unfold Path.parse
      rw [text, Anchor.text, whole, emptyField, fieldsRead]
      simp [anchorOf, notSlash]
    | doubleRoot =>
      have whole : ("//" ++ join "/" (first :: rest)).toList = '/' :: '/' :: c :: others := by
        rw [String.toList_append, chars]
        rfl
      unfold Path.parse
      rw [text, Anchor.text, whole, emptyField, emptyField, fieldsRead]
      simp [anchorOf, notSlash]

/-! ### Paths without links and points -/

namespace Disk

/-- The paths that a memory of links holds are such as are read from texts. -/
def Met.IsSpelled (met : Met) : Prop :=
  ∀ link resolved, met.lookup link = some (some resolved) → resolved.IsSpelled

/-- What a resolution comes to is such as is read from texts, and so is what it remembers. -/
def Resolved.IsSpelled (resolved : Resolved) : Prop :=
  resolved.path.IsSpelled ∧ resolved.met.IsSpelled

theorem isSpelled_up {path : Path} (spelled : path.IsSpelled) : (up path).IsSpelled := by
  have pair : '/' ∉ "..".toList := by decide
  unfold up
  split
  next =>
    split
    next => exact spelled
    next =>
      exact ⟨fun part member => List.mem_singleton.mp member ▸ by decide,
        fun part member => List.mem_singleton.mp member ▸ pair⟩
  next => exact spelled.concat (by decide) (by decide) pair
  next => exact spelled.subset (List.dropLast_subset _)

theorem isSpelled_withRest {path : Path} (spelled : path.IsSpelled) (rest : List String) :
    (withRest path rest).IsSpelled :=
  spelled.append (Path.isSpelled_parse _)

theorem isSpelled_targetStart {path : Path} (spelled : path.IsSpelled) (target : String) :
    (targetStart path target).IsSpelled := by
  unfold targetStart
  split
  · exact Path.isSpelled_nil .root
  · exact spelled

theorem Met.IsSpelled.pend {met : Met} (spelled : met.IsSpelled) (link : Path) :
    Met.IsSpelled ((link, none) :: met) := by
  intro other resolved found
  by_cases same : other = link
  · rw [same, List.lookup_cons_self] at found
    cases found
  · rw [lookup_cons_of_ne same] at found
    exact spelled other resolved found

theorem Met.IsSpelled.learn {met : Met} (spelled : met.IsSpelled) (link : Path) {resolved : Path}
    (resolvedSpelled : resolved.IsSpelled) :
    Met.IsSpelled ((link, some resolved) :: met) := by
  intro other again found
  by_cases same : other = link
  · rw [same, List.lookup_cons_self] at found
    cases found
    exact resolvedSpelled
  · rw [lookup_cons_of_ne same] at found
    exact spelled other again found

/-- Names without slashes are resolved to names that can be read from a text, given the same for
the targets of links. -/
theorem isSpelled_resolveNames {disk : Disk} {hidden : Path → Bool} {here : Place}
    {follow : Met → Path → List String → Resolved}
    (followed : ∀ met path names, met.IsSpelled → path.IsSpelled →
      (∀ name ∈ names, '/' ∉ name.toList) → (follow met path names).IsSpelled)
    {met : Met} {path : Path} {names : List String} (metSpelled : met.IsSpelled)
    (spelled : path.IsSpelled) (slashless : ∀ name ∈ names, '/' ∉ name.toList) :
    (resolveNames disk hidden here follow met path names).IsSpelled := by
  induction names generalizing met path with
  | nil => exact ⟨spelled, metSpelled⟩
  | cons name rest inductionHypothesis =>
    have restSlashless : ∀ name ∈ rest, '/' ∉ name.toList := fun each member =>
      slashless each (List.mem_cons_of_mem _ member)
    unfold resolveNames
    split
    next => exact inductionHypothesis metSpelled spelled restSlashless
    next notPoint =>
      split
      next => exact inductionHypothesis metSpelled (isSpelled_up spelled) restSlashless
      next =>
        have next : Path.IsSpelled ⟨path.anchor, path.parts ++ [name]⟩ :=
          spelled.concat (fun empty => notPoint (.inl empty)) (fun point => notPoint (.inr point))
            (slashless name List.mem_cons_self)
        dsimp only
        split
        next target _ =>
          split
          next resolved known =>
            exact inductionHypothesis metSpelled (metSpelled _ _ known) restSlashless
          next => exact ⟨isSpelled_withRest next rest, metSpelled⟩
          next =>
            have inner := followed _ _ (cut '/' target)
              (metSpelled.pend ⟨path.anchor, path.parts ++ [name]⟩)
              (isSpelled_targetStart spelled target) fun _ member => not_mem_of_mem_cut member
            split
            next => exact inductionHypothesis (inner.2.learn _ inner.1) inner.1 restSlashless
            next => exact ⟨isSpelled_withRest inner.1 rest, inner.2⟩
        next => exact inductionHypothesis metSpelled next restSlashless

theorem isSpelled_resolveDeep {disk : Disk} {hidden : Path → Bool} {here : Place} (depth : Nat)
    {met : Met} {path : Path} {names : List String} (metSpelled : met.IsSpelled)
    (spelled : path.IsSpelled)
    (slashless : ∀ name ∈ names, '/' ∉ name.toList) :
    (resolveDeep disk hidden here depth met path names).IsSpelled := by
  induction depth generalizing met path names with
  | zero =>
    exact isSpelled_resolveNames (fun met path names metSpelled spelled _ =>
      ⟨isSpelled_withRest spelled names, metSpelled⟩) metSpelled spelled slashless
  | succ depth inductionHypothesis =>
    exact isSpelled_resolveNames (fun _ _ _ => inductionHypothesis) metSpelled spelled slashless

theorem mem_collapse {name : String} {names : List String} (member : name ∈ collapse names) :
    name ∈ names ∧ name ≠ ".." := by
  induction names using List.reverseRecOn with
  | nil => cases member
  | append_singleton front last inductionHypothesis =>
    by_cases isUp : last = ".."
    · rw [isUp, collapse_concat_up] at member
      obtain ⟨before, notUp⟩ := inductionHypothesis (List.mem_of_mem_dropLast member)
      exact ⟨List.mem_append_left _ before, notUp⟩
    · rw [collapse_concat _ isUp] at member
      rcases List.mem_append.mp member with kept | added
      · obtain ⟨before, notUp⟩ := inductionHypothesis kept
        exact ⟨List.mem_append_left _ before, notUp⟩
      · exact ⟨List.mem_append_right _ added, List.mem_singleton.mp added ▸ isUp⟩

/-- A path that is read from a text has names of entries alone once links and points are gone. -/
theorem isFinal_realPath {disk : Disk} {hidden : Path → Bool} {here : Place}
    (hereSpelled : Path.IsSpelled ⟨.root, here⟩) {path : Path} (slashless : path.Slashless) :
    (disk.realPath hidden here path).IsFinal := by
  have start : (startPath path).IsSpelled := by
    unfold startPath
    split <;> exact Path.isSpelled_nil _
  have nothingMet : Met.IsSpelled [] := fun _ _ impossible => by cases impossible
  have found : (resolveDeep disk hidden here (disk.depthBound here) [] (startPath path)
      path.parts).path.IsSpelled :=
    (isSpelled_resolveDeep _ nothingMet start slashless).1
  have whole := hereSpelled.append found
  constructor
  · intro name member
    obtain ⟨among, notUp⟩ := mem_collapse member
    exact ⟨(whole.1 name among).1, (whole.1 name among).2, notUp⟩
  · exact fun name member => whole.2 name (mem_collapse member).1

end Disk

/-! ### Invocations from arguments -/

namespace Invocation

theorem required_eq_ok {α : Type} {arguments : Arguments} {name : String}
    {read : Datum → Checked α} {value : α}
    (accepted : Checked.required arguments name read = .ok value) :
    ∃ datum, read datum = .ok value := by
  unfold Checked.required Checked.under at accepted
  split at accepted
  next datum _ =>
    cases isRead : read datum with
    | error findings =>
      rw [isRead] at accepted
      cases accepted
    | ok other =>
      rw [isRead] at accepted
      cases accepted
      exact ⟨datum, isRead⟩
  next => cases accepted

theorem isSpelled_of_readPath {datum : Datum} {path : Path}
    (isRead : Datum.readPath datum = .ok path) : path.IsSpelled := by
  cases datum with
  | text value =>
    cases isRead
    exact Path.isSpelled_parse value
  | _ => cases isRead

theorem isSpelled_of_items {index : Nat} {data : List Datum} {paths : List Path}
    (isRead : Checked.items Datum.readPath index data = .ok paths) :
    ∀ path ∈ paths, path.IsSpelled := by
  induction data generalizing index paths with
  | nil =>
    cases isRead
    exact fun _ impossible => by cases impossible
  | cons datum rest inductionHypothesis =>
    rw [Checked.items] at isRead
    cases first : Datum.readPath datum with
    | error findings =>
      rw [first] at isRead
      cases isRead
    | ok path =>
      cases others : Checked.items Datum.readPath (index + 1) rest with
      | error findings =>
        rw [first, others] at isRead
        cases isRead
      | ok more =>
        rw [first, others] at isRead
        cases isRead
        intro each member
        rcases List.mem_cons.mp member with rfl | later
        · exact isSpelled_of_readPath first
        · exact inductionHypothesis others each later

theorem isSpelled_of_readPaths {datum : Datum} {paths : List Path}
    (isRead : Datum.readPaths datum = .ok paths) : ∀ path ∈ paths, path.IsSpelled := by
  cases datum with
  | list values => exact isSpelled_of_items isRead
  | _ => cases isRead

/-- An invocation was made from arguments, by a process in a directory whose path a text stands
for. -/
def Received (invocation : Invocation) : Prop :=
  ∃ (machine : Machine) (arguments : Arguments), Path.IsSpelled ⟨.root, machine.host.here⟩ ∧
    ((ofArguments arguments).on machine).1 = .ok invocation

variable {invocation : Invocation}

/-- The include directory of such an invocation is an absolute path that its text stands for. -/
structure IsRoot (directory : Path) : Prop where
  isFinal : directory.IsFinal
  isAbsolute : directory.isAbsolute = true

/-- A schema of such an invocation is the include directory with some names more. -/
def IsInside (directory path : Path) : Prop :=
  path.IsFinal ∧ ∃ names, names ≠ [] ∧ path = ⟨directory.anchor, directory.parts ++ names⟩

/-- What is known of the paths of an invocation that was made from arguments. -/
theorem Received.spelled (received : invocation.Received) :
    IsRoot invocation.includeDirectory ∧
      ∀ input ∈ invocation.inputFiles, IsInside invocation.includeDirectory input := by
  obtain ⟨machine, arguments, here, made⟩ := received
  obtain ⟨directory, files, output, directoryRead, filesRead, -, passed⟩ :=
    ((asks_assemble _ _ _ _ machine).2 invocation made)
  obtain ⟨directoryDatum, directoryRead⟩ := required_eq_ok directoryRead
  obtain ⟨filesDatum, filesRead⟩ := required_eq_ok filesRead
  have root : IsRoot invocation.includeDirectory := by
    rw [passed.included.isReal]
    exact ⟨Disk.isFinal_realPath here (isSpelled_of_readPath directoryRead).2,
      Action.isAbsolute_realPath machine _⟩
  refine ⟨root, fun input member => ?_⟩
  have admitted := passed.schemas.admitted input member
  obtain ⟨file, given, isReal⟩ := admitted.isReal
  have slashless : (invocation.includeDirectory ++ file).Slashless :=
    root.isFinal.2.append (isSpelled_of_readPaths filesRead file given).2
  have final : input.IsFinal := by
    rw [isReal]
    exact Disk.isFinal_realPath here slashless
  obtain ⟨rest, found⟩ := Option.isSome_iff_exists.mp admitted.isBelow
  obtain ⟨-, shape⟩ := (Path.relativeTo?_eq_some_iff _ _ _).mp found
  refine ⟨final, rest.parts, fun none => ?_, shape⟩
  -- A file is not the directory itself.
  obtain ⟨mode, directoryThere⟩ := passed.included.isDirectory
  obtain ⟨bytes, fileMode, fileThere⟩ := admitted.isFile
  rw [none, List.append_nil] at shape
  rw [shape] at fileThere
  cases directoryThere.symm.trans fileThere

end Invocation

end Bindery
