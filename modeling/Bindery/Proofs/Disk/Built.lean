/-
This file describes what becomes of a disk when the directories that a path goes through are made.

Nothing that is there is lost, and new entries are directories. A new directory holds nothing, so
that a longer path leads to nothing yet: if a path leads to an entry, no directory on the way to
it was made.
-/

import Bindery.Proofs.Disk.Siblings

namespace Bindery

/-- A path without empty names and single points. -/
def Path.IsRegular (path : Path) : Prop := ∀ part ∈ path.parts, part ≠ "" ∧ part ≠ "."

theorem Path.isPart_iff {field : List Char} :
    Path.isPart field = true ↔ field ≠ [] ∧ field ≠ ['.'] := by
  simp [Path.isPart]

theorem Path.isPart_of_not_mem {field : List Char} (some : field ≠ []) (noPoint : '.' ∉ field) :
    Path.isPart field = true :=
  Path.isPart_iff.mpr ⟨some, fun point => noPoint (point ▸ List.mem_cons_self)⟩

/-- A text that does not begin with a slash is a relative path. -/
theorem Path.anchorOf_of_head {text : List Char} (notSlash : text.head? ≠ some '/') :
    Path.anchorOf text = .relative := by
  unfold Path.anchorOf
  split
  next => exact absurd rfl notSlash
  next => exact absurd rfl notSlash
  next => exact absurd rfl notSlash
  next => rfl

/-- A path of names of entries alone. -/
def Path.IsPlain (path : Path) : Prop := ∀ part ∈ path.parts, IsName part

instance (path : Path) : Decidable path.IsRegular := by
  unfold Path.IsRegular
  infer_instance

instance (path : Path) : Decidable path.IsPlain := by
  unfold Path.IsPlain
  infer_instance

theorem Path.IsPlain.isRegular {path : Path} (plain : path.IsPlain) : path.IsRegular :=
  fun part member => ⟨(plain part member).1, (plain part member).2.1⟩

theorem Path.IsRegular.parent {path : Path} (regular : path.IsRegular) : path.parent.IsRegular :=
  fun part member => regular part (List.dropLast_subset _ member)

theorem Path.IsPlain.parent {path : Path} (plain : path.IsPlain) : path.parent.IsPlain :=
  fun part member => plain part (List.dropLast_subset _ member)

theorem Path.name_mem {path : Path} (some : path.parts ≠ []) : path.name ∈ path.parts := by
  rw [Path.name, List.getLastD_eq_getLast?, List.getLast?_eq_some_getLast some]
  exact List.getLast_mem some

theorem Path.IsRegular.isName {path : Path} (regular : path.IsRegular) (named : path.IsNamed) :
    IsName path.name := by
  obtain ⟨notEmpty, notPoint⟩ := regular path.name (Path.name_mem named.1)
  exact ⟨notEmpty, notPoint, named.2⟩

namespace Disk

variable {disk other : Disk} {here directory : Place} {path parent : Path}

/-! ### Disks with more on them -/

/-- Everything on one disk is on another one. -/
def Keeps (disk other : Disk) : Prop :=
  ∀ place node, disk.get? place = some node → other.get? place = some node

theorem Keeps.trans {third : Disk} (first : disk.Keeps other) (second : other.Keeps third) :
    disk.Keeps third :=
  fun place node found => second place node (first place node found)

theorem keeps_put {place : Place} (free : disk.get? place = none) (node : Node) :
    disk.Keeps (disk.put place node) := by
  intro each entry found
  rw [get?_put_of_ne _ (fun same => ?_), found]
  rw [same, free] at found
  cases found

theorem startOf_of_isAbsolute (absolute : path.isAbsolute = true) : startOf here path = [] :=
  if_pos absolute

/-- Where an absolute path leads on two disks, it leads on every disk that has what they have in
common. -/
theorem Leads.carry {middle : Disk} (absolute : parent.isAbsolute = true)
    (leads : disk.Leads here parent directory)
    (common : ∀ place node, disk.get? place = some node → node.isFile = false →
      middle.get? place = none ∨ middle.get? place = some node ∧ other.get? place = some node)
    {again : Place} (leadsAgain : middle.Leads here parent again) :
    again = directory ∧ other.Leads here parent directory := by
  obtain ⟨mode, walked⟩ := leads
  obtain ⟨otherMode, walkedAgain⟩ := leadsAgain
  have start : startOf here parent = [] := startOf_of_isAbsolute absolute
  rw [start] at walked walkedAgain
  have agree : ∀ above, above <+: [] → middle.get? above = disk.get? above ∧
      other.get? above = disk.get? above := by
    intro above atTop
    rw [List.prefix_nil.mp atTop, get?_top, get?_top, get?_top]
    exact ⟨rfl, rfl⟩
  obtain ⟨same, carried⟩ := (way_of_walk_eq walked).carry
    (fun each entry found counts => common each entry found (by
      rcases counts with notFile | ⟨-, same⟩
      · exact notFile
      · rw [same]
        rfl)) agree walkedAgain
  exact ⟨same, mode, by rw [start]; exact carried⟩

/-- Files do not matter to where a path leads that leads to a directory. -/
theorem Leads.keep (absolute : parent.isAbsolute = true)
    (leads : disk.Leads here parent directory)
    (keeps : ∀ place node, disk.get? place = some node → node.isFile = false →
      other.get? place = some node) : other.Leads here parent directory :=
  (leads.carry absolute
    (fun place node found notFile => .inr ⟨found, keeps place node found notFile⟩) leads).2

/-- An absolute path leads to the same place on a disk that has the same directories and links,
and the same entry there. -/
theorem locate_keep (absolute : path.isAbsolute = true) {last : Bool} {place : Place} {node : Node}
    (located : disk.locate here last path = .ok (.found place node))
    (keeps : ∀ each entry, disk.get? each = some entry →
      entry.isFile = false ∨ each = place ∧ entry = node → other.get? each = some entry) :
    other.locate here last path = .ok (.found place node) := by
  unfold locate at *
  split
  next long =>
    rw [if_pos long] at located
    cases located
  next fits =>
    rw [if_neg fits] at located
    rw [startOf_of_isAbsolute absolute] at *
    refine ((way_of_walk_eq located).carry
      (fun each entry found counts => .inr ⟨found, keeps each entry found counts⟩)
      (fun above atTop => ?_) located).2
    rw [List.prefix_nil.mp atTop, get?_top, get?_top]
    exact ⟨rfl, rfl⟩

/-! ### Making the directories of a path -/

/-- A disk comes from another one by making directories that a path goes through. -/
inductive Built (here : Place) (path : Path) (disk : Disk) : Disk → Prop
  | same : Built here path disk disk
  | made {between after : Disk} (built : Built here path disk between) {stage : Path}
    (onTheWay : ∃ rest, path = stage.down rest)
    (made : between.makeDirectory here stage directoryMode = .ok after) :
    Built here path disk after

/-- A directory can be made only at the name of an entry. -/
theorem makeDirectory_named {stage : Path} {mode : Mode}
    (made : disk.makeDirectory here stage mode = .ok other) : stage.IsNamed := by
  unfold makeDirectory at made
  split at made
  next => cases made
  next => cases made
  next located => exact locateLast_named located

/-- Making a directory that a path goes through puts it at a free place in a directory. -/
theorem makeDirectory_stage (regular : path.IsRegular) {stage : Path}
    (onTheWay : ∃ rest, path = stage.down rest) {mode : Mode}
    (made : disk.makeDirectory here stage mode = .ok other) :
    ∃ front name directory, stage = Path.down front [name] ∧ IsName name ∧
      isLongName name = false ∧ disk.Leads here front directory ∧
      disk.get? (directory ++ [name]) = none ∧
      other = disk.put (directory ++ [name]) (.directory mode) := by
  obtain ⟨rest, onTheWay⟩ := onTheWay
  have stageNamed := makeDirectory_named made
  have shape : stage.parent.down [stage.name] = stage := stage.down_parent stageNamed.1
  have stageRegular : stage.IsRegular := by
    intro part member
    refine regular part ?_
    rw [onTheWay]
    exact List.mem_append_left _ member
  have named : IsName stage.name := stageRegular.isName stageNamed
  rw [← shape] at made
  obtain ⟨directory, leads, fits, free, same⟩ := makeDirectory_down named made
  exact ⟨stage.parent, stage.name, directory, shape.symm, named, fits.2, leads, free, same⟩

/-- A path leads to the directory that was made for it. -/
theorem makeDirectory_leads (regular : path.IsRegular) (absolute : path.isAbsolute = true)
    {mode : Mode} (made : disk.makeDirectory here path mode = .ok other) :
    ∃ directory, other.Leads here path directory := by
  obtain ⟨front, name, directory, shape, named, short, leads, free, rfl⟩ :=
    makeDirectory_stage regular ⟨[], by simp [Path.down]⟩ made
  have frontAbsolute : front.isAbsolute = true := by
    rw [shape] at absolute
    exact absolute
  have kept : (disk.put (directory ++ [name]) (.directory mode)).Leads here front directory :=
    leads.keep frontAbsolute fun place node found _ => keeps_put free _ place node found
  rw [shape]
  exact ⟨directory ++ [name], kept.down named short ⟨mode, get?_put_self disk (by simp) _⟩⟩

namespace Built

theorem trans {first second third : Disk} (built : Built here path first second)
    (more : Built here path second third) : Built here path first third := by
  induction more with
  | same => exact built
  | made _ onTheWay made inductionHypothesis => exact .made inductionHypothesis onTheWay made

/-- The directories of a shorter path are directories of the longer one. -/
theorem down {front : Path} {more : List String} (built : Built here front disk other) :
    Built here (front.down more) disk other := by
  induction built with
  | same => exact .same
  | made _ onTheWay made inductionHypothesis =>
    obtain ⟨rest, onTheWay⟩ := onTheWay
    refine .made inductionHypothesis ⟨rest ++ more, ?_⟩ made
    rw [onTheWay]
    simp [Path.down]

theorem of_parent (built : Built here path.parent disk other) : Built here path disk other := by
  by_cases top : path.parts = []
  · have same : path.parent = path := by
      show (⟨path.anchor, path.parts.dropLast⟩ : Path) = path
      rw [top, List.dropLast_nil, ← top]
    rwa [same] at built
  · have longer : Built here (path.parent.down [path.name]) disk other := built.down
    rwa [path.down_parent top] at longer

theorem keeps (regular : path.IsRegular) (built : Built here path disk other) :
    disk.Keeps other := by
  induction built with
  | same => exact fun place node found => found
  | made _ onTheWay made inductionHypothesis =>
    obtain ⟨front, name, directory, -, -, -, -, free, rfl⟩ :=
      makeDirectory_stage regular onTheWay made
    exact inductionHypothesis.trans (keeps_put free _)

theorem isTree (regular : path.IsRegular) (absolute : path.isAbsolute = true)
    (built : Built here path disk other) (isTree : disk.IsTree) : other.IsTree := by
  induction built with
  | same => exact isTree
  | made _ onTheWay made inductionHypothesis =>
    obtain ⟨front, name, directory, shape, -, -, leads, free, rfl⟩ :=
      makeDirectory_stage regular onTheWay made
    have start : startOf here front = [] := by
      obtain ⟨rest, onTheWay⟩ := onTheWay
      refine startOf_of_isAbsolute ?_
      rw [onTheWay, shape] at absolute
      exact absolute
    have parent : HasDirectory _ directory :=
      leads.hasDirectory inductionHypothesis (by rw [start]; exact hasDirectory_top _)
    exact inductionHypothesis.put parent (.inl rfl)

end Built

/-- A walk through a directory that was just made ends there, since the directory is empty. -/
theorem makeDirectory_blocks (isTree : disk.IsTree) (absolute : path.isAbsolute = true)
    (plain : path.IsPlain) {stage : Path} {rest : List String} (some : rest ≠ [])
    (onTheWay : path = stage.down rest) {mode : Mode}
    (made : disk.makeDirectory here stage mode = .ok other) (last : Bool) (place : Place)
    (node : Node) :
    other.walk last linkLimit (startOf here path) path.parts ≠ .ok (.found place node) := by
  obtain ⟨front, name, directory, shape, named, short, leads, free, rfl⟩ :=
    makeDirectory_stage plain.isRegular ⟨rest, onTheWay⟩ made
  have whole : path = front.down (name :: rest) := by
    rw [onTheWay, shape]
    simp [Path.down]
  have frontAbsolute : front.isAbsolute = true := by
    rw [whole] at absolute
    exact absolute
  have kept : (disk.put (directory ++ [name]) (.directory mode)).Leads here front directory :=
    leads.keep frontAbsolute fun place node found _ => keeps_put free _ place node found
  obtain ⟨parentMode, walked⟩ := kept
  obtain ⟨left, onward⟩ := (way_of_walk_eq walked).walk_append
  -- The walk reaches the new directory, which is empty, with names left.
  intro found
  rw [whole] at found
  have walkedOn := (onward last (name :: rest) (List.cons_ne_nil _ _)).symm.trans found
  rw [walk_enter named short (get?_put_self disk (by simp) _)] at walkedOn
  obtain ⟨next, others, rfl⟩ := List.exists_cons_of_ne_nil some
  have nextNamed : IsName next := by
    refine plain next ?_
    rw [whole]
    simp [Path.down]
  have absent : (disk.put (directory ++ [name]) (.directory mode)).get?
      (directory ++ [name] ++ [next]) = none := by
    rw [get?_put_of_ne _ (by simp)]
    exact isTree.get?_under free [next]
  rw [walk_name nextNamed, absent] at walkedOn
  split at walkedOn
  · cases walkedOn
  · dsimp only at walkedOn
    split at walkedOn <;> cases walkedOn

/-- A path through a directory that was just made leads to no entry. -/
theorem makeDirectory_hides (isTree : disk.IsTree) (absolute : path.isAbsolute = true)
    (plain : path.IsPlain) {stage : Path} (rest : List String) (some : rest ≠ [])
    (onTheWay : path = stage.down rest) {mode : Mode}
    (made : disk.makeDirectory here stage mode = .ok other) : other.entryAt here path = none := by
  unfold entryAt locate
  split
  next place node located =>
    split at located
    next => cases located
    next =>
      exact absurd located
        (makeDirectory_blocks isTree absolute plain some onTheWay made false place node)
  next => rfl

/-- A path that leads to a directory led there before, or else the directory is new, and empty. -/
theorem Built.eq_or_new (isTree : disk.IsTree) (absolute : path.isAbsolute = true)
    (plain : path.IsPlain) (built : Built here path disk other)
    (leads : other.Leads here path directory) :
    other = disk ∨ disk.get? directory = none ∧
      ∀ rest, rest ≠ [] → other.get? (directory ++ rest) = none := by
  cases built with
  | same => exact .inl rfl
  | @made between _ built stage onTheWay made =>
    refine .inr ?_
    have treeBetween := built.isTree plain.isRegular absolute isTree
    obtain ⟨rest, whole⟩ := onTheWay
    by_cases last : rest = []
    · have atStage : stage = path := by
        rw [whole, last, Path.down, List.append_nil]
      rw [atStage] at made
      obtain ⟨front, name, found, shape, named, short, leadsFront, free, rfl⟩ :=
        makeDirectory_stage plain.isRegular ⟨[], by simp [Path.down]⟩ made
      have frontAbsolute : front.isAbsolute = true := by
        rw [shape] at absolute
        exact absolute
      have kept := leadsFront.keep frontAbsolute
        fun place node found _ => keeps_put free (.directory directoryMode) place node found
      rw [shape] at leads
      cases leads.unique
        (kept.down named short ⟨_, get?_put_self between (by simp) (.directory directoryMode)⟩)
      constructor
      · by_contra taken
        obtain ⟨node, there⟩ := Option.ne_none_iff_exists'.mp taken
        rw [built.keeps plain.isRegular _ node there] at free
        cases free
      · intro below some
        rw [get?_put_of_ne _ (by simpa using some)]
        exact treeBetween.get?_under free below
    · obtain ⟨mode, walked⟩ := leads
      exact absurd walked (makeDirectory_blocks treeBetween absolute plain last whole made true _ _)

/-- Either no directory was made for a path, or something below it is missing before and after. -/
theorem Built.eq_or_absent (isTree : disk.IsTree) (absolute : path.isAbsolute = true)
    (plain : path.IsPlain) (named : path.parts ≠ []) (built : Built here path.parent disk other) :
    other = disk ∨ other.entryAt here path = none ∧ disk.entryAt here path = none := by
  have parentRegular : path.parent.IsRegular := plain.isRegular.parent
  have hidden : other = disk ∨ other.entryAt here path = none := by
    cases built with
    | same => exact .inl rfl
    | made built onTheWay made =>
      obtain ⟨rest, onTheWay⟩ := onTheWay
      refine .inr (makeDirectory_hides (built.isTree parentRegular absolute isTree) absolute plain
        (rest ++ [path.name]) (by simp) ?_ made)
      refine (path.down_parent named).symm.trans ?_
      rw [onTheWay]
      simp [Path.down]
  rcases hidden with same | hidden
  · exact .inl same
  · refine .inr ⟨hidden, ?_⟩
    have keeps := built.keeps parentRegular
    unfold entryAt at hidden ⊢
    split
    next place node located =>
      rw [locate_keep absolute located fun each entry found _ => keeps each entry found] at hidden
      cases hidden
    next => rfl

end Disk

end Bindery
