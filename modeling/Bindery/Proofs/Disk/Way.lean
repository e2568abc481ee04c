/-
This file describes successful walks over a disk step by step.

A walk skips points, goes up, enters directories and follows links, and it ends at what lies under
its last name or at a free name. What lies behind a path that leads to a directory is found by
walking on from there. A walk depends on no files but the one that it ends at, so that it ends at
the same place on every disk that has the same directories and links on the way.
-/

import Bindery.Disk.Walk
import Bindery.Proofs.Disk.Entries

namespace Bindery

/-- A name that an entry can have: not empty, and neither of the two names made of points. -/
def IsName (name : String) : Prop := name ≠ "" ∧ name ≠ "." ∧ name ≠ ".."

instance (name : String) : Decidable (IsName name) := by
  unfold IsName
  infer_instance

theorem isName_of_length {name : String} (long : 2 < name.length) : IsName name := by
  refine ⟨?_, ?_, ?_⟩ <;> rintro rfl <;> exact absurd long (by decide)

namespace Disk

variable {disk : Disk} {last : Bool} {links : Nat} {here : Place} {name : String}
  {rest : List String}

/-! ### One step of a walk -/

/-- Following a link costs one of the links that may be followed. -/
def followWithin (disk : Disk) (last : Bool) : Nat → Place → List String → Except Errno Spot
  | 0 => fun _ _ => .error Errno.linkLoop
  | links + 1 => disk.walk last links

theorem walk_eq_walkNames (disk : Disk) (last : Bool) (links : Nat) :
    disk.walk last links = disk.walkNames last (disk.followWithin last links) := by
  cases links <;> rfl

theorem walk_nil (disk : Disk) (last : Bool) (links : Nat) (here : Place) :
    disk.walk last links here [] =
      .ok (.found here ((disk.get? here).getD (.directory topMode))) := by
  rw [walk_eq_walkNames]
  rfl

theorem walk_skip (point : name = "" ∨ name = ".") :
    disk.walk last links here (name :: rest) = disk.walk last links here rest := by
  rw [walk_eq_walkNames, walkNames, if_pos point]

theorem walk_up : disk.walk last links here (".." :: rest) =
    disk.walk last links here.dropLast rest := by
  rw [walk_eq_walkNames, walkNames, if_neg (by decide), if_pos rfl]

/-- A name of an entry is looked up. -/
theorem walk_name (named : IsName name) :
    disk.walk last links here (name :: rest) =
      if isLongName name then .error Errno.nameTooLong
      else
        match disk.get? (here ++ [name]) with
        | none => if rest = [] then .ok (.vacant here name) else .error Errno.noEntry
        | some (.directory _) => disk.walk last links (here ++ [name]) rest
        | some (.file bytes mode) =>
          if rest = [] then .ok (.found (here ++ [name]) (.file bytes mode))
          else .error Errno.notDirectory
        | some (.link target) =>
          if rest = [] ∧ last = false then .ok (.found (here ++ [name]) (.link target))
          else disk.followWithin last links (linkWay here target).1
            ((linkWay here target).2 ++ rest) := by
  obtain ⟨notEmpty, notPoint, notUp⟩ := named
  rw [walk_eq_walkNames, walkNames, if_neg (by simp [notEmpty, notPoint])]
  exact if_neg notUp

theorem walk_absent (named : IsName name) (short : isLongName name = false)
    (free : disk.get? (here ++ [name]) = none) :
    disk.walk last links here (name :: rest) =
      if rest = [] then .ok (.vacant here name) else .error Errno.noEntry := by
  rw [walk_name named, free, short, if_neg (by simp)]

theorem walk_enter (named : IsName name) (short : isLongName name = false) {mode : Mode}
    (found : disk.get? (here ++ [name]) = some (.directory mode)) :
    disk.walk last links here (name :: rest) = disk.walk last links (here ++ [name]) rest := by
  rw [walk_name named, found, short, if_neg (by simp)]

theorem walk_follow (named : IsName name) (short : isLongName name = false) {target : String}
    (found : disk.get? (here ++ [name]) = some (.link target))
    (goesOn : ¬ (rest = [] ∧ last = false)) :
    disk.walk last (links + 1) here (name :: rest) =
      disk.walk last links (linkWay here target).1 ((linkWay here target).2 ++ rest) := by
  rw [walk_name named, found, short, if_neg (by simp)]
  exact if_neg goesOn

/-- The last name is that of an entry, which is not followed if it is a link. -/
theorem walk_last (named : IsName name) (short : isLongName name = false) {node : Node}
    (found : disk.get? (here ++ [name]) = some node) (kept : node.isLink = false ∨ last = false) :
    disk.walk last links here [name] = .ok (.found (here ++ [name]) node) := by
  rw [walk_name named, found, short, if_neg (by simp)]
  cases node with
  | file bytes mode => rfl
  | directory mode =>
    show disk.walk last links (here ++ [name]) [] = _
    rw [walk_nil, found]
    rfl
  | link target => exact if_pos ⟨rfl, kept.resolve_left (by simp [Node.isLink])⟩

/-! ### Walks as derivations -/

/-- A walk that succeeds, with every step that it takes. -/
inductive Way (disk : Disk) (last : Bool) : Nat → Place → List String → Spot → Prop
  /-- No names are left. -/
  | arrived {links : Nat} {here : Place} :
    Way disk last links here [] (.found here ((disk.get? here).getD (.directory topMode)))
  /-- A point is skipped. -/
  | skip {links : Nat} {here : Place} {name : String} {rest : List String} {spot : Spot}
    (point : name = "" ∨ name = ".") (onward : Way disk last links here rest spot) :
    Way disk last links here (name :: rest) spot
  /-- Two points lead up. -/
  | up {links : Nat} {here : Place} {rest : List String} {spot : Spot}
    (onward : Way disk last links here.dropLast rest spot) :
    Way disk last links here (".." :: rest) spot
  /-- A directory is entered. -/
  | enter {links : Nat} {here : Place} {name : String} {rest : List String} {spot : Spot}
    {mode : Mode} (named : IsName name) (short : isLongName name = false)
    (found : disk.get? (here ++ [name]) = some (.directory mode))
    (onward : Way disk last links (here ++ [name]) rest spot) :
    Way disk last links here (name :: rest) spot
  /-- The last name is free. -/
  | free {links : Nat} {here : Place} {name : String} (named : IsName name)
    (short : isLongName name = false) (absent : disk.get? (here ++ [name]) = none) :
    Way disk last links here [name] (.vacant here name)
  /-- The last name is that of a file. -/
  | file {links : Nat} {here : Place} {name : String} {bytes : List UInt8} {mode : Mode}
    (named : IsName name) (short : isLongName name = false)
    (found : disk.get? (here ++ [name]) = some (.file bytes mode)) :
    Way disk last links here [name] (.found (here ++ [name]) (.file bytes mode))
  /-- The last name is that of a link, which is not followed. -/
  | link {links : Nat} {here : Place} {name target : String} (named : IsName name)
    (short : isLongName name = false) (found : disk.get? (here ++ [name]) = some (.link target))
    (notFollowed : last = false) :
    Way disk last links here [name] (.found (here ++ [name]) (.link target))
  /-- A link is followed. -/
  | follow {links : Nat} {here : Place} {name target : String} {rest : List String} {spot : Spot}
    (named : IsName name) (short : isLongName name = false)
    (found : disk.get? (here ++ [name]) = some (.link target))
    (goesOn : ¬ (rest = [] ∧ last = false))
    (onward : Way disk last links (linkWay here target).1 ((linkWay here target).2 ++ rest) spot) :
    Way disk last (links + 1) here (name :: rest) spot

/-- A walk that succeeds along names, given the same for the targets of links. -/
theorem way_of_walk_eq_within (names : List String)
    (followed : ∀ start way spot, disk.followWithin last links start way = .ok spot →
      ∃ fewer, links = fewer + 1 ∧ Way disk last fewer start way spot) :
    ∀ here spot, disk.walk last links here names = .ok spot →
      Way disk last links here names spot := by
  induction names with
  | nil =>
    intro here spot walked
    rw [walk_nil] at walked
    cases walked
    exact .arrived
  | cons name rest inductionHypothesis =>
    intro here spot walked
    by_cases point : name = "" ∨ name = "."
    · rw [walk_skip point] at walked
      exact .skip point (inductionHypothesis _ _ walked)
    · by_cases above : name = ".."
      · subst above
        rw [walk_up] at walked
        exact .up (inductionHypothesis _ _ walked)
      · have named : IsName name := ⟨fun empty => point (.inl empty), fun one => point (.inr one),
          above⟩
        rw [walk_name named] at walked
        cases short : isLongName name with
        | true =>
          rw [short, if_pos rfl] at walked
          cases walked
        | false =>
          rw [short, if_neg (by simp)] at walked
          cases found : disk.get? (here ++ [name]) with
          | none =>
            simp only [found] at walked
            by_cases done : rest = []
            · subst done
              rw [if_pos rfl] at walked
              cases walked
              exact .free named short found
            · rw [if_neg done] at walked
              cases walked
          | some node =>
            simp only [found] at walked
            cases node with
            | directory mode => exact .enter named short found (inductionHypothesis _ _ walked)
            | file bytes mode =>
              by_cases done : rest = []
              · subst done
                simp only [if_true] at walked
                cases walked
                exact .file named short found
              · simp only [if_neg done] at walked
                cases walked
            | link target =>
              by_cases done : rest = [] ∧ last = false
              · simp only [if_pos done] at walked
                obtain ⟨empty, notFollowed⟩ := done
                subst empty
                cases walked
                exact .link named short found notFollowed
              · simp only [if_neg done] at walked
                obtain ⟨fewer, same, onward⟩ := followed _ _ _ walked
                subst same
                exact .follow named short found done onward

theorem way_of_walk_eq {names : List String} {spot : Spot}
    (walked : disk.walk last links here names = .ok spot) :
    Way disk last links here names spot := by
  -- The names are the inner induction: they grow when a link is followed, and then the links get
  -- fewer.
  induction links generalizing here names spot with
  | zero =>
    refine way_of_walk_eq_within names (fun start way spot followed => ?_) here spot walked
    cases followed
  | succ links inductionHypothesis =>
    exact way_of_walk_eq_within names
      (fun start way spot followed => ⟨links, rfl, inductionHypothesis followed⟩) here spot walked

/-! ### Where walks end -/

/-- A spot tells what the disk holds: an entry, or a free name in a directory. -/
def Holds (disk : Disk) : Spot → Prop
  | .found place node => disk.get? place = some node
  | .vacant directory name =>
    disk.HasDirectory directory ∧ IsName name ∧ disk.get? (directory ++ [name]) = none

/-- The names of a link's target start in a directory if the link lies in one. -/
theorem HasDirectory.linkWay (directory : disk.HasDirectory here) (target : String) :
    disk.HasDirectory (linkWay here target).1 := by
  unfold Disk.linkWay
  dsimp only
  split
  · exact disk.hasDirectory_top
  · exact directory

/-- A walk that starts in a directory ends at a spot that the disk holds. -/
theorem Way.holds (isTree : disk.IsTree) {names : List String} {spot : Spot}
    (way : Way disk last links here names spot) (start : disk.HasDirectory here) :
    disk.Holds spot := by
  induction way with
  | arrived =>
    obtain ⟨mode, found⟩ := start
    show disk.get? _ = some _
    rw [found]
    rfl
  | skip _ _ inductionHypothesis => exact inductionHypothesis start
  | up _ inductionHypothesis =>
    exact inductionHypothesis (isTree.hasDirectory_dropLast start.ne_none)
  | enter _ _ found _ inductionHypothesis => exact inductionHypothesis ⟨_, found⟩
  | free named _ absent => exact ⟨start, named, absent⟩
  | file _ _ found => exact found
  | link _ _ found _ => exact found
  | follow _ _ _ _ _ inductionHypothesis => exact inductionHypothesis (start.linkWay _)

/-- A file that a walk ends at lies there. -/
theorem Way.get?_file {names : List String} {place : Place} {bytes : List UInt8} {mode : Mode}
    (way : Way disk last links here names (.found place (.file bytes mode))) :
    disk.get? place = some (.file bytes mode) := by
  generalize ended : Spot.found place (.file bytes mode) = spot at way
  induction way with
  | @arrived links here =>
    obtain ⟨rfl, isFile⟩ := Spot.found.inj ended
    cases found : disk.get? place with
    | none =>
      rw [found] at isFile
      cases isFile
    | some node =>
      rw [found] at isFile
      exact congrArg some isFile.symm
  | skip _ _ inductionHypothesis | up _ inductionHypothesis
  | enter _ _ _ _ inductionHypothesis | follow _ _ _ _ _ inductionHypothesis =>
    exact inductionHypothesis ended
  | free | link => cases ended
  | file _ _ found =>
    cases ended
    exact found

/-! ### Where walks do not end -/

/-- The refusals of walks: something is missing, or no directory, or the links do not end, or a name
is too long. -/
def Astray (code : Errno) : Prop :=
  code = Errno.noEntry ∨ code = Errno.notDirectory ∨ code = Errno.linkLoop ∨
    code = Errno.nameTooLong

theorem walkNames_astray {follow : Place → List String → Except Errno Spot}
    (followed : ∀ start way code, follow start way = .error code → Astray code)
    {names : List String} {code : Errno}
    (walked : disk.walkNames last follow here names = .error code) : Astray code := by
  induction names generalizing here with
  | nil => cases walked
  | cons name rest inductionHypothesis =>
    unfold walkNames at walked
    split at walked
    next => exact inductionHypothesis walked
    next =>
      split at walked
      next => exact inductionHypothesis walked
      next =>
        split at walked
        next => exact .inr (.inr (.inr (Except.error.inj walked).symm))
        next =>
          split at walked
          next =>
            split at walked
            next => cases walked
            next => exact .inl (Except.error.inj walked).symm
          next => exact inductionHypothesis walked
          next =>
            split at walked
            next => cases walked
            next => exact .inr (.inl (Except.error.inj walked).symm)
          next =>
            split at walked
            next => cases walked
            next => exact followed _ _ _ walked

theorem walk_astray {names : List String} {code : Errno}
    (walked : disk.walk last links here names = .error code) : Astray code := by
  induction links generalizing here names code with
  | zero =>
    refine walkNames_astray (fun start way code refused => ?_) walked
    exact .inr (.inr (.inl (Except.error.inj refused).symm))
  | succ links inductionHypothesis =>
    exact walkNames_astray (fun start way code refused => inductionHypothesis refused) walked

/-! ### Walking on -/

/-- What lies behind names that lead to a directory is found by walking on from there. -/
theorem Way.walk_append {names : List String} {place : Place} {mode : Mode}
    (way : Way disk true links here names (.found place (.directory mode))) :
    ∃ left, ∀ last (more : List String), more ≠ [] →
      disk.walk last links here (names ++ more) = disk.walk last left place more := by
  generalize ended : Spot.found place (.directory mode) = spot at way
  induction way with
  | @arrived links here =>
    obtain ⟨rfl, -⟩ := Spot.found.inj ended
    exact ⟨links, fun last more _ => rfl⟩
  | skip point _ inductionHypothesis =>
    obtain ⟨left, onward⟩ := inductionHypothesis ended
    exact ⟨left, fun last more some => by
      rw [List.cons_append, walk_skip point, onward last more some]⟩
  | up _ inductionHypothesis =>
    obtain ⟨left, onward⟩ := inductionHypothesis ended
    exact ⟨left, fun last more some => by rw [List.cons_append, walk_up, onward last more some]⟩
  | enter named short found _ inductionHypothesis =>
    obtain ⟨left, onward⟩ := inductionHypothesis ended
    exact ⟨left, fun last more some => by
      rw [List.cons_append, walk_enter named short found, onward last more some]⟩
  | free | file | link => cases ended
  | follow named short found _ _ inductionHypothesis =>
    obtain ⟨left, onward⟩ := inductionHypothesis ended
    refine ⟨left, fun last more some => ?_⟩
    rw [List.cons_append, walk_follow named short found (by simp [some]), ← List.append_assoc,
      onward last more some]

/-- Names in front of others lead to a directory. -/
theorem Way.of_append (isTree : disk.IsTree) {names more : List String} {spot : Spot}
    (way : Way disk last links here (names ++ more) spot) (some : more ≠ [])
    (start : disk.HasDirectory here) :
    ∃ place mode, disk.walk true links here names = .ok (.found place (.directory mode)) := by
  generalize whole : names ++ more = all at way
  induction way generalizing names with
  | arrived => exact absurd (List.append_eq_nil_iff.mp whole).2 some
  | @skip links here name rest spot point _ inductionHypothesis =>
    rcases List.append_eq_cons_iff.mp whole with ⟨rfl, -⟩ | ⟨others, rfl, same⟩
    · obtain ⟨mode, found⟩ := start
      exact ⟨here, mode, by rw [walk_nil, found]; rfl⟩
    · obtain ⟨place, mode, walked⟩ := inductionHypothesis start same.symm
      exact ⟨place, mode, by rw [walk_skip point, walked]⟩
  | @up links here rest spot _ inductionHypothesis =>
    rcases List.append_eq_cons_iff.mp whole with ⟨rfl, -⟩ | ⟨others, rfl, same⟩
    · obtain ⟨mode, found⟩ := start
      exact ⟨here, mode, by rw [walk_nil, found]; rfl⟩
    · obtain ⟨place, mode, walked⟩ :=
        inductionHypothesis (isTree.hasDirectory_dropLast start.ne_none) same.symm
      exact ⟨place, mode, by rw [walk_up, walked]⟩
  | @enter links here name rest spot entered named short found _ inductionHypothesis =>
    rcases List.append_eq_cons_iff.mp whole with ⟨rfl, -⟩ | ⟨others, rfl, same⟩
    · obtain ⟨mode, there⟩ := start
      exact ⟨here, mode, by rw [walk_nil, there]; rfl⟩
    · obtain ⟨place, mode, walked⟩ := inductionHypothesis ⟨entered, found⟩ same.symm
      exact ⟨place, mode, by rw [walk_enter named short found, walked]⟩
  | @free links here name | @file links here name | @link links here name =>
    rcases List.append_eq_cons_iff.mp whole with ⟨rfl, -⟩ | ⟨others, rfl, same⟩
    · obtain ⟨mode, found⟩ := start
      exact ⟨here, mode, by rw [walk_nil, found]; rfl⟩
    · exact absurd (List.append_eq_nil_iff.mp same.symm).2 some
  | @follow links here name target rest spot named short found goesOn _ inductionHypothesis =>
    rcases List.append_eq_cons_iff.mp whole with ⟨rfl, -⟩ | ⟨others, rfl, same⟩
    · obtain ⟨mode, there⟩ := start
      exact ⟨here, mode, by rw [walk_nil, there]; rfl⟩
    · obtain ⟨place, mode, walked⟩ := inductionHypothesis (start.linkWay target)
        (by rw [same, List.append_assoc])
      exact ⟨place, mode, by rw [walk_follow named short found (by simp), walked]⟩

/-- No name is that of a link that is followed. -/
def Straight (disk : Disk) (last : Bool) (here : Place) (names : List String) : Prop :=
  ∀ front target, front ≠ [] → front <+: names →
    disk.get? (here ++ front) = some (.link target) → front = names ∧ last = false

theorem Straight.tail (straight : disk.Straight last here (name :: rest)) :
    disk.Straight last (here ++ [name]) rest := by
  intro front target _ prefixed found
  rw [List.append_assoc] at found
  obtain ⟨same, notFollowed⟩ := straight (name :: front) target (List.cons_ne_nil _ _)
    (List.cons_prefix_cons.mpr ⟨rfl, prefixed⟩) found
  exact ⟨(List.cons.inj same).2, notFollowed⟩

theorem Straight.of_link {target : String} (straight : disk.Straight last here (name :: rest))
    (found : disk.get? (here ++ [name]) = some (.link target)) : rest = [] ∧ last = false := by
  obtain ⟨same, notFollowed⟩ := straight [name] target (List.cons_ne_nil _ _)
    (List.cons_prefix_cons.mpr ⟨rfl, List.nil_prefix⟩) found
  exact ⟨(List.cons.inj same).2.symm, notFollowed⟩

/-- Where no link is followed, names lead to the place that they name. -/
theorem Way.place_eq_of_straight {names : List String} {spot : Spot}
    (way : Way disk last links here names spot) (straight : disk.Straight last here names)
    (named : ∀ name ∈ names, IsName name) : spot.place = here ++ names := by
  induction way with
  | arrived => exact (List.append_nil _).symm
  | skip point =>
    obtain ⟨notEmpty, notPoint, -⟩ := named _ List.mem_cons_self
    exact absurd point (by simp [notEmpty, notPoint])
  | up => exact absurd rfl (named _ List.mem_cons_self).2.2
  | enter _ _ _ _ inductionHypothesis =>
    rw [inductionHypothesis straight.tail
      (fun each member => named each (List.mem_cons_of_mem _ member)), List.append_assoc]
    rfl
  | free | file | link => rfl
  | follow _ _ found goesOn => exact absurd (straight.of_link found) goesOn

/-- Names below a directory without links lead to the place that they name. -/
theorem Way.place_eq {top : Place} (linkless : ∀ place target, top <+: place →
    disk.get? place ≠ some (.link target)) {names : List String} {spot : Spot}
    (way : Way disk last links here names spot) (inside : top <+: here)
    (named : ∀ name ∈ names, IsName name) : spot.place = here ++ names :=
  way.place_eq_of_straight (fun _ _ _ _ found =>
    absurd found (linkless _ _ (inside.trans (List.prefix_append _ _)))) named

/-- An entry is found by its names when no link is followed, unless a name is too long. -/
theorem walk_straight (isTree : disk.IsTree) {names : List String}
    (named : ∀ name ∈ names, IsName name) (straight : disk.Straight last here names) {node : Node}
    (found : disk.get? (here ++ names) = some node) :
    disk.walk last links here names = .ok (.found (here ++ names) node) ∨
      disk.walk last links here names = .error Errno.nameTooLong ∧
        ∃ name ∈ names, isLongName name = true := by
  induction names generalizing here with
  | nil =>
    rw [List.append_nil] at found ⊢
    rw [walk_nil, found]
    exact .inl rfl
  | cons name rest inductionHypothesis =>
    have nameNamed : IsName name := named name List.mem_cons_self
    cases short : isLongName name with
    | true =>
      rw [walk_name nameNamed, short, if_pos rfl]
      exact .inr ⟨rfl, name, List.mem_cons_self, short⟩
    | false =>
      by_cases done : rest = []
      · subst done
        refine .inl (walk_last nameNamed short found ?_)
        cases node with
        | file | directory => exact .inl rfl
        | link target => exact .inr (straight.of_link found).2
      · have split : here ++ name :: rest = here ++ [name] ++ rest := by simp
        rw [split] at found ⊢
        obtain ⟨mode, isDirectory⟩ := isTree.hasDirectory_above rest done
          (by rw [found]; exact Option.some_ne_none _)
        rw [walk_enter nameNamed short isDirectory]
        rcases inductionHypothesis (fun each member => named each (List.mem_cons_of_mem _ member))
          straight.tail found with walked | ⟨walked, long, member, isLong⟩
        · exact .inl walked
        · exact .inr ⟨walked, long, List.mem_cons_of_mem _ member, isLong⟩

/-- Where no link is followed, links do not lead back to themselves. -/
theorem walk_ne_linkLoop {names : List String} (straight : disk.Straight last here names)
    (named : ∀ name ∈ names, IsName name) :
    disk.walk last links here names ≠ .error Errno.linkLoop := by
  induction names generalizing here with
  | nil =>
    rw [walk_nil]
    exact fun impossible => by cases impossible
  | cons name rest inductionHypothesis =>
    intro loops
    rw [walk_name (named name List.mem_cons_self)] at loops
    cases short : isLongName name with
    | true =>
      rw [short, if_pos rfl] at loops
      exact absurd (Except.error.inj loops) (by decide)
    | false =>
      rw [short, if_neg (by simp)] at loops
      cases found : disk.get? (here ++ [name]) with
      | none =>
        simp only [found] at loops
        split at loops
        · cases loops
        · exact absurd (Except.error.inj loops) (by decide)
      | some node =>
        simp only [found] at loops
        cases node with
        | directory mode =>
          exact inductionHypothesis straight.tail
            (fun each member => named each (List.mem_cons_of_mem _ member)) loops
        | file bytes mode =>
          dsimp only at loops
          split at loops
          · cases loops
          · exact absurd (Except.error.inj loops) (by decide)
        | link target =>
          dsimp only at loops
          rw [if_pos (straight.of_link found)] at loops
          cases loops

/-- An entry is found by its names when none of them is that of a link, unless one is too long. -/
theorem walk_present (isTree : disk.IsTree) {names : List String}
    (named : ∀ name ∈ names, IsName name)
    (linkless : ∀ front target, front ≠ [] → front <+: names →
      disk.get? (here ++ front) ≠ some (.link target)) {node : Node}
    (found : disk.get? (here ++ names) = some node) :
    disk.walk last links here names = .ok (.found (here ++ names) node) ∨
      disk.walk last links here names = .error Errno.nameTooLong ∧
        ∃ name ∈ names, isLongName name = true :=
  walk_straight isTree named (fun front target some prefixed isLink =>
    absurd isLink (linkless front target some prefixed)) found

/-- A walk that succeeds goes through no name that is too long. -/
theorem Way.isLongName_eq_false {names : List String} {spot : Spot}
    (way : Way disk last links here names spot) {name : String} (member : name ∈ names)
    (named : IsName name) : isLongName name = false := by
  induction way with
  | arrived => cases member
  | skip point _ inductionHypothesis =>
    rcases List.mem_cons.mp member with rfl | later
    · exact absurd point (by simp [named.1, named.2.1])
    · exact inductionHypothesis later
  | up _ inductionHypothesis =>
    rcases List.mem_cons.mp member with rfl | later
    · exact absurd rfl named.2.2
    · exact inductionHypothesis later
  | enter _ short _ _ inductionHypothesis =>
    rcases List.mem_cons.mp member with rfl | later
    · exact short
    · exact inductionHypothesis later
  | free _ short | file _ short | link _ short =>
    rw [List.mem_singleton.mp member]
    exact short
  | follow _ short _ _ _ inductionHypothesis =>
    rcases List.mem_cons.mp member with rfl | later
    · exact short
    · exact inductionHypothesis (List.mem_append_right _ later)

/-! ### Walks over several disks -/

/-- A walk that ends at something on one disk, and succeeds on a second one, leads to the same
place there and on every third disk that has what the first two have in common. Files count only
where the walk ends. -/
theorem Way.carry {middle other : Disk} {names : List String} {place : Place} {node : Node}
    (common : ∀ each entry, disk.get? each = some entry →
      entry.isFile = false ∨ each = place ∧ entry = node →
      middle.get? each = none ∨ middle.get? each = some entry ∧ other.get? each = some entry)
    (way : Way disk last links here names (.found place node))
    (agree : ∀ above, above <+: here → middle.get? above = disk.get? above ∧
      other.get? above = disk.get? above)
    {again : Place} {entry : Node}
    (walked : middle.walk last links here names = .ok (.found again entry)) :
    again = place ∧ other.walk last links here names = .ok (.found place node) := by
  generalize ended : Spot.found place node = spot at way
  -- What `agree` says of the directories above is needed when the walk goes up, by its own names or
  -- by those of a link's target.
  induction way with
  | @arrived links here =>
    cases ended
    rw [walk_nil] at walked
    cases walked
    exact ⟨rfl, by rw [walk_nil, (agree _ List.prefix_rfl).2]⟩
  | skip point _ inductionHypothesis =>
    rw [walk_skip point] at walked ⊢
    exact inductionHypothesis agree walked ended
  | @up links here rest spot _ inductionHypothesis =>
    rw [walk_up] at walked ⊢
    exact inductionHypothesis
      (fun above prefixed => agree above (prefixed.trans (List.dropLast_prefix here))) walked ended
  | @enter links here name rest spot mode named short found _ inductionHypothesis =>
    rcases common _ _ found (.inl rfl) with absent | ⟨inMiddle, inOther⟩
    · rw [walk_absent named short absent] at walked
      split at walked <;> cases walked
    · rw [walk_enter named short inMiddle] at walked
      rw [walk_enter named short inOther]
      refine inductionHypothesis (fun above prefixed => ?_) walked ended
      rcases List.prefix_concat_iff.mp prefixed with rfl | shorter
      · exact ⟨inMiddle.trans found.symm, inOther.trans found.symm⟩
      · exact agree above shorter
  | free => cases ended
  | file named short found =>
    cases ended
    rcases common _ _ found (.inr ⟨rfl, rfl⟩) with absent | ⟨inMiddle, inOther⟩
    · rw [walk_absent named short absent] at walked
      split at walked <;> cases walked
    · rw [walk_last named short inMiddle (.inl rfl)] at walked
      cases walked
      exact ⟨rfl, walk_last named short inOther (.inl rfl)⟩
  | link named short found notFollowed =>
    cases ended
    rcases common _ _ found (.inl rfl) with absent | ⟨inMiddle, inOther⟩
    · rw [walk_absent named short absent] at walked
      split at walked <;> cases walked
    · rw [walk_last named short inMiddle (.inr notFollowed)] at walked
      cases walked
      exact ⟨rfl, walk_last named short inOther (.inr notFollowed)⟩
  | @follow links here name target rest spot named short found goesOn _ inductionHypothesis =>
    rcases common _ _ found (.inl rfl) with absent | ⟨inMiddle, inOther⟩
    · rw [walk_absent named short absent] at walked
      split at walked <;> cases walked
    · rw [walk_follow named short inMiddle goesOn] at walked
      rw [walk_follow named short inOther goesOn]
      refine inductionHypothesis (fun above prefixed => ?_) walked ended
      unfold linkWay at prefixed
      dsimp only at prefixed
      split at prefixed
      · rw [List.prefix_nil.mp prefixed, get?_top, get?_top, get?_top]
        exact ⟨rfl, rfl⟩
      · exact agree above prefixed

end Disk

end Bindery
