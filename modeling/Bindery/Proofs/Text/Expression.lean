/-
This file holds regular expressions and the replacement of what they match.

An expression can match at the front of a text in several ways, which are listed in the order in
which they are tried: repeated characters are taken as often as possible first, and then less
often. The first way counts. A text is gone through from left to right: where an expression matches,
what it took gives way to something else, and the search goes on behind it.

Which ways there are is said by membership, one lemma for each constructor. An expression whose ways
take whole lines acts on each line by itself: replacing what it matches in a text changes the lines
of the text one by one, whatever they are.
-/

import Bindery.Text.Fields

namespace Bindery.Text

/-- A regular expression over characters. -/
inductive Expression where
  /-- The start of the text, or the position behind a line feed. -/
  | lineStart
  /-- The end of the text, or the position in front of a line feed. -/
  | lineEnd
  | exactly (text : List Char)
  /-- One or more characters of a class, as many as possible at first. -/
  | many (passes : Char → Bool)
  /-- What the inner expression takes is known by a name. -/
  | group (name : String) (inner : Expression)
  | sequence (first second : Expression)

/-- One way to match at the front of a text: what is taken, the text behind it, and what was taken
under names. -/
structure Way where
  taken : List Char
  left : List Char
  groups : List (String × List Char)
deriving DecidableEq, Repr

/-- One way and then another. -/
def Way.append (one two : Way) : Way := ⟨one.taken ++ two.taken, two.left, one.groups ++ two.groups⟩

/-- What was taken under a name. -/
def Way.group (way : Way) (name : String) : List Char := (way.groups.lookup name).getD []

/-- Whether a line starts behind a character; without one the text starts. -/
def startsLine (before : Option Char) : Bool := before.all (· == '\n')

/-- Whether a line ends in front of a text. -/
def endsLine (text : List Char) : Bool := text.head?.all (· == '\n')

/-- The fronts of one or more characters that pass, each with the rest of the text, the longest
first. -/
def fronts (passes : Char → Bool) : List Char → List (List Char × List Char)
  | [] => []
  | c :: rest =>
    if passes c then
      (fronts passes rest).map (fun (front, left) => (c :: front, left)) ++ [([c], rest)]
    else []

namespace Expression

/-- The ways in which an expression matches at the front of a text behind a character, in the order
in which they are tried. -/
def ways : Expression → (before : Option Char) → (text : List Char) → List Way
  | lineStart, before, text => if startsLine before then [⟨[], text, []⟩] else []
  | lineEnd, _, text => if endsLine text then [⟨[], text, []⟩] else []
  | exactly front, _, text => (afterFront? front text).toList.map fun left => ⟨front, left, []⟩
  | many passes, _, text => (fronts passes text).map fun (front, left) => ⟨front, left, []⟩
  | group name inner, before, text =>
    (ways inner before text).map fun way => { way with groups := (name, way.taken) :: way.groups }
  | sequence first second, before, text =>
    (ways first before text).flatMap fun one =>
      (ways second (one.taken.getLast?.or before) one.left).map one.append

variable {expression first second : Expression} {before : Option Char} {text : List Char}
  {way : Way}

/-! ### Which ways there are -/

theorem mem_fronts_iff {passes : Char → Bool} {front left : List Char} :
    (front, left) ∈ fronts passes text ↔
      (front ≠ [] ∧ ∀ c ∈ front, passes c = true) ∧ text = front ++ left := by
  induction text generalizing front with
  | nil =>
    simp only [fronts, List.not_mem_nil, false_iff]
    rintro ⟨⟨some, -⟩, same⟩
    exact some (List.append_eq_nil_iff.mp same.symm).1
  | cons c rest inductionHypothesis =>
    unfold fronts
    split
    next passing =>
      simp only [List.mem_append, List.mem_map, List.mem_singleton, Prod.mk.injEq, Prod.exists]
      constructor
      · rintro (⟨more, others, member, rfl, rfl⟩ | ⟨rfl, rfl⟩)
        · obtain ⟨⟨-, all⟩, rfl⟩ := inductionHypothesis.mp member
          exact ⟨⟨List.cons_ne_nil _ _, by simpa [passing] using all⟩, rfl⟩
        · exact ⟨⟨List.cons_ne_nil _ _, by simpa using passing⟩, rfl⟩
      · rintro ⟨⟨some, all⟩, same⟩
        obtain ⟨d, more, rfl⟩ := List.exists_cons_of_ne_nil some
        obtain ⟨rfl, rfl⟩ := List.cons.inj same
        by_cases single : more = []
        · subst single
          exact .inr ⟨rfl, rfl⟩
        · refine .inl ⟨more, left, inductionHypothesis.mpr ⟨⟨single, ?_⟩, rfl⟩, rfl, rfl⟩
          exact fun each member => all each (List.mem_cons_of_mem _ member)
    next stopping =>
      simp only [List.not_mem_nil, false_iff]
      rintro ⟨⟨some, all⟩, same⟩
      obtain ⟨d, more, rfl⟩ := List.exists_cons_of_ne_nil some
      obtain ⟨rfl, -⟩ := List.cons.inj same
      exact stopping (all c List.mem_cons_self)

theorem mem_ways_sequence_iff :
    way ∈ (sequence first second).ways before text ↔
      ∃ one ∈ first.ways before text,
        ∃ two ∈ second.ways (one.taken.getLast?.or before) one.left, one.append two = way := by
  simp only [ways, List.mem_flatMap, List.mem_map]

/-- What a way takes stands at the front of the text. -/
theorem eq_append_of_mem_ways (member : way ∈ expression.ways before text) :
    text = way.taken ++ way.left := by
  induction expression generalizing before text way with
  | lineStart | lineEnd =>
    unfold ways at member
    split at member
    next =>
      rw [List.mem_singleton.mp member]
      rfl
    next => cases member
  | exactly front =>
    obtain ⟨left, found, rfl⟩ := List.mem_map.mp member
    exact (afterFront?_eq_some_iff _ _ _).mp (Option.mem_toList.mp found)
  | many passes =>
    obtain ⟨⟨front, left⟩, found, rfl⟩ := List.mem_map.mp member
    exact (mem_fronts_iff.mp found).2
  | group name inner inductionHypothesis =>
    obtain ⟨inside, found, rfl⟩ := List.mem_map.mp member
    have atFront : text = inside.taken ++ inside.left := inductionHypothesis found
    exact atFront
  | sequence first second firstHypothesis secondHypothesis =>
    obtain ⟨one, atFront, two, behind, rfl⟩ := mem_ways_sequence_iff.mp member
    rw [firstHypothesis atFront, secondHypothesis behind]
    exact (List.append_assoc _ _ _).symm

/-- What an expression takes, with what its groups take, does not depend on what stands around it:
it is whatever is of a kind. -/
def Takes (expression : Expression) (kind : List Char → List (String × List Char) → Prop) : Prop :=
  ∀ before text way, way ∈ expression.ways before text ↔
    kind way.taken way.groups ∧ text = way.taken ++ way.left

variable {kind other : List Char → List (String × List Char) → Prop}

theorem Takes.congr (takes : expression.Takes kind)
    (same : ∀ taken groups, kind taken groups ↔ other taken groups) : expression.Takes other :=
  fun before text way => (takes before text way).trans (and_congr_left' (same _ _))

theorem takes_exactly (front : List Char) :
    (exactly front).Takes fun taken groups => taken = front ∧ groups = [] := by
  rintro before text ⟨taken, left, groups⟩
  simp only [ways, List.mem_map, Option.mem_toList, afterFront?_eq_some_iff, Way.mk.injEq]
  constructor
  · rintro ⟨_, rfl, rfl, rfl, rfl⟩
    exact ⟨⟨rfl, rfl⟩, rfl⟩
  · rintro ⟨⟨rfl, rfl⟩, rfl⟩
    exact ⟨left, rfl, rfl, rfl, rfl⟩

theorem takes_many (passes : Char → Bool) :
    (many passes).Takes fun taken groups =>
      (taken ≠ [] ∧ ∀ c ∈ taken, passes c = true) ∧ groups = [] := by
  rintro before text ⟨taken, left, groups⟩
  simp only [ways, List.mem_map, Prod.exists, mem_fronts_iff, Way.mk.injEq]
  constructor
  · rintro ⟨_, _, ⟨all, rfl⟩, rfl, rfl, rfl⟩
    exact ⟨⟨all, rfl⟩, rfl⟩
  · rintro ⟨⟨all, rfl⟩, rfl⟩
    exact ⟨taken, left, ⟨all, rfl⟩, rfl, rfl, rfl⟩

theorem Takes.group (takes : expression.Takes kind) (name : String) :
    (group name expression).Takes fun taken groups =>
      ∃ inner, kind taken inner ∧ groups = (name, taken) :: inner := by
  rintro before text ⟨taken, left, groups⟩
  simp only [ways, List.mem_map, Way.mk.injEq]
  constructor
  · rintro ⟨way, member, rfl, rfl, rfl⟩
    obtain ⟨isKind, same⟩ := (takes before text way).mp member
    exact ⟨⟨way.groups, isKind, rfl⟩, same⟩
  · rintro ⟨⟨inner, isKind, rfl⟩, same⟩
    exact ⟨⟨taken, left, inner⟩, (takes before text _).mpr ⟨isKind, same⟩, rfl, rfl, rfl⟩

theorem Takes.sequence (takes : first.Takes kind) (takesNext : second.Takes other) :
    (sequence first second).Takes fun taken groups =>
      ∃ front inFront back inBack, kind front inFront ∧ other back inBack ∧
        taken = front ++ back ∧ groups = inFront ++ inBack := by
  intro before text way
  rw [mem_ways_sequence_iff]
  constructor
  · rintro ⟨one, atFront, two, behind, rfl⟩
    obtain ⟨isKind, shape⟩ := (takes _ _ one).mp atFront
    obtain ⟨isOther, shapeNext⟩ := (takesNext _ _ two).mp behind
    refine ⟨⟨_, _, _, _, isKind, isOther, rfl, rfl⟩, ?_⟩
    rw [shape, shapeNext]
    exact (List.append_assoc _ _ _).symm
  · obtain ⟨taken, left, groups⟩ := way
    rintro ⟨⟨front, inFront, back, inBack, isKind, isOther, rfl, rfl⟩, same⟩
    refine ⟨⟨front, back ++ left, inFront⟩, (takes _ _ _).mpr ⟨isKind, ?_⟩,
      ⟨back, left, inBack⟩, (takesNext _ _ _).mpr ⟨isOther, rfl⟩, rfl⟩
    exact same.trans (List.append_assoc _ _ _)

/-- An expression between the start and the end of a line. -/
def wholeLine (expression : Expression) : Expression :=
  .sequence .lineStart (.sequence expression .lineEnd)

theorem Takes.mem_ways_wholeLine_iff (takes : expression.Takes kind) :
    way ∈ expression.wholeLine.ways before text ↔ startsLine before = true ∧
      kind way.taken way.groups ∧ text = way.taken ++ way.left ∧ endsLine way.left = true := by
  have atEnd : ∀ before way, way ∈ (Expression.sequence expression .lineEnd).ways before text ↔
      kind way.taken way.groups ∧ text = way.taken ++ way.left ∧ endsLine way.left = true := by
    intro before way
    rw [mem_ways_sequence_iff]
    constructor
    · rintro ⟨one, member, two, behind, rfl⟩
      obtain ⟨isKind, same⟩ := (takes _ _ one).mp member
      unfold ways at behind
      split at behind
      next ends =>
        rw [List.mem_singleton.mp behind]
        simpa [Way.append] using ⟨isKind, same, ends⟩
      next => cases behind
    · rintro ⟨isKind, same, ends⟩
      refine ⟨way, (takes _ _ way).mpr ⟨isKind, same⟩, ⟨[], way.left, []⟩, ?_, ?_⟩
      · simp [ways, ends]
      · simp [Way.append]
  unfold wholeLine
  rw [mem_ways_sequence_iff]
  constructor
  · rintro ⟨one, member, two, behind, rfl⟩
    unfold ways at member
    split at member
    next starts =>
      rw [List.mem_singleton.mp member] at behind ⊢
      exact ⟨starts, (atEnd _ two).mp behind⟩
    next => cases member
  · rintro ⟨starts, isWay⟩
    refine ⟨⟨[], text, []⟩, by simp [ways, starts], way, (atEnd _ way).mpr isWay, rfl⟩

/-! ### Replacing matches -/

/-- The first way in which an expression takes something. -/
def first? (expression : Expression) (before : Option Char) (text : List Char) : Option Way :=
  (expression.ways before text).find? fun way => way.taken ≠ []

theorem first?_eq_some (found : expression.first? before text = some way) :
    way ∈ expression.ways before text ∧ way.taken ≠ [] :=
  ⟨List.mem_of_find?_eq_some found, by simpa using List.find?_some found⟩

theorem length_left_lt (found : expression.first? before text = some way) :
    way.left.length < text.length := by
  obtain ⟨member, some⟩ := first?_eq_some found
  have longer := List.length_pos_iff.mpr some
  rw [eq_append_of_mem_ways member, List.length_append]
  omega

/-- The text behind a character with every match replaced, from left to right. -/
def substitute (expression : Expression) (replace : Way → List Char) (before : Option Char) :
    List Char → List Char
  | [] => []
  | c :: rest =>
    match _found : expression.first? before (c :: rest) with
    | some way => replace way ++ substitute expression replace way.taken.getLast? way.left
    | none => c :: substitute expression replace (some c) rest
termination_by text => text.length
decreasing_by
  · exact length_left_lt _found
  · simp

variable {replace : Way → List Char} {change : List Char → List Char}

theorem substitute_nil : expression.substitute replace before [] = [] := by
  rw [substitute]

theorem substitute_of_some (found : expression.first? before text = some way) :
    expression.substitute replace before text =
      replace way ++ expression.substitute replace way.taken.getLast? way.left := by
  cases text with
  | nil => exact absurd (length_left_lt found) (Nat.not_lt_zero _)
  | cons c rest =>
    rw [substitute]
    split
    next other same =>
      rw [found] at same
      cases same
      rfl
    next missing =>
      rw [found] at missing
      cases missing

theorem substitute_of_none {c : Char} {rest : List Char}
    (missing : expression.first? before (c :: rest) = none) :
    expression.substitute replace before (c :: rest) =
      c :: expression.substitute replace (some c) rest := by
  rw [substitute]
  split
  next other same =>
    rw [missing] at same
    cases same
  next => rfl

/-! ### Expressions that take whole lines -/

/-- An expression takes whole lines only, and what takes the place of a line that it takes is what a
function makes of the line; the function leaves the lines that the expression does not take. -/
structure ActsOnLines (expression : Expression) (replace : Way → List Char)
    (change : List Char → List Char) : Prop where
  starts : ∀ before text, startsLine before = false → expression.ways before text = []
  whole : ∀ before text way, way ∈ expression.ways before text →
    way.taken ≠ [] ∧ '\n' ∉ way.taken ∧ endsLine way.left = true ∧ replace way = change way.taken
  kept : ∀ before line rest, startsLine before = true → endsLine rest = true →
    expression.ways before (line ++ rest) = [] → change line = line

/-- Between the start and the end of a line an expression acts on lines if what it takes holds no
line feed. -/
theorem Takes.actsOnLines (takes : expression.Takes kind)
    (inLine : ∀ line groups, kind line groups → line ≠ [] ∧ '\n' ∉ line)
    (replaced : ∀ line left groups, kind line groups → replace ⟨line, left, groups⟩ = change line)
    (kept : ∀ line, (∀ groups, ¬ kind line groups) → change line = line) :
    expression.wholeLine.ActsOnLines replace change where
  starts before text inside := by
    refine List.eq_nil_iff_forall_not_mem.mpr fun way member => ?_
    have starts := (takes.mem_ways_wholeLine_iff.mp member).1
    rw [inside] at starts
    cases starts
  whole before text way member := by
    obtain ⟨-, isKind, -, ends⟩ := takes.mem_ways_wholeLine_iff.mp member
    obtain ⟨notEmpty, noFeed⟩ := inLine _ _ isKind
    exact ⟨notEmpty, noFeed, ends, replaced _ _ _ isKind⟩
  kept before line rest starts ends none := by
    refine kept line fun groups isKind => ?_
    have member : ⟨line, rest, groups⟩ ∈ expression.wholeLine.ways before (line ++ rest) :=
      takes.mem_ways_wholeLine_iff.mpr ⟨starts, isKind, rfl, ends⟩
    rw [none] at member
    cases member

/-- A line ends in one place. -/
theorem eq_of_endsLine {line other rest more : List Char} (inLine : '\n' ∉ line)
    (inOther : '\n' ∉ other) (ends : endsLine rest = true) (endsOther : endsLine more = true)
    (same : line ++ rest = other ++ more) : line = other ∧ rest = more := by
  have taken : ∀ {front behind : List Char}, '\n' ∉ front → endsLine behind = true →
      (front ++ behind).takeWhile (· != '\n') = front := by
    intro front behind absent ends
    have all : ∀ c ∈ front, (c != '\n') = true := by
      intro c member
      simpa using fun feed : c = '\n' => absent (feed ▸ member)
    have stops : behind.takeWhile (· != '\n') = [] := by
      cases behind with
      | nil => rfl
      | cons c rest =>
        have feed : c = '\n' := by simpa [endsLine] using ends
        simp [feed]
    rw [List.takeWhile_append_of_pos all, stops, List.append_nil]
  have equal : line = other := by
    rw [← taken inLine ends, same, taken inOther endsOther]
  subst equal
  exact ⟨rfl, List.append_cancel_left same⟩

namespace ActsOnLines

variable {line rest : List Char}

theorem first?_eq_none (acts : expression.ActsOnLines replace change)
    (unmatched : expression.first? before text = none) : expression.ways before text = [] := by
  refine List.eq_nil_iff_forall_not_mem.mpr fun way member => ?_
  have nothing := List.find?_eq_none.mp unmatched way member
  exact nothing (by simpa using (acts.whole before text way member).1)

/-- Nothing that is taken begins with a line feed. -/
theorem first?_lineFeed (acts : expression.ActsOnLines replace change) (before : Option Char)
    (rest : List Char) : expression.first? before ('\n' :: rest) = none := by
  rw [Option.eq_none_iff_forall_ne_some]
  intro way found
  obtain ⟨member, some⟩ := first?_eq_some found
  obtain ⟨c, others, shape⟩ := List.exists_cons_of_ne_nil some
  have same := eq_append_of_mem_ways member
  rw [shape] at same
  refine (acts.whole _ _ way member).2.1 ?_
  rw [shape, ← (List.cons.inj same).1]
  exact List.mem_cons_self

/-- From the end of a line on, it does not matter what stands before. -/
theorem substitute_congr (acts : expression.ActsOnLines replace change)
    (ends : endsLine rest = true) (before other : Option Char) :
    expression.substitute replace before rest = expression.substitute replace other rest := by
  cases rest with
  | nil => rw [substitute_nil, substitute_nil]
  | cons c more =>
    have feed : c = '\n' := by simpa [endsLine] using ends
    subst feed
    rw [substitute_of_none (acts.first?_lineFeed before more),
      substitute_of_none (acts.first?_lineFeed other more)]

/-- What is left of a line behind a character of it stays. -/
theorem substitute_within (acts : expression.ActsOnLines replace change)
    (inside : startsLine before = false) (inLine : '\n' ∉ line) (ends : endsLine rest = true) :
    expression.substitute replace before (line ++ rest) =
      line ++ expression.substitute replace none rest := by
  induction line generalizing before with
  | nil => exact acts.substitute_congr ends before none
  | cons c more inductionHypothesis =>
    have unmatched : expression.first? before (c :: (more ++ rest)) = none := by
      unfold first?
      rw [acts.starts _ _ inside]
      rfl
    obtain ⟨other, inMore⟩ := not_or.mp (mt List.mem_cons.mpr inLine)
    have insideStill : startsLine (some c) = false := by simpa [startsLine] using Ne.symm other
    rw [List.cons_append, substitute_of_none unmatched, inductionHypothesis insideStill inMore]
    rfl

/-- A whole line is changed. -/
theorem substitute_line (acts : expression.ActsOnLines replace change)
    (starts : startsLine before = true) (inLine : '\n' ∉ line) (ends : endsLine rest = true) :
    expression.substitute replace before (line ++ rest) =
      change line ++ expression.substitute replace none rest := by
  cases found : expression.first? before (line ++ rest) with
  | some way =>
    obtain ⟨member, -⟩ := first?_eq_some found
    obtain ⟨-, inTaken, endsLeft, replaced⟩ := acts.whole _ _ way member
    obtain ⟨same, left⟩ :=
      eq_of_endsLine inTaken inLine endsLeft ends (eq_append_of_mem_ways member).symm
    rw [substitute_of_some found, replaced, same, left, acts.substitute_congr ends _ none]
  | none =>
    rw [acts.kept before line rest starts ends (acts.first?_eq_none found)]
    cases line with
    | nil => exact acts.substitute_congr ends before none
    | cons c more =>
      obtain ⟨other, inMore⟩ := not_or.mp (mt List.mem_cons.mpr inLine)
      have inside : startsLine (some c) = false := by simpa [startsLine] using Ne.symm other
      rw [List.cons_append] at found ⊢
      rw [substitute_of_none found, acts.substitute_within inside inMore ends]
      rfl

theorem substitute_joinFields (acts : expression.ActsOnLines replace change)
    (starts : startsLine before = true) (lines : List (List Char))
    (inLines : ∀ line ∈ lines, '\n' ∉ line) :
    expression.substitute replace before (joinFields '\n' lines) =
      joinFields '\n' (lines.map change) := by
  induction lines generalizing before with
  | nil => exact substitute_nil
  | cons line others inductionHypothesis =>
    have inLine := inLines line List.mem_cons_self
    cases others with
    | nil =>
      have alone : expression.substitute replace before (line ++ []) =
          change line ++ expression.substitute replace none [] :=
        acts.substitute_line starts inLine rfl
      rwa [List.append_nil, substitute_nil, List.append_nil] at alone
    | cons next more =>
      have rest : expression.substitute replace (some '\n') (joinFields '\n' (next :: more)) =
          joinFields '\n' ((next :: more).map change) :=
        inductionHypothesis rfl fun line member => inLines line (List.mem_cons_of_mem _ member)
      rw [joinFields, acts.substitute_line starts inLine rfl,
        substitute_of_none (acts.first?_lineFeed none _), rest]
      rfl

/-- Replacing changes the lines of a text one by one. -/
theorem substitute_eq (acts : expression.ActsOnLines replace change) (text : List Char) :
    expression.substitute replace none text =
      joinFields '\n' ((fields '\n' text).map change) := by
  have lines : expression.substitute replace none (joinFields '\n' (fields '\n' text)) =
      joinFields '\n' ((fields '\n' text).map change) :=
    acts.substitute_joinFields rfl _ (not_mem_of_mem_fields '\n' text)
  rwa [joinFields_fields] at lines

end ActsOnLines

end Expression

end Bindery.Text
