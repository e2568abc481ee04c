/-
This file says which place a path names in writing, and what is found under such a path.

A path that is being resolved is written from the top, or from the working directory and some way up
from there, and then by names. Striking out what goes up gives the place that it names. No link is
followed on the way to it, so that what is asked about the path is answered by what lies at that
place, unless something is too long for the system.
-/

import Bindery.Disk.RealPath
import Bindery.Proofs.Disk.Resolution
import Bindery.Proofs.Disk.Siblings

namespace Bindery

/-- The path of a place from the top. -/
def Path.ofPlace (place : Place) : Path := ⟨.root, place⟩

theorem Path.ofPlace_injective : Function.Injective Path.ofPlace := fun _ _ same =>
  (Path.mk.inj same).2

namespace Disk

variable {disk : Disk} {here : Place} {path : Path} {name : String}

/-! ### The place that a path names -/

theorem collapse_concat_up (names : List String) :
    collapse (names ++ [".."]) = (collapse names).dropLast := by
  rw [collapse, List.foldl_append, collapse, List.dropLast_reverse, ← List.drop_one]
  rfl

theorem collapse_concat (names : List String) (notUp : name ≠ "..") :
    collapse (names ++ [name]) = collapse names ++ [name] := by
  have kept : collapse.step (names.foldl collapse.step []) name =
      name :: names.foldl collapse.step [] := if_neg notUp
  rw [collapse, List.foldl_append, List.foldl_cons, List.foldl_nil, kept, List.reverse_cons]
  rfl

theorem collapse_append (names : List String) {more : List String}
    (named : ∀ name ∈ more, IsName name) : collapse (names ++ more) = collapse names ++ more := by
  induction more generalizing names with
  | nil => rw [List.append_nil, List.append_nil]
  | cons name rest inductionHypothesis =>
    rw [List.append_cons, inductionHypothesis _ fun each member =>
      named each (List.mem_cons_of_mem _ member),
      collapse_concat _ (named name List.mem_cons_self).2.2, ← List.append_cons]

theorem collapse_replicate (names : List String) (ups : Nat) :
    collapse (names ++ List.replicate ups "..") = List.dropLast^[ups] (collapse names) := by
  induction ups with
  | zero => rw [List.replicate_zero, List.append_nil, Function.iterate_zero_apply]
  | succ ups inductionHypothesis =>
    rw [List.replicate_succ', ← List.append_assoc, collapse_concat_up, inductionHypothesis,
      Function.iterate_succ_apply']

/-- The place that a path names in writing. -/
def placeOf (here : Place) (path : Path) : Place := collapse (startOf here path ++ path.parts)

theorem startOf_down (path : Path) (names : List String) :
    startOf here (path.down names) = startOf here path := rfl

theorem placeOf_down (named : IsName name) :
    placeOf here (path.down [name]) = placeOf here path ++ [name] := by
  rw [placeOf, placeOf, startOf_down, Path.down, ← List.append_assoc, collapse_concat _ named.2.2]

theorem up_concat (anchor : Anchor) (front : List String) (name : String) :
    up ⟨anchor, front ++ [name]⟩ =
      if name = ".." then ⟨anchor, front ++ [name] ++ [".."]⟩ else ⟨anchor, front⟩ := by
  unfold up
  rw [List.getLast?_concat]
  split
  next none => cases none
  next above =>
    cases above
    rfl
  next other notUp same =>
    cases same
    rw [if_neg notUp, Path.parent, List.dropLast_concat]

theorem up_replicate (ups : Nat) :
    up ⟨.relative, List.replicate ups ".."⟩ = ⟨.relative, List.replicate (ups + 1) ".."⟩ := by
  cases ups with
  | zero => rfl
  | succ ups =>
    rw [List.replicate_succ', up_concat, if_pos rfl, ← List.replicate_succ', ← List.replicate_succ']

theorem placeOf_up (path : Path) : placeOf here (up path) = (placeOf here path).dropLast := by
  obtain ⟨anchor, parts⟩ := path
  rcases List.eq_nil_or_concat parts with rfl | ⟨front, name, rfl⟩
  · cases anchor with
    | relative =>
      show collapse (here ++ [".."]) = (collapse (here ++ [])).dropLast
      rw [collapse_concat_up, List.append_nil]
    | root | doubleRoot => rfl
  · rw [List.concat_eq_append, up_concat]
    split
    next above =>
      show collapse (startOf here ⟨anchor, []⟩ ++ (front ++ [name] ++ [".."])) = _
      rw [← List.append_assoc, collapse_concat_up]
      rfl
    next notUp =>
      show collapse (startOf here ⟨anchor, []⟩ ++ front) =
        (collapse (startOf here ⟨anchor, []⟩ ++ (front ++ [name]))).dropLast
      rw [← List.append_assoc, collapse_concat _ notUp, List.dropLast_concat]

theorem placeOf_targetStart (path : Path) (target : String) :
    placeOf here (targetStart path target) = (linkWay (placeOf here path) target).1 := by
  unfold targetStart linkWay
  dsimp only
  split <;> rfl

/-- A path as it is written while it is resolved. -/
structure Reduced (path : Path) : Prop where
  anchored : path.anchor ≠ .doubleRoot
  shape : ∃ ups names, path.parts = List.replicate ups ".." ++ names ∧
    (path.isAbsolute = true → ups = 0) ∧ ∀ name ∈ names, IsName name

theorem reduced_nil {anchor : Anchor} (anchored : anchor ≠ .doubleRoot) : Reduced ⟨anchor, []⟩ :=
  ⟨anchored, 0, [], rfl, fun _ => rfl, fun _ impossible => by cases impossible⟩

theorem Reduced.down (reduced : Reduced path) (named : IsName name) :
    Reduced (path.down [name]) := by
  obtain ⟨anchored, ups, names, parts, absolute, allNamed⟩ := reduced
  refine ⟨anchored, ups, names ++ [name], ?_, absolute, fun each member => ?_⟩
  · rw [Path.down, parts, List.append_assoc]
  · rcases List.mem_append.mp member with before | last
    · exact allNamed each before
    · rw [List.mem_singleton.mp last]
      exact named

theorem Reduced.up (reduced : Reduced path) : Reduced (up path) := by
  obtain ⟨anchor, parts⟩ := path
  obtain ⟨anchored, ups, names, shape, absolute, named⟩ := reduced
  replace shape : parts = List.replicate ups ".." ++ names := shape
  subst shape
  rcases List.eq_nil_or_concat names with rfl | ⟨front, name, rfl⟩
  · rw [List.append_nil]
    cases anchor with
    | doubleRoot => exact absurd rfl anchored
    | root =>
      cases absolute rfl
      exact reduced_nil anchored
    | relative =>
      rw [up_replicate]
      exact ⟨anchored, ups + 1, [], (List.append_nil _).symm, fun impossible =>
        absurd impossible Bool.false_ne_true, fun _ impossible => by cases impossible⟩
  · rw [List.concat_eq_append] at named ⊢
    rw [← List.append_assoc, up_concat, if_neg (named name (by simp)).2.2]
    exact ⟨anchored, ups, front, rfl, absolute, fun each member =>
      named each (List.mem_append_left _ member)⟩

theorem Reduced.targetStart (reduced : Reduced path) (target : String) :
    Reduced (targetStart path target) := by
  unfold Disk.targetStart
  split
  · exact reduced_nil (by decide)
  · exact reduced

/-! ### What is found under a path -/

theorem dropLast_iterate_prefix (place : Place) (ups : Nat) :
    List.dropLast^[ups] place <+: place := by
  induction ups with
  | zero => exact List.prefix_rfl
  | succ ups inductionHypothesis =>
    rw [Function.iterate_succ_apply']
    exact (List.dropLast_prefix _).trans inductionHypothesis

theorem walk_replicate {last : Bool} {links : Nat} (start : Place) (ups : Nat)
    (names : List String) :
    disk.walk last links start (List.replicate ups ".." ++ names) =
      disk.walk last links (List.dropLast^[ups] start) names := by
  induction ups generalizing start with
  | zero => rfl
  | succ ups inductionHypothesis =>
    rw [List.replicate_succ, List.cons_append, walk_up, inductionHypothesis,
      Function.iterate_succ_apply]

theorem startOf_subset (here : Place) (path : Path) : startOf here path ⊆ here := by
  unfold startOf
  split
  · exact List.nil_subset here
  · exact List.Subset.refl here

/-- The names of a path are walked from a directory on the way to where it starts. -/
theorem Reduced.exists_base (reduced : Reduced path) (hereNamed : ∀ name ∈ here, IsName name) :
    ∃ base names, base <+: startOf here path ∧ placeOf here path = base ++ names ∧
      (∀ name ∈ names, IsName name) ∧ ∀ (disk : Disk) last links,
        disk.walk last links (startOf here path) path.parts = disk.walk last links base names := by
  obtain ⟨-, ups, names, parts, -, named⟩ := reduced
  have start : collapse (startOf here path) = startOf here path :=
    collapse_append [] fun name member => hereNamed name (startOf_subset here path member)
  refine ⟨List.dropLast^[ups] (startOf here path), names, dropLast_iterate_prefix _ _, ?_, named,
    fun disk last links => ?_⟩
  · rw [placeOf, parts, ← List.append_assoc, collapse_append _ named, collapse_replicate, start]
  · rw [parts, walk_replicate]

/-- What the questions about paths rest on: every entry lies in a directory, and the process is in
one, by the names on the way to it. -/
structure Standing (disk : Disk) (here : Place) : Prop where
  isTree : disk.IsTree
  directory : disk.HasDirectory here
  named : ∀ name ∈ here, IsName name

theorem Standing.startOf (standing : Standing disk here) (path : Path) :
    disk.HasDirectory (startOf here path) := by
  unfold Disk.startOf
  split
  · exact disk.hasDirectory_top
  · exact standing.directory

theorem Standing.hasDirectory_of_prefix (standing : Standing disk here) {base : Place}
    (prefixed : base <+: Disk.startOf here path) : disk.HasDirectory base := by
  obtain ⟨below, shape⟩ := prefixed
  by_cases atStart : below = []
  · rw [atStart, List.append_nil] at shape
    rw [shape]
    exact standing.startOf path
  · refine standing.isTree.hasDirectory_above below atStart ?_
    rw [shape]
    exact (standing.startOf path).ne_none

theorem Straight.of_append {last : Bool} {base names : Place}
    (straight : disk.Straight last [] (base ++ names)) : disk.Straight last base names := by
  intro front target some prefixed found
  obtain ⟨same, notFollowed⟩ := straight (base ++ front) target (by simp [some])
    ((List.prefix_append_right_inj base).mpr prefixed) found
  exact ⟨List.append_cancel_left same, notFollowed⟩

theorem Plain.straight {last : Bool} {place : Place} (plain : disk.Plain place) :
    disk.Straight last [] place := fun front target _ prefixed found =>
  absurd found (plain front prefixed target)

theorem Plain.straight_concat {place : Place} (plain : disk.Plain place) :
    disk.Straight false [] (place ++ [name]) := by
  intro front target _ prefixed found
  rcases List.prefix_concat_iff.mp prefixed with rfl | shorter
  · exact ⟨rfl, rfl⟩
  · exact absurd found (plain front shorter target)

/-- What a path leads to lies at the place that it names. -/
theorem get?_of_nodeAt {last : Bool} {node : Node} (standing : Standing disk here)
    (reduced : Reduced path) (straight : disk.Straight last [] (placeOf here path))
    (found : disk.nodeAt here last path = .ok node) :
    disk.get? (placeOf here path) = some node := by
  obtain ⟨base, names, prefixed, shape, named, walks⟩ := reduced.exists_base standing.named
  rw [shape] at straight ⊢
  unfold nodeAt locate at found
  split at found
  next place other located =>
    cases found
    split at located
    next => cases located
    next =>
      rw [walks] at located
      have way := way_of_walk_eq located
      rw [← way.place_eq_of_straight straight.of_append named]
      exact way.holds standing.isTree (standing.hasDirectory_of_prefix prefixed)
  all_goals cases found

/-- What lies at the place that a path names is what it leads to, unless the path is too long or a
name in it. -/
theorem nodeAt_of_get? {last : Bool} {node : Node} (standing : Standing disk here)
    (reduced : Reduced path) (straight : disk.Straight last [] (placeOf here path))
    (found : disk.get? (placeOf here path) = some node) :
    disk.nodeAt here last path = .ok node ∨
      disk.nodeAt here last path = .error Errno.nameTooLong ∧
        (pathLimit ≤ path.text.utf8ByteSize ∨
          ∃ name ∈ placeOf here path, isLongName name = true) := by
  obtain ⟨base, names, prefixed, shape, named, walks⟩ := reduced.exists_base standing.named
  rw [shape] at straight found ⊢
  unfold nodeAt locate
  by_cases long : pathLimit ≤ path.text.utf8ByteSize
  · rw [if_pos long]
    exact .inr ⟨rfl, .inl long⟩
  · rw [if_neg long, walks]
    rcases walk_straight standing.isTree named straight.of_append found with
      walked | ⟨walked, name, member, isLong⟩ <;> rw [walked]
    · exact .inl rfl
    · exact .inr ⟨rfl, .inr ⟨name, List.mem_append_right _ member, isLong⟩⟩

/-- Neither a path that leads to something nor a name in it is too long. -/
theorem short_of_nodeAt {last : Bool} {node : Node}
    (found : disk.nodeAt here last path = .ok node) :
    ¬ pathLimit ≤ path.text.utf8ByteSize ∧
      ∀ name ∈ path.parts, IsName name → isLongName name = false := by
  unfold nodeAt locate at found
  split at found
  next place other located =>
    split at located
    next => cases located
    next short =>
      exact ⟨short, fun name member named =>
        (way_of_walk_eq located).isLongName_eq_false member named⟩
  all_goals cases found

/-! ### Paths of places -/

variable {place : Place} {node : Node}

theorem size_join_le (front more : List String) :
    (Text.join "/" front).utf8ByteSize ≤ (Text.join "/" (front ++ more)).utf8ByteSize := by
  induction front with
  | nil => exact Nat.zero_le _
  | cons name rest inductionHypothesis =>
    cases rest with
    | nil =>
      cases more with
      | nil => exact le_rfl
      | cons next others =>
        show name.utf8ByteSize ≤ (name ++ "/" ++ Text.join "/" (next :: others)).utf8ByteSize
        rw [String.utf8ByteSize_append, String.utf8ByteSize_append, Nat.add_assoc]
        exact Nat.le_add_right _ _
    | cons next others =>
      show (name ++ "/" ++ Text.join "/" (next :: others)).utf8ByteSize ≤
        (name ++ "/" ++ Text.join "/" (next :: others ++ more)).utf8ByteSize
      simp only [String.utf8ByteSize_append]
      exact Nat.add_le_add_left inductionHypothesis _

theorem text_ofPlace (names : List String) :
    (Path.ofPlace names).text = "/" ++ Text.join "/" names := by
  unfold Path.text
  refine if_neg fun empty => ?_
  have slash : "/" = "" := (String.append_eq_empty_iff.mp empty).1
  exact absurd slash (by decide)

theorem size_text_ofPlace_le {front : Place} (prefixed : front <+: place) :
    (Path.ofPlace front).text.utf8ByteSize ≤ (Path.ofPlace place).text.utf8ByteSize := by
  obtain ⟨more, rfl⟩ := prefixed
  rw [text_ofPlace, text_ofPlace, String.utf8ByteSize_append, String.utf8ByteSize_append]
  exact Nat.add_le_add_left (size_join_le front more) _

theorem reduced_ofPlace (named : ∀ name ∈ place, IsName name) : Reduced (Path.ofPlace place) :=
  ⟨Anchor.noConfusion, 0, place, rfl, fun _ => rfl, named⟩

theorem placeOf_ofPlace (here : Place) (named : ∀ name ∈ place, IsName name) :
    placeOf here (Path.ofPlace place) = place := collapse_append [] named

/-- What lies at a place without links is what its path from the top leads to, unless something is
too long. -/
theorem nodeAt_ofPlace (standing : Standing disk here) (named : ∀ name ∈ place, IsName name)
    (plain : disk.Plain place) {last : Bool} (found : disk.get? place = some node) :
    disk.nodeAt here last (Path.ofPlace place) = .ok node ∨
      disk.nodeAt here last (Path.ofPlace place) = .error Errno.nameTooLong ∧
        (pathLimit ≤ (Path.ofPlace place).text.utf8ByteSize ∨
          ∃ name ∈ place, isLongName name = true) := by
  have straight : disk.Straight last [] (placeOf here (Path.ofPlace place)) := by
    rw [placeOf_ofPlace here named]
    exact plain.straight
  rw [← placeOf_ofPlace here named] at found
  have answered := nodeAt_of_get? standing (reduced_ofPlace named) straight found
  rwa [placeOf_ofPlace here named] at answered

theorem get?_of_nodeAt_ofPlace (standing : Standing disk here) (named : ∀ name ∈ place, IsName name)
    (plain : disk.Plain place) {last : Bool}
    (found : disk.nodeAt here last (Path.ofPlace place) = .ok node) :
    disk.get? place = some node := by
  have straight : disk.Straight last [] (placeOf here (Path.ofPlace place)) := by
    rw [placeOf_ofPlace here named]
    exact plain.straight
  have lies := get?_of_nodeAt standing (reduced_ofPlace named) straight found
  rwa [placeOf_ofPlace here named] at lies

theorem nodeAt_ofPlace_ne_linkLoop (named : ∀ name ∈ place, IsName name) (plain : disk.Plain place)
    {last : Bool} : disk.nodeAt here last (Path.ofPlace place) ≠ .error Errno.linkLoop := by
  intro loops
  unfold nodeAt locate at loops
  split at loops
  next => cases loops
  next => exact absurd (Except.error.inj loops) (by decide)
  next code walked =>
    split at walked
    next =>
      cases walked
      exact absurd (Except.error.inj loops) (by decide)
    next =>
      cases loops
      exact walk_ne_linkLoop plain.straight named walked

/-- A path from the top tells what lies at a place without links, unless something is too long. -/
theorem nodeAt_ofPlace_eq_none (standing : Standing disk here) (named : ∀ name ∈ place, IsName name)
    (plain : disk.Plain place) {last : Bool}
    (short : disk.nodeAt here last (Path.ofPlace place) ≠ .error Errno.nameTooLong)
    (free : disk.get? place = none) :
    disk.nodeAt here last (Path.ofPlace place) = .error Errno.noEntry ∨
      disk.nodeAt here last (Path.ofPlace place) = .error Errno.notDirectory := by
  cases answered : disk.nodeAt here last (Path.ofPlace place) with
  | ok node =>
    rw [get?_of_nodeAt_ofPlace standing named plain answered] at free
    cases free
  | error code =>
    rcases nodeAt_astray answered with rfl | rfl | rfl | rfl
    · exact .inl rfl
    · exact .inr rfl
    · exact absurd answered (nodeAt_ofPlace_ne_linkLoop named plain)
    · exact absurd answered short

/-- If a path from the top leads to something, so do the paths on the way to it. -/
theorem nodeAt_prefix (standing : Standing disk here) (named : ∀ name ∈ place, IsName name)
    (plain : disk.Plain place) {last : Bool}
    (found : disk.nodeAt here last (Path.ofPlace place) = .ok node) {front : Place}
    (prefixed : front <+: place) :
    ∃ entry, disk.nodeAt here false (Path.ofPlace front) = .ok entry ∧ entry.isLink = false := by
  obtain ⟨fits, shortNames⟩ := short_of_nodeAt found
  have namedFront : ∀ name ∈ front, IsName name := fun name member =>
    named name (prefixed.subset member)
  obtain ⟨entry, there⟩ : ∃ entry, disk.get? front = some entry := by
    refine Option.ne_none_iff_exists'.mp fun free => ?_
    obtain ⟨below, rfl⟩ := prefixed
    have nothing := standing.isTree.get?_under free below
    rw [get?_of_nodeAt_ofPlace standing named plain found] at nothing
    cases nothing
  refine ⟨entry, ?_, ?_⟩
  · rcases nodeAt_ofPlace standing namedFront (plain.of_prefix prefixed) there with
      answered | ⟨-, long | ⟨name, member, isLong⟩⟩
    · exact answered
    · exact absurd (long.trans (size_text_ofPlace_le prefixed)) fits
    · rw [shortNames name (prefixed.subset member) (namedFront name member)] at isLong
      cases isLong
  · cases entry with
    | link target => exact absurd there (plain front prefixed target)
    | file | directory => rfl

end Disk

end Bindery
