/-
This file says where names lead on a disk when every link is followed.

Points are skipped, two points lead up, and a link leads on from the directory that it lies in; a
name under which nothing is found is taken as it is written. The links that are followed inside of
links are counted by a depth, since there is no end to links that lead back to themselves. What
needs a depth has links inside that need each smaller one, so that the number of entries bounds
every depth that is needed.
-/

import Bindery.Proofs.Disk.Way
import Mathlib.Data.Finset.Card

namespace Bindery.Disk

variable {disk : Disk} {depth : Nat} {place final : Place} {name : String}
  {rest names : List String}

/-! ### Names that are resolved -/

/-- Names lead from one place to another; the links on the way need less than the depth. -/
inductive Resolves (disk : Disk) : Nat → Place → List String → Place → Prop
  /-- No names are left. -/
  | done {depth : Nat} {place : Place} : Resolves disk depth place [] place
  /-- A point is skipped. -/
  | skip {depth : Nat} {place final : Place} {name : String} {rest : List String}
    (point : name = "" ∨ name = ".") (onward : Resolves disk depth place rest final) :
    Resolves disk depth place (name :: rest) final
  /-- Two points lead up. -/
  | up {depth : Nat} {place final : Place} {rest : List String}
    (onward : Resolves disk depth place.dropLast rest final) :
    Resolves disk depth place (".." :: rest) final
  /-- A name that is not that of a link is taken as it is. -/
  | keep {depth : Nat} {place final : Place} {name : String} {rest : List String}
    (named : IsName name) (notLink : ∀ target, disk.get? (place ++ [name]) ≠ some (.link target))
    (onward : Resolves disk depth (place ++ [name]) rest final) :
    Resolves disk depth place (name :: rest) final
  /-- A link leads to where its target leads. -/
  | link {depth less : Nat} {place middle final : Place} {name target : String}
    {rest : List String} (named : IsName name)
    (found : disk.get? (place ++ [name]) = some (.link target)) (deeper : less < depth)
    (inner : Resolves disk less (linkWay place target).1 (linkWay place target).2 middle)
    (onward : Resolves disk depth middle rest final) :
    Resolves disk depth place (name :: rest) final

namespace Resolves

theorem mono {more : Nat} (resolves : disk.Resolves depth place names final)
    (le : depth ≤ more) : disk.Resolves more place names final := by
  induction resolves generalizing more with
  | done => exact .done
  | skip point _ inductionHypothesis => exact .skip point (inductionHypothesis le)
  | up _ inductionHypothesis => exact .up (inductionHypothesis le)
  | keep named notLink _ inductionHypothesis =>
    exact .keep named notLink (inductionHypothesis le)
  | link named found deeper inner _ _ inductionHypothesis =>
    exact .link named found (deeper.trans_le le) inner (inductionHypothesis le)

theorem of_skip (point : name = "" ∨ name = ".")
    (resolves : disk.Resolves depth place (name :: rest) final) :
    disk.Resolves depth place rest final := by
  cases resolves with
  | skip _ onward => exact onward
  | up => exact absurd point (by decide)
  | keep named | link named => exact absurd point (not_or.mpr ⟨named.1, named.2.1⟩)

theorem of_up (resolves : disk.Resolves depth place (".." :: rest) final) :
    disk.Resolves depth place.dropLast rest final := by
  cases resolves with
  | skip point => exact absurd point (by decide)
  | up onward => exact onward
  | keep named | link named => exact absurd rfl named.2.2

theorem of_keep (named : IsName name)
    (notLink : ∀ target, disk.get? (place ++ [name]) ≠ some (.link target))
    (resolves : disk.Resolves depth place (name :: rest) final) :
    disk.Resolves depth (place ++ [name]) rest final := by
  cases resolves with
  | skip point => exact absurd point (not_or.mpr ⟨named.1, named.2.1⟩)
  | up => exact absurd rfl named.2.2
  | keep _ _ onward => exact onward
  | link _ found => exact absurd found (notLink _)

theorem of_link {target : String} (named : IsName name)
    (found : disk.get? (place ++ [name]) = some (.link target))
    (resolves : disk.Resolves depth place (name :: rest) final) :
    ∃ less < depth, ∃ middle,
      disk.Resolves less (linkWay place target).1 (linkWay place target).2 middle ∧
        disk.Resolves depth middle rest final := by
  cases resolves with
  | skip point => exact absurd point (not_or.mpr ⟨named.1, named.2.1⟩)
  | up => exact absurd rfl named.2.2
  | keep _ notLink => exact absurd found (notLink _)
  | link _ foundAgain deeper inner onward =>
    cases found.symm.trans foundAgain
    exact ⟨_, deeper, _, inner, onward⟩

/-- Names lead to one place at most, whatever the depth. -/
theorem unique {other : Nat} {again : Place} (resolves : disk.Resolves depth place names final)
    (resolvesAgain : disk.Resolves other place names again) : final = again := by
  induction resolves generalizing other again with
  | done =>
    cases resolvesAgain
    rfl
  | skip point _ inductionHypothesis => exact inductionHypothesis (resolvesAgain.of_skip point)
  | up _ inductionHypothesis => exact inductionHypothesis resolvesAgain.of_up
  | keep named notLink _ inductionHypothesis =>
    exact inductionHypothesis (resolvesAgain.of_keep named notLink)
  | link named found _ _ _ innerHypothesis inductionHypothesis =>
    obtain ⟨less, -, middle, inner, onward⟩ := resolvesAgain.of_link named found
    cases innerHypothesis inner
    exact inductionHypothesis onward

/-- What holds of the names at the start, of those that follow and of those in the targets of links
holds of the names at the end. -/
theorem forall_mem {condition : String → Prop} (resolves : disk.Resolves depth place names final)
    (atStart : ∀ name ∈ place, condition name)
    (onTheWay : ∀ name ∈ names, IsName name → condition name)
    (inTargets : ∀ link target, disk.get? link = some (.link target) →
      ∀ name ∈ Text.cut '/' target, IsName name → condition name) :
    ∀ name ∈ final, condition name := by
  induction resolves with
  | done => exact atStart
  | skip _ _ inductionHypothesis =>
    exact inductionHypothesis atStart fun name member =>
      onTheWay name (List.mem_cons_of_mem _ member)
  | up _ inductionHypothesis =>
    exact inductionHypothesis (fun name member => atStart name (List.mem_of_mem_dropLast member))
      fun name member => onTheWay name (List.mem_cons_of_mem _ member)
  | keep named _ _ inductionHypothesis =>
    refine inductionHypothesis (fun name member => ?_)
      fun name member => onTheWay name (List.mem_cons_of_mem _ member)
    rcases List.mem_append.mp member with before | last
    · exact atStart name before
    · rw [List.mem_singleton.mp last]
      exact onTheWay _ List.mem_cons_self named
  | @link _ _ start _ _ _ target _ _ found _ _ _ innerHypothesis inductionHypothesis =>
    refine inductionHypothesis (innerHypothesis (fun name member => ?_) (inTargets _ _ found))
      fun name member => onTheWay name (List.mem_cons_of_mem _ member)
    unfold linkWay at member
    dsimp only at member
    split at member
    · cases member
    · exact atStart name member

end Resolves

/-! ### Places without links -/

/-- No link lies on the way to a place, nor there. -/
def Plain (disk : Disk) (place : Place) : Prop :=
  ∀ front, front <+: place → ∀ target, disk.get? front ≠ some (.link target)

theorem plain_top (disk : Disk) : disk.Plain [] := by
  intro front prefixed target
  rw [List.prefix_nil.mp prefixed, get?_top]
  exact fun same => by cases same

theorem Plain.of_prefix (plain : disk.Plain place) {front : Place} (prefixed : front <+: place) :
    disk.Plain front := fun each shorter => plain each (shorter.trans prefixed)

theorem Plain.concat (plain : disk.Plain place) {name : String}
    (notLink : ∀ target, disk.get? (place ++ [name]) ≠ some (.link target)) :
    disk.Plain (place ++ [name]) := by
  intro front prefixed
  rcases List.prefix_concat_iff.mp prefixed with rfl | shorter
  · exact notLink
  · exact plain front shorter

theorem Plain.linkWay (plain : disk.Plain place) (target : String) :
    disk.Plain (linkWay place target).1 := by
  unfold Disk.linkWay
  dsimp only
  split
  · exact disk.plain_top
  · exact plain

/-- On a tree an entry that is not a link lies in directories. -/
theorem IsTree.plain (isTree : disk.IsTree) (there : disk.get? place ≠ none)
    (notLink : ∀ target, disk.get? place ≠ some (.link target)) : disk.Plain place := by
  rintro front ⟨below, rfl⟩ target
  by_cases atEnd : below = []
  · rw [atEnd, List.append_nil] at notLink
    exact notLink target
  · obtain ⟨mode, found⟩ := isTree.hasDirectory_above below atEnd there
    rw [found]
    exact fun same => by cases same

theorem HasDirectory.plain (isTree : disk.IsTree) (directory : disk.HasDirectory place) :
    disk.Plain place := by
  refine isTree.plain directory.ne_none fun target => ?_
  obtain ⟨mode, found⟩ := directory
  rw [found]
  exact fun same => by cases same

/-- From a place without links, names lead to one. -/
theorem Resolves.plain (resolves : disk.Resolves depth place names final)
    (start : disk.Plain place) : disk.Plain final := by
  induction resolves with
  | done => exact start
  | skip _ _ inductionHypothesis => exact inductionHypothesis start
  | up _ inductionHypothesis =>
    exact inductionHypothesis (start.of_prefix (List.dropLast_prefix _))
  | keep _ notLink _ inductionHypothesis => exact inductionHypothesis (start.concat notLink)
  | link _ _ _ _ _ innerHypothesis inductionHypothesis =>
    exact inductionHypothesis (innerHypothesis (start.linkWay _))

/-! ### The depth that is needed -/

/-- The target of a link leads somewhere, and the links in it need no more than the depth. -/
def Opens (disk : Disk) (depth : Nat) (link : Place) : Prop :=
  ∃ target final, disk.get? link = some (.link target) ∧
    disk.Resolves depth (linkWay link.dropLast target).1 (linkWay link.dropLast target).2 final

theorem opens_concat {name target : String}
    (found : disk.get? (place ++ [name]) = some (.link target))
    (inner : disk.Resolves depth (linkWay place target).1 (linkWay place target).2 final) :
    disk.Opens depth (place ++ [name]) := by
  refine ⟨target, final, found, ?_⟩
  rwa [List.dropLast_concat]

/-- Every depth will do if no link needs exactly the depth. -/
theorem Resolves.of_stall {stall : Nat}
    (stalls : ∀ link, disk.Opens (stall + 1) link → disk.Opens stall link)
    (resolves : disk.Resolves depth place names final) :
    disk.Resolves (stall + 1) place names final := by
  induction resolves with
  | done => exact .done
  | skip point _ inductionHypothesis => exact .skip point inductionHypothesis
  | up _ inductionHypothesis => exact .up inductionHypothesis
  | keep named notLink _ inductionHypothesis => exact .keep named notLink inductionHypothesis
  | link named found _ inner _ innerHypothesis inductionHypothesis =>
    obtain ⟨target, again, foundAgain, shallow⟩ := stalls _ (opens_concat found innerHypothesis)
    cases found.symm.trans foundAgain
    rw [List.dropLast_concat] at shallow
    rw [← inner.unique shallow] at shallow
    exact .link named found stall.lt_succ_self shallow inductionHypothesis

open Classical in
/-- The links whose targets need no more than the depth. -/
noncomputable def openings (disk : Disk) (depth : Nat) : Finset Place :=
  (disk.entries.map Prod.fst).toFinset.filter (disk.Opens depth)

theorem mem_openings_iff {link : Place} :
    link ∈ disk.openings depth ↔ disk.Opens depth link := by
  classical
  unfold openings
  rw [Finset.mem_filter, and_iff_right_iff_imp]
  rintro ⟨target, final, found, -⟩
  rw [List.mem_toFinset]
  exact List.mem_map_of_mem (mem_entries_of_link found)

theorem card_openings_le (disk : Disk) (depth : Nat) : (disk.openings depth).card ≤ disk.size := by
  classical
  refine (Finset.card_filter_le _ _).trans ((List.toFinset_card_le _).trans_eq ?_)
  exact List.length_map _

/-- At some depth no further links open: each depth before it has a link of its own. -/
theorem exists_stall (disk : Disk) :
    ∃ stall ≤ disk.size, ∀ link, disk.Opens (stall + 1) link → disk.Opens stall link := by
  by_contra grows
  push Not at grows
  have more : ∀ depth ≤ disk.size + 1, depth ≤ (disk.openings depth).card := by
    intro depth
    induction depth with
    | zero => exact fun _ => Nat.zero_le _
    | succ depth inductionHypothesis =>
      intro inside
      obtain ⟨link, opens, closed⟩ := grows depth (Nat.le_of_succ_le_succ inside)
      have larger : disk.openings depth ⊂ disk.openings (depth + 1) := by
        refine (Finset.ssubset_iff_of_subset fun each member => ?_).mpr
          ⟨link, mem_openings_iff.mpr opens, fun member => closed (mem_openings_iff.mp member)⟩
        obtain ⟨target, final, found, resolves⟩ := mem_openings_iff.mp member
        exact mem_openings_iff.mpr ⟨target, final, found, resolves.mono depth.le_succ⟩
      exact (inductionHypothesis (Nat.le_of_succ_le inside)).trans_lt (Finset.card_lt_card larger)
  exact absurd ((more _ le_rfl).trans (disk.card_openings_le _)) (Nat.not_succ_le_self _)

/-- What names lead to at all they lead to within the number of entries. -/
theorem Resolves.within_size (resolves : disk.Resolves depth place names final) :
    disk.Resolves (disk.size + 1) place names final := by
  obtain ⟨stall, inside, stalls⟩ := disk.exists_stall
  exact (resolves.of_stall stalls).mono (Nat.succ_le_succ inside)

end Bindery.Disk
