/-
This file states what becomes of a tree that is removed as far as the system lets it.

The entries of the tree are tried in turn, and every try is counted. If none of the tries is due to
fail, nothing is left of the tree. Otherwise its top stays where it was, because something that it
holds does. Nothing changes beside the tree, and nothing that stays changes.
-/

import Bindery.Proofs.Disk.Changes
import Bindery.Proofs.Machine.Calls

namespace Bindery

open Disk (SameOutside)

/-! ### What is refused -/

theorem Disk.under_of_mem_placesUnder {disk : Disk} {top place : Place}
    (member : place ∈ disk.placesUnder top) : top <+: place :=
  (Disk.isUnder_iff_isPrefix _ _).mp (List.mem_filter.mp member).2

namespace Schedule

variable (schedule : Schedule)

theorem refusedAfter_subset (count : Nat) (places : List Place) :
    schedule.refusedAfter count places ⊆ places := by
  induction places generalizing count with
  | nil => exact List.Subset.refl _
  | cons place rest inductionHypothesis =>
    unfold refusedAfter
    dsimp only
    split
    next => exact List.cons_subset_cons place (inductionHypothesis _)
    next => exact List.subset_cons_of_subset place (inductionHypothesis _)

/-- Nothing is refused exactly if none of the tries is due to fail. -/
theorem refusedAfter_eq_nil_iff (count : Nat) (places : List Place) :
    schedule.refusedAfter count places = [] ↔ ∀ tried, count < tried →
      tried ≤ count + places.length → (schedule .discard tried).isSome = false := by
  induction places generalizing count with
  | nil =>
    refine ⟨fun _ tried more notMore => ?_, fun _ => rfl⟩
    rw [List.length_nil] at notMore
    omega
  | cons place rest inductionHypothesis =>
    unfold refusedAfter
    cases due : (schedule .discard (count + 1)).isSome with
    | true =>
      refine ⟨(fun impossible => by cases impossible), fun none => ?_⟩
      have spared := none (count + 1) (Nat.lt_succ_self _) (by simp)
      rw [due] at spared
      cases spared
    | false =>
      simp only [Bool.false_eq_true, if_false, inductionHypothesis, List.length_cons]
      constructor
      · intro later tried more notMore
        rcases Nat.eq_or_lt_of_le (Nat.succ_le_of_lt more) with rfl | afterFirst
        · exact due
        · exact later tried afterFirst (by omega)
      · exact fun all tried more notMore => all tried (by omega) (by omega)

end Schedule

/-! ### What is left -/

namespace Machine

variable (machine : Machine) (top : Place)

theorem follows_discarded : machine.Follows (machine.discarded top) :=
  ⟨⟨rfl, List.suffix_refl _⟩, rfl, rfl⟩

theorem sameOutside_discarded : SameOutside [top] machine.disk (machine.discarded top).disk :=
  Disk.sameOutside_pruneTree _ _ _

theorem refused_discarded_iff : machine.Refused .discard (machine.discarded top) ↔
    machine.schedule.refusedAfter (machine.calls .discard) (machine.disk.placesUnder top) ≠ [] := by
  rw [Ne, Schedule.refusedAfter_eq_nil_iff, not_forall]
  refine exists_congr fun tried => ?_
  rw [Classical.not_imp, Classical.not_imp, Bool.not_eq_false]
  rfl

/-- Nothing is left of a tree if nothing is refused. -/
theorem get?_discarded_of_not_refused {machine : Machine} {top : Place} (named : top ≠ [])
    (spared : ¬ machine.Refused .discard (machine.discarded top)) :
    (machine.discarded top).disk.get? top = none := by
  rw [refused_discarded_iff, not_not] at spared
  refine Disk.get?_pruneTree_of_gone _ named List.prefix_rfl fun each member => ?_
  rw [spared] at member
  cases member

/-- The top of a tree stays if something is refused. -/
theorem get?_discarded_of_refused {machine : Machine} {top : Place}
    (refused : machine.Refused .discard (machine.discarded top)) :
    (machine.discarded top).disk.get? top = machine.disk.get? top := by
  obtain ⟨each, member⟩ :=
    List.exists_mem_of_ne_nil _ ((machine.refused_discarded_iff top).mp refused)
  have inside := machine.schedule.refusedAfter_subset _ _ member
  exact Disk.get?_pruneTree_of_kept _ (.inr ⟨each, member, Disk.under_of_mem_placesUnder inside⟩)

end Machine

theorem Action.on_discardTree (path : Path) (machine : Machine) :
    (Action.discardTree path).on machine =
      if holdsNull path then (.error (.value .embeddedNull), machine)
      else if machine.hides path then (.ok (), machine)
      else
        match machine.disk.locate machine.host.here false path with
        | .ok (.found top (.directory _)) => (.ok (), machine.discarded top)
        | _ => (.ok (), machine) := by
  unfold discardTree
  simp only [on_bind, on_usable, List.any_cons, List.any_nil, Bool.or_false]
  cases holdsNull path with
  | true => rfl
  | false =>
    simp only [Bool.false_eq_true, if_false, on_get]
    cases machine.hides path with
    | true => rfl
    | false =>
      simp only [Bool.false_eq_true, if_false]
      cases machine.disk.locate machine.host.here false path with
      | error => rfl
      | ok spot =>
        cases spot with
        | vacant => rfl
        | found top node => cases node <;> rfl

end Bindery
