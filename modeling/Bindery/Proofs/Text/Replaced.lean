/-
This file says where the first occurrence of a text lies in another one.

In a text that ends with an occurrence the first occurrence lies at the same place whatever comes
after, because it begins no later and is as long.
-/

import Bindery.Text.Fields
import Mathlib.Data.List.Infix

namespace Bindery.Text

/-- Replacing the first occurrence keeps what comes before it and after it, and neither depends on
what is added at the end of a text that ends with an occurrence. -/
theorem exists_replaceFirst {old : List Char} (new front : List Char) (some : old ≠ []) :
    ∃ before after, front ++ old = before ++ old ++ after ∧
      ∀ back, replaceFirst old new (front ++ old ++ back) = before ++ new ++ after ++ back := by
  induction front with
  | nil =>
    refine ⟨[], [], by simp, fun back => ?_⟩
    obtain ⟨c, rest, rfl⟩ := List.exists_cons_of_ne_nil some
    have found : afterFront? (c :: rest) (c :: (rest ++ back)) = .some back :=
      (afterFront?_eq_some_iff _ _ _).mpr rfl
    show replaceFirst (c :: rest) new (c :: (rest ++ back)) = _
    rw [replaceFirst, found]
    simp
  | cons c front inductionHypothesis =>
    by_cases atFront : old <+: c :: front ++ old
    · obtain ⟨after, shape⟩ := atFront
      refine ⟨[], after, shape.symm, fun back => ?_⟩
      have found : afterFront? old (c :: (front ++ old ++ back)) = .some (after ++ back) := by
        rw [afterFront?_eq_some_iff, ← List.append_assoc, shape]
        rfl
      show replaceFirst old new (c :: (front ++ old ++ back)) = _
      rw [replaceFirst, found]
      simp
    · obtain ⟨before, after, shape, replaced⟩ := inductionHypothesis
      refine ⟨c :: before, after, by simpa using shape, fun back => ?_⟩
      have notFound : afterFront? old (c :: (front ++ old ++ back)) = none := by
        rw [Option.eq_none_iff_forall_ne_some]
        intro left found
        have begins : old <+: c :: (front ++ old ++ back) :=
          ⟨left, ((afterFront?_eq_some_iff _ _ _).mp found).symm⟩
        have ends : c :: front ++ old <+: c :: (front ++ old ++ back) := ⟨back, rfl⟩
        refine atFront (List.prefix_of_prefix_length_le begins ends ?_)
        simp only [List.length_append, List.length_cons]
        omega
      show replaceFirst old new (c :: (front ++ old ++ back)) = _
      rw [replaceFirst, notFound]
      simp only [replaced, List.cons_append]

end Bindery.Text
