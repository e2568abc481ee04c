/-
This file tells which paths can be handed to the system: those that do not hold the character that
ends texts there.
-/

import Bindery.Proofs.Disk.Siblings
import Bindery.Proofs.Machine.Calls
import Bindery.Proofs.Text.Joined

namespace Bindery.Action

open Text

/-- A path cannot be handed over exactly when one of its names holds the character. -/
theorem holdsNull_iff (path : Path) :
    holdsNull path = true ↔ ∃ part ∈ path.parts, '\x00' ∈ part.toList := by
  have inText : holdsNull path = true ↔ '\x00' ∈ path.written.toList := by
    unfold holdsNull Path.text
    rw [List.contains_iff_mem]
    dsimp only
    split
    next empty =>
      rw [empty]
      decide
    next => exact Iff.rfl
  rw [inText, Path.written, String.toList_append, List.mem_append]
  constructor
  · rintro (inAnchor | inParts)
    · cases anchor : path.anchor <;> rw [anchor] at inAnchor <;> exact absurd inAnchor (by decide)
    · rcases mem_join inParts with between | found
      · exact absurd between (by decide)
      · exact found
  · rintro ⟨part, inside, member⟩
    exact .inr (mem_join_of_mem inside member)

theorem holdsNull_eq_false_iff {path : Path} :
    holdsNull path = false ↔ ∀ part ∈ path.parts, '\x00' ∉ part.toList := by
  rw [← Bool.not_eq_true, holdsNull_iff]
  simp

/-- A longer path can be handed over when the shorter one and all further names can. -/
theorem holdsNull_down_eq_false_iff {path : Path} {place : Place} :
    holdsNull (path.down place) = false ↔
      (∀ part ∈ path.parts, '\x00' ∉ part.toList) ∧ ∀ part ∈ place, '\x00' ∉ part.toList := by
  rw [holdsNull_eq_false_iff]
  simp [Path.down, or_imp, forall_and]

end Bindery.Action
