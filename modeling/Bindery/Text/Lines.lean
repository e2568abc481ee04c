/-
This file gives text files one kind of line end. A carriage return, alone or before a line
feed, ends a line just as a line feed does and is read as one.
-/

namespace Bindery.Text

/-- The text with each carriage return, and a line feed after it, read as one line feed. -/
def unifyNewlines : List Char → List Char
  | [] => []
  | '\r' :: '\n' :: rest => '\n' :: unifyNewlines rest
  | c :: rest => (if c = '\r' then '\n' else c) :: unifyNewlines rest

/-- `unifyNewlines` on texts. -/
def withUnixLines (text : String) : String := String.ofList (unifyNewlines text.toList)

/-- No carriage return is left. -/
theorem cr_not_mem_unifyNewlines (text : List Char) : '\r' ∉ unifyNewlines text := by
  fun_induction unifyNewlines text with
  | case1 => simp
  | case2 rest inductionHypothesis => simp [inductionHypothesis]
  | case3 c rest _ inductionHypothesis =>
    by_cases isReturn : c = '\r' <;> simp [isReturn, inductionHypothesis, eq_comm]

/-- A text without carriage returns is read as it is. -/
theorem unifyNewlines_of_not_mem (text : List Char) (absent : '\r' ∉ text) :
    unifyNewlines text = text := by
  fun_induction unifyNewlines text with
  | case1 => rfl
  | case2 rest _ => simp at absent
  | case3 c rest _ inductionHypothesis =>
    have different : c ≠ '\r' := fun equal => absent (equal ▸ List.mem_cons_self)
    rw [if_neg different,
      inductionHypothesis fun member => absent (List.mem_cons_of_mem _ member)]

end Bindery.Text
