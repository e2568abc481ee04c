/-
This file tells which characters a joined text holds: those of the separator and those of the
texts between which it stands.
-/

import Bindery.Text.Fields

namespace Bindery.Text

theorem mem_joinFields {separator c : Char} {list : List (List Char)}
    (member : c ∈ joinFields separator list) : c = separator ∨ ∃ field ∈ list, c ∈ field := by
  induction list with
  | nil => cases member
  | cons field others inductionHypothesis =>
    cases others with
    | nil => exact .inr ⟨field, List.mem_cons_self, member⟩
    | cons next more =>
      rcases List.mem_append.mp member with front | back
      · exact .inr ⟨field, List.mem_cons_self, front⟩
      · rcases List.mem_cons.mp back with same | later
        · exact .inl same
        · rcases inductionHypothesis later with same | ⟨other, inside, found⟩
          · exact .inl same
          · exact .inr ⟨other, List.mem_cons_of_mem _ inside, found⟩

theorem mem_joinFields_of_mem {separator c : Char} {list : List (List Char)} {field : List Char}
    (inside : field ∈ list) (member : c ∈ field) : c ∈ joinFields separator list := by
  induction list with
  | nil => cases inside
  | cons first others inductionHypothesis =>
    cases others with
    | nil =>
      rw [List.mem_singleton.mp inside] at member
      exact member
    | cons next more =>
      rcases List.mem_cons.mp inside with same | later
      · rw [same] at member
        exact List.mem_append_left _ member
      · exact List.mem_append_right _ (List.mem_cons_of_mem _ (inductionHypothesis later))

theorem mem_join {c : Char} {separator : String} {texts : List String}
    (member : c ∈ (join separator texts).toList) :
    c ∈ separator.toList ∨ ∃ text ∈ texts, c ∈ text.toList := by
  induction texts with
  | nil => cases member
  | cons text others inductionHypothesis =>
    cases others with
    | nil => exact .inr ⟨text, List.mem_cons_self, member⟩
    | cons next more =>
      simp only [join, String.toList_append, List.mem_append] at member
      rcases member with (front | between) | back
      · exact .inr ⟨text, List.mem_cons_self, front⟩
      · exact .inl between
      · rcases inductionHypothesis back with between | ⟨other, inside, found⟩
        · exact .inl between
        · exact .inr ⟨other, List.mem_cons_of_mem _ inside, found⟩

theorem mem_join_of_mem {c : Char} {separator : String} {texts : List String} {text : String}
    (inside : text ∈ texts) (member : c ∈ text.toList) : c ∈ (join separator texts).toList := by
  induction texts with
  | nil => cases inside
  | cons first others inductionHypothesis =>
    cases others with
    | nil =>
      rw [List.mem_singleton.mp inside] at member
      exact member
    | cons next more =>
      simp only [join, String.toList_append, List.mem_append]
      rcases List.mem_cons.mp inside with same | later
      · rw [same] at member
        exact .inl (.inl member)
      · exact .inr (inductionHypothesis later)

/-- A text of one character separates texts as the character separates fields. -/
theorem toList_join (separator : Char) {between : String} (single : between.toList = [separator])
    (texts : List String) :
    (join between texts).toList = joinFields separator (texts.map String.toList) := by
  induction texts with
  | nil => rfl
  | cons text others inductionHypothesis =>
    cases others with
    | nil => rfl
    | cons next more =>
      show (text ++ between ++ join between (next :: more)).toList = _
      rw [String.toList_append, inductionHypothesis, String.toList_append, single,
        List.append_assoc]
      rfl

/-- Texts that differ in what is joined last begin alike. -/
theorem join_concat (separator : String) (texts : List String) :
    ∃ front, ∀ last, join separator (texts ++ [last]) = front ++ last := by
  induction texts with
  | nil => exact ⟨"", fun last => (String.empty_append).symm⟩
  | cons text others inductionHypothesis =>
    obtain ⟨front, joined⟩ := inductionHypothesis
    refine ⟨text ++ separator ++ front, fun last => ?_⟩
    cases others with
    | nil =>
      have alone : last = front ++ last := joined last
      show text ++ separator ++ last = text ++ separator ++ front ++ last
      rw [String.append_assoc, String.append_assoc, String.append_assoc, ← alone]
    | cons next more =>
      show text ++ separator ++ join separator (next :: more ++ [last]) = _
      rw [joined last, ← String.append_assoc]

end Bindery.Text
