/-
This file deals with the orders in which the values of a message may be written.

Values under keys have no order of their own, and so a message may be written with them in any
order, at every level. For the reader that makes no difference: each value takes its place among
those that are there, and two values under different keys take the same places whichever comes
first.
-/

import Bindery.Wire.Message
import Mathlib.Data.List.TakeWhile

namespace Bindery.Wire

/-! ### The order of values -/

theorem precedes_iff (first second : Nat × Value) :
    precedes first second = true ↔
      first.1 < second.1 ∨ first.1 = second.1 ∧ first.2.key ≤ second.2.key := by
  simp [precedes]

theorem precedes_of_not {first second : Nat × Value} (later : ¬precedes first second = true) :
    precedes second first = true := by
  rw [precedes_iff] at later ⊢
  omega

theorem precedes_trans {first second third : Nat × Value} (one : precedes first second = true)
    (two : precedes second third = true) : precedes first third = true := by
  rw [precedes_iff] at one two ⊢
  omega

/-- Whether no value stands behind one that it has to travel before. -/
def InOrder (items : List (Nat × Value)) : Prop :=
  items.Pairwise fun first second => precedes first second = true

/-! ### Putting values in order -/

/-- The values with one more, behind all that may travel before it. -/
def insertItem (items : List (Nat × Value)) (item : Nat × Value) : List (Nat × Value) :=
  items.takeWhile (fun other => precedes other item) ++
    item :: items.dropWhile (fun other => precedes other item)

theorem insertItem_perm (items : List (Nat × Value)) (item : Nat × Value) :
    (insertItem items item).Perm (item :: items) := by
  refine List.perm_middle.trans ?_
  rw [List.takeWhile_append_dropWhile]

theorem insertItem_of_precedes {first item : Nat × Value} (before : precedes first item = true)
    (items : List (Nat × Value)) :
    insertItem (first :: items) item = first :: insertItem items item := by
  simp only [insertItem, List.takeWhile_cons, List.dropWhile_cons, before, if_true,
    List.cons_append]

theorem insertItem_of_not {first item : Nat × Value} (later : ¬precedes first item = true)
    (items : List (Nat × Value)) :
    insertItem (first :: items) item = item :: first :: items := by
  rw [insertItem, List.takeWhile_cons, if_neg later, List.dropWhile_cons, if_neg later,
    List.nil_append]

theorem insertItem_of_all_precede {items : List (Nat × Value)} {item : Nat × Value}
    (before : ∀ other ∈ items, precedes other item = true) :
    insertItem items item = items ++ [item] := by
  have taken : items.takeWhile (fun other => precedes other item) = items :=
    List.takeWhile_eq_self_iff.2 before
  have dropped : items.dropWhile (fun other => precedes other item) = [] :=
    List.dropWhile_eq_nil_iff.2 before
  rw [insertItem, taken, dropped]

/-- Among values in order one more is inserted between those that may travel before it and those
that may not. -/
theorem exists_insertItem {items : List (Nat × Value)} (item : Nat × Value)
    (ordered : InOrder items) :
    ∃ front back, items = front ++ back ∧ insertItem items item = front ++ item :: back ∧
      (∀ other ∈ front, precedes other item = true) ∧
      ∀ other ∈ back, precedes item other = true := by
  have taken : ∀ other ∈ items.takeWhile (fun other => precedes other item),
      precedes other item = true := fun _ member =>
    List.mem_takeWhile_imp (p := fun other => precedes other item) member
  refine ⟨_, _, List.takeWhile_append_dropWhile.symm, rfl, taken, ?_⟩
  have sorted := ordered.sublist (List.dropWhile_sublist fun other => precedes other item)
  cases behind : items.dropWhile fun other => precedes other item with
  | nil => simp
  | cons first others =>
    have notBefore : ¬precedes first item = true := by
      have stopped := List.head_dropWhile_not (fun other => precedes other item)
        (show items.dropWhile _ ≠ [] by simp [behind])
      simpa [behind] using stopped
    rw [behind, List.pairwise_cons] at sorted
    intro other member
    rcases List.mem_cons.1 member with rfl | member
    · exact precedes_of_not notBefore
    · exact precedes_trans (precedes_of_not notBefore) (sorted.1 other member)

/-- Among some of the values one more takes the place that it takes among all of them. -/
theorem filter_insertItem {items : List (Nat × Value)} {item : Nat × Value}
    {stays : Nat × Value → Bool} (ordered : InOrder items) (kept : stays item = true) :
    (insertItem items item).filter stays = insertItem (items.filter stays) item := by
  induction items with
  | nil => exact List.filter_cons_of_pos kept
  | cons head items inductionHypothesis =>
    obtain ⟨headFirst, rest⟩ := List.pairwise_cons.1 ordered
    by_cases before : precedes head item = true
    · rw [insertItem_of_precedes before, List.filter_cons, List.filter_cons,
        inductionHypothesis rest]
      split
      · rw [insertItem_of_precedes before]
      · rfl
    · rw [insertItem_of_not before, List.filter_cons_of_pos kept]
      -- What stays of the values behind the first one may not travel before the new one either.
      cases left : (head :: items).filter stays with
      | nil => rfl
      | cons next others =>
        have member : next ∈ head :: items :=
          (List.mem_filter.1 (left ▸ List.mem_cons_self)).1
        rw [insertItem_of_not]
        rcases List.mem_cons.1 member with rfl | member
        · exact before
        · exact fun after => before (precedes_trans (headFirst next member) after)

/-- A value that may come first and one that may not take the same places in either order. -/
theorem insertItem_comm_of_strict {first second : Nat × Value}
    (before : precedes first second = true) (strict : ¬precedes second first = true)
    (items : List (Nat × Value)) :
    insertItem (insertItem items first) second = insertItem (insertItem items second) first := by
  induction items with
  | nil =>
    show insertItem [first] second = insertItem [second] first
    rw [insertItem_of_precedes before, insertItem_of_not strict]
    rfl
  | cons head items inductionHypothesis =>
    by_cases headFirst : precedes head first = true
    · have headSecond := precedes_trans headFirst before
      rw [insertItem_of_precedes headFirst, insertItem_of_precedes headSecond,
        insertItem_of_precedes headSecond, insertItem_of_precedes headFirst, inductionHypothesis]
    · rw [insertItem_of_not headFirst, insertItem_of_precedes before]
      by_cases headSecond : precedes head second = true
      · rw [insertItem_of_precedes headSecond, insertItem_of_not headFirst]
      · rw [insertItem_of_not headSecond, insertItem_of_not strict]

/-- Two values that differ in their fields or keys take the same places in either order. -/
theorem insertItem_comm {first second : Nat × Value}
    (differ : ¬(first.1 = second.1 ∧ first.2.key = second.2.key)) (items : List (Nat × Value)) :
    insertItem (insertItem items first) second = insertItem (insertItem items second) first := by
  by_cases before : precedes first second = true
  · refine insertItem_comm_of_strict before (fun after => differ ?_) items
    rw [precedes_iff] at before after
    omega
  · refine (insertItem_comm_of_strict (precedes_of_not before) before items).symm

/-- Values in order that come behind others stay as they are. -/
theorem foldl_insertItem_of_inOrder {done todo : List (Nat × Value)}
    (ordered : InOrder (done ++ todo)) :
    todo.foldl insertItem done = done ++ todo := by
  induction todo generalizing done with
  | nil => simp
  | cons item todo inductionHypothesis =>
    have before : ∀ other ∈ done, precedes other item = true := fun other member =>
      (List.pairwise_append.1 ordered).2.2 other member _ List.mem_cons_self
    rw [List.foldl_cons, insertItem_of_all_precede before,
      inductionHypothesis (by simpa using ordered)]
    simp

/-! ### Values under keys in any order -/

/-- The values in an order that differs at most in those under keys. -/
inductive Arranged (items : List (Nat × Value)) : List (Nat × Value) → Prop where
  | same : Arranged items items
  | swap {front back : List (Nat × Value)} {first second : Nat × Value}
    (arranged : Arranged items (front ++ first :: second :: back))
    (firstEntry : first.2.isEntry = true) (secondEntry : second.2.isEntry = true) :
    Arranged items (front ++ second :: first :: back)

theorem Arranged.perm {items order : List (Nat × Value)} (arranged : Arranged items order) :
    items.Perm order := by
  induction arranged with
  | same => exact List.Perm.refl items
  | swap _ _ _ inductionHypothesis =>
    exact inductionHypothesis.trans (List.Perm.append_left _ (List.Perm.swap ..))

/-- Values that are no entries stand in the same order. -/
theorem Arranged.filter {items order : List (Nat × Value)} (arranged : Arranged items order)
    {stays : Nat × Value → Bool}
    (unkeyed : ∀ item ∈ items, item.2.isEntry = true → stays item = false) :
    order.filter stays = items.filter stays := by
  induction arranged with
  | same => rfl
  | @swap front back first second arranged firstEntry secondEntry inductionHypothesis =>
    have firstLost := unkeyed first (arranged.perm.mem_iff.2 (by simp)) firstEntry
    have secondLost := unkeyed second (arranged.perm.mem_iff.2 (by simp)) secondEntry
    rw [← inductionHypothesis]
    simp [firstLost, secondLost]

/-- Values that are changed one by one can be arranged as before, if entries stay entries. -/
theorem Arranged.map {items order : List (Nat × Value)} (arranged : Arranged items order)
    {change : Nat × Value → Nat × Value}
    (entries : ∀ item, item.2.isEntry = true → (change item).2.isEntry = true) :
    Arranged (items.map change) (order.map change) := by
  induction arranged with
  | same => exact .same
  | swap arranged firstEntry secondEntry inductionHypothesis =>
    simp only [List.map_append, List.map_cons] at inductionHypothesis ⊢
    exact .swap inductionHypothesis (entries _ firstEntry) (entries _ secondEntry)

/-- Whether two values are no values under the same key of the same field. -/
def DifferentKeys (first second : Nat × Value) : Prop :=
  first.2.isEntry = true → second.2.isEntry = true →
    ¬(first.1 = second.1 ∧ first.2.key = second.2.key)

theorem DifferentKeys.symm {first second : Nat × Value} (differ : DifferentKeys first second) :
    DifferentKeys second first := fun secondEntry firstEntry same =>
  differ firstEntry secondEntry ⟨same.1.symm, same.2.symm⟩

/-- In whatever order values under keys come, they are put in the same order. -/
theorem Arranged.foldl_insertItem {items order : List (Nat × Value)}
    (arranged : Arranged items order) (differ : items.Pairwise DifferentKeys) :
    order.foldl insertItem [] = items.foldl insertItem [] := by
  induction arranged with
  | same => rfl
  | swap arranged firstEntry secondEntry inductionHypothesis =>
    have pairs := (arranged.perm.pairwise_iff DifferentKeys.symm).1 differ
    have differ := (List.pairwise_cons.1 (List.pairwise_append.1 pairs).2.1).1 _ List.mem_cons_self
    rw [← inductionHypothesis]
    simp only [List.foldl_append, List.foldl_cons,
      insertItem_comm (differ firstEntry secondEntry)]

/-! ### Messages with values under keys in any order -/

mutual

/-- A message, and one in which values under keys may stand in another order, also in the messages
inside it. -/
inductive Message.Rearranged : Message → Message → Prop where
  | intro {items order written : List (Nat × Value)} {unknown : List UInt8}
    (arranged : Arranged items order) (alike : ItemsRearranged order written) :
    Message.Rearranged ⟨items, unknown⟩ ⟨written, unknown⟩

/-- Values one by one, with messages that may be rearranged. -/
inductive ItemsRearranged : List (Nat × Value) → List (Nat × Value) → Prop where
  | nil : ItemsRearranged [] []
  | cons {number : Nat} {value written : Value} {items others : List (Nat × Value)}
    (first : Value.Rearranged value written) (rest : ItemsRearranged items others) :
    ItemsRearranged ((number, value) :: items) ((number, written) :: others)

/-- A value, and one whose message may be rearranged. -/
inductive Value.Rearranged : Value → Value → Prop where
  | same (value : Value) : Value.Rearranged value value
  | message {content written : Message} (inside : Message.Rearranged content written) :
    Value.Rearranged (.message content) (.message written)
  | entry (key : Nat) {content written : Message} (inside : Message.Rearranged content written) :
    Value.Rearranged (.entry key content) (.entry key written)

end

theorem ItemsRearranged.refl (items : List (Nat × Value)) : ItemsRearranged items items := by
  induction items with
  | nil => exact .nil
  | cons item items inductionHypothesis => exact .cons (.same item.2) inductionHypothesis

theorem ItemsRearranged.exists_mem {items written : List (Nat × Value)}
    (alike : ItemsRearranged items written) {item : Nat × Value} (member : item ∈ written) :
    ∃ value, (item.1, value) ∈ items := by
  induction items generalizing written with
  | nil =>
    cases alike
    cases member
  | cons first items inductionHypothesis =>
    cases alike with
    | cons first rest =>
      rcases List.mem_cons.1 member with rfl | member
      · exact ⟨_, List.mem_cons_self⟩
      · obtain ⟨value, found⟩ := inductionHypothesis rest member
        exact ⟨value, List.mem_cons_of_mem _ found⟩

theorem ItemsRearranged.exists_written {items written : List (Nat × Value)}
    (alike : ItemsRearranged items written) {item : Nat × Value} (member : item ∈ items) :
    ∃ other, (item.1, other) ∈ written ∧ item.2.Rearranged other := by
  induction items generalizing written with
  | nil => cases member
  | cons first items inductionHypothesis =>
    cases alike with
    | cons first rest =>
      rcases List.mem_cons.1 member with rfl | member
      · exact ⟨_, List.mem_cons_self, first⟩
      · obtain ⟨other, found, alike⟩ := inductionHypothesis rest member
        exact ⟨other, List.mem_cons_of_mem _ found, alike⟩

theorem Message.Rearranged.refl (message : Message) : message.Rearranged message := by
  obtain ⟨items, unknown⟩ := message
  exact .intro .same (.refl items)

theorem Value.Rearranged.exists_message {content : Message} {written : Value}
    (alike : Value.Rearranged (.message content) written) :
    ∃ other, written = .message other ∧ content.Rearranged other := by
  cases alike with
  | same => exact ⟨content, rfl, .refl content⟩
  | message inside => exact ⟨_, rfl, inside⟩

theorem Value.Rearranged.exists_entry {key : Nat} {content : Message} {written : Value}
    (alike : Value.Rearranged (.entry key content) written) :
    ∃ other, written = .entry key other ∧ content.Rearranged other := by
  cases alike with
  | same => exact ⟨content, rfl, .refl content⟩
  | entry _ inside => exact ⟨_, rfl, inside⟩

end Bindery.Wire
