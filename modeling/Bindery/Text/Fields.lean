/-
This file cuts a text into its fields at a separator character and joins fields again. Joining
undoes cutting for every text, and cutting undoes joining when no field holds the separator. It also
takes a text off the front or the back of another one, and replaces its first occurrence there.
-/

namespace Bindery.Text

/-- The fields between separators. A text without a separator is one field, and so is the
empty text. -/
def fields (separator : Char) : List Char → List (List Char)
  | [] => [[]]
  | c :: rest =>
    if c = separator then [] :: fields separator rest
    else
      match fields separator rest with
      | [] => [[c]]
      | field :: others => (c :: field) :: others

/-- Fields with a separator between each two of them. -/
def joinFields (separator : Char) : List (List Char) → List Char
  | [] => []
  | [field] => field
  | field :: next :: others => field ++ separator :: joinFields separator (next :: others)

/-- The fields of a text, as texts. -/
def cut (separator : Char) (text : String) : List String :=
  (fields separator text.toList).map String.ofList

/-- Texts with a separating text between each two of them. -/
def join (separator : String) : List String → String
  | [] => ""
  | [text] => text
  | text :: next :: others => text ++ separator ++ join separator (next :: others)

/-- The part before the first separator and, if there is one, the part after it. -/
def cutOnce (separator : Char) : List Char → List Char × Option (List Char)
  | [] => ([], none)
  | c :: rest =>
    if c = separator then ([], some rest)
    else
      let (front, back) := cutOnce separator rest
      (c :: front, back)

/-- What is left of a text when it begins with `front`. -/
def afterFront? : (front text : List Char) → Option (List Char)
  | [], text => some text
  | _ :: _, [] => none
  | c :: front, d :: text => if c = d then afterFront? front text else none

/-- What is left of a text when it ends with `back`. -/
def beforeBack? (back text : List Char) : Option (List Char) :=
  (afterFront? back.reverse text.reverse).map List.reverse

/-- The text with the first occurrence of `old`, if there is one, replaced by `new`. -/
def replaceFirst (old new : List Char) : List Char → List Char
  | [] => if old = [] then new else []
  | c :: rest =>
    match afterFront? old (c :: rest) with
    | some left => new ++ left
    | none => c :: replaceFirst old new rest

/-! ### Cutting and joining -/

theorem fields_ne_nil (separator : Char) (text : List Char) : fields separator text ≠ [] := by
  cases text with
  | nil => simp [fields]
  | cons c rest =>
    unfold fields
    split
    · simp
    · split <;> simp

/-- Joining undoes cutting. -/
@[simp] theorem joinFields_fields (separator : Char) (text : List Char) :
    joinFields separator (fields separator text) = text := by
  induction text with
  | nil => rfl
  | cons c rest inductionHypothesis =>
    unfold fields
    split
    next equal =>
      cases shape : fields separator rest with
      | nil => exact absurd shape (fields_ne_nil separator rest)
      | cons field others =>
        rw [shape] at inductionHypothesis
        simp [joinFields, inductionHypothesis, equal]
    next =>
      cases shape : fields separator rest with
      | nil => exact absurd shape (fields_ne_nil separator rest)
      | cons field others =>
        rw [shape] at inductionHypothesis
        cases others with
        | nil => simpa [joinFields] using inductionHypothesis
        | cons next more => simpa [joinFields] using inductionHypothesis

/-- A text that holds no separator is its only field. -/
theorem fields_of_not_mem (separator : Char) (text : List Char) (absent : separator ∉ text) :
    fields separator text = [text] := by
  induction text with
  | nil => rfl
  | cons c rest inductionHypothesis =>
    have restAbsent : separator ∉ rest := fun member => absent (List.mem_cons_of_mem _ member)
    have different : c ≠ separator := fun equal => absent (equal ▸ List.mem_cons_self)
    simp [fields, different, inductionHypothesis restAbsent]

/-- The first field ends at the first separator. -/
theorem fields_append_cons (separator : Char) (text rest : List Char)
    (absent : separator ∉ text) :
    fields separator (text ++ separator :: rest) = text :: fields separator rest := by
  induction text with
  | nil => simp [fields]
  | cons c tail inductionHypothesis =>
    have tailAbsent : separator ∉ tail := fun member => absent (List.mem_cons_of_mem _ member)
    have different : c ≠ separator := fun equal => absent (equal ▸ List.mem_cons_self)
    simp [fields, different, inductionHypothesis tailAbsent]

/-- Cutting undoes joining when no field holds the separator. -/
theorem fields_joinFields (separator : Char) (list : List (List Char)) (some : list ≠ [])
    (absent : ∀ field ∈ list, separator ∉ field) :
    fields separator (joinFields separator list) = list := by
  induction list with
  | nil => exact absurd rfl some
  | cons field others inductionHypothesis =>
    cases others with
    | nil => simpa [joinFields] using fields_of_not_mem separator field (absent field (by simp))
    | cons next more =>
      rw [joinFields, fields_append_cons separator _ _ (absent field (by simp)),
        inductionHypothesis (by simp)
          (fun member inside => absent member (List.mem_cons_of_mem _ inside))]

/-- No field holds the separator. -/
theorem not_mem_of_mem_fields (separator : Char) (text field : List Char)
    (member : field ∈ fields separator text) : separator ∉ field := by
  induction text generalizing field with
  | nil => simp [fields] at member; simp [member]
  | cons c rest inductionHypothesis =>
    unfold fields at member
    split at member
    next =>
      rcases List.mem_cons.mp member with rfl | inside
      · simp
      · exact inductionHypothesis field inside
    next different =>
      cases shape : fields separator rest with
      | nil => exact absurd shape (fields_ne_nil separator rest)
      | cons front others =>
        rw [shape] at member inductionHypothesis
        rcases List.mem_cons.mp member with rfl | inside
        · simp only [List.mem_cons, not_or]
          exact ⟨fun equal => different equal.symm, inductionHypothesis front (by simp)⟩
        · exact inductionHypothesis field (List.mem_cons_of_mem _ inside)

/-- The text is the front followed by what is left of it. -/
theorem afterFront?_eq_some_iff (front text rest : List Char) :
    afterFront? front text = some rest ↔ text = front ++ rest := by
  induction front generalizing text with
  | nil => simp [afterFront?, eq_comm]
  | cons c front inductionHypothesis =>
    cases text with
    | nil => simp [afterFront?]
    | cons d text =>
      unfold afterFront?
      split
      next equal => simp [inductionHypothesis, equal]
      next different =>
        simp only [reduceCtorEq, false_iff]
        exact fun equal => different (List.cons.inj equal).1.symm

/-- The text is what is left of it followed by the back. -/
theorem beforeBack?_eq_some_iff (back text rest : List Char) :
    beforeBack? back text = some rest ↔ text = rest ++ back := by
  simp only [beforeBack?, Option.map_eq_some_iff, afterFront?_eq_some_iff]
  constructor
  · rintro ⟨reversed, shape, rfl⟩
    rw [← List.reverse_reverse text, shape]
    simp
  · rintro rfl
    exact ⟨rest.reverse, by simp, by simp⟩

end Bindery.Text
