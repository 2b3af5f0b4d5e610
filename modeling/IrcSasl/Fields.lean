set_option autoImplicit false

/-!
# Separated fields

Several formats are fields with a separator between them: attribute lists, PLAIN messages, stored
hashes, lists of mechanism names. `Fields.split` cuts such a text at every separator and
`Fields.join` puts it together again; `join_split` and `split_join` say that they are inverse to
each other on fields without separators.
-/

namespace IrcSasl.Fields

variable {α : Type}

/-- The fields of a text. A text without separators is one field, also when it is empty. -/
def split [DecidableEq α] (separator : α) : List α → List (List α)
  | [] => [[]]
  | symbol :: rest =>
      if symbol = separator then [] :: split separator rest
      else
        match split separator rest with
        | [] => [[symbol]]
        | field :: fields => (symbol :: field) :: fields

/-- The text with these fields. -/
def join (separator : α) : List (List α) → List α
  | [] => []
  | [field] => field
  | field :: fields => field ++ separator :: join separator fields

variable (separator : α)

/-- A separator in front starts with an empty field. -/
theorem join_nil_cons {fields : List (List α)} (nonempty : fields ≠ []) :
    join separator ([] :: fields) = separator :: join separator fields := by
  cases fields with
  | nil => exact absurd rfl nonempty
  | cons => rfl

theorem join_cons_cons (symbol : α) (field : List α) (fields : List (List α)) :
    join separator ((symbol :: field) :: fields) = symbol :: join separator (field :: fields) := by
  cases fields <;> rfl

variable [DecidableEq α]

theorem split_ne_nil (text : List α) : split separator text ≠ [] := by
  cases text with
  | nil => simp [split]
  | cons symbol rest =>
      simp only [split]
      split
      · simp
      · split <;> simp

/-- Cutting loses nothing. -/
@[simp] theorem join_split (text : List α) : join separator (split separator text) = text := by
  induction text with
  | nil => rfl
  | cons symbol rest ih =>
      simp only [split]
      split
      · next same => rw [join_nil_cons _ (split_ne_nil _ _), ih, same]
      · split
        · next empty => exact absurd empty (split_ne_nil _ _)
        · next found => rw [join_cons_cons, ← found, ih]

/-- No field holds a separator. -/
theorem not_mem_of_mem_split (text : List α) :
    ∀ field ∈ split separator text, separator ∉ field := by
  induction text with
  | nil => simp [split]
  | cons symbol rest ih =>
      simp only [split]
      split
      · simpa using ih
      · next other =>
          split
          · simpa using fun same => other same.symm
          · next found =>
              simp only [found, List.mem_cons, forall_eq_or_imp] at ih ⊢
              exact ⟨fun bad => bad.elim (fun same => other same.symm) ih.1, ih.2⟩

/-- A field without separators is cut as itself. -/
theorem split_of_not_mem {field : List α} (clean : separator ∉ field) :
    split separator field = [field] := by
  induction field with
  | nil => rfl
  | cons symbol rest ih =>
      simp only [List.mem_cons, not_or] at clean
      simp [split, Ne.symm clean.1, ih clean.2]

theorem split_append_cons {field : List α} (clean : separator ∉ field) (rest : List α) :
    split separator (field ++ separator :: rest) = field :: split separator rest := by
  induction field with
  | nil => simp [split]
  | cons symbol field ih =>
      simp only [List.mem_cons, not_or] at clean
      simp [split, Ne.symm clean.1, ih clean.2]

/-- Fields without separators are cut as they were joined. -/
theorem split_join {fields : List (List α)} (nonempty : fields ≠ [])
    (clean : ∀ field ∈ fields, separator ∉ field) :
    split separator (join separator fields) = fields := by
  induction fields with
  | nil => exact absurd rfl nonempty
  | cons field fields ih =>
      simp only [List.mem_cons, forall_eq_or_imp] at clean
      cases fields with
      | nil => exact split_of_not_mem _ clean.1
      | cons next fields =>
          rw [join, split_append_cons _ clean.1, ih (by simp) clean.2]
          simp

end IrcSasl.Fields
