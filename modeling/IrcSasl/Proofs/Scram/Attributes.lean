import IrcSasl.Scram.Attributes

set_option autoImplicit false

/-!
# Attribute lists that are well formed

A list of attributes with distinct letters for names, and with values that are neither empty nor
hold a comma, is read back from its message, and what is read is such a list
(`Attributes.parse_eq_ok_iff`).
-/

namespace IrcSasl.Scram.Attributes

/-- The field of an attribute. -/
def field (entry : UInt8 × Bytes) : Bytes := entry.1 :: equalsSign :: entry.2

/-- A value that can stand in a message. -/
structure IsValue (value : Bytes) : Prop where
  nonempty : value ≠ []
  comma : comma ∉ value

/-- Attributes that can be written as a message. -/
structure Printable (attributes : Attributes) : Prop where
  nonempty : attributes ≠ []
  distinct : (attributes.map Prod.fst).Nodup
  letters : ∀ entry ∈ attributes, isLetter entry.1 = true
  values : ∀ entry ∈ attributes, IsValue entry.2

theorem Printable.single {name : UInt8} {value : Bytes} (letter : isLetter name = true)
    (some : IsValue value) : Printable [(name, value)] :=
  ⟨List.cons_ne_nil _ _, by simp, by simpa using letter, by simpa using some⟩

/-- One more attribute, of another name, goes in front. -/
theorem Printable.cons {name : UInt8} {value : Bytes} {rest : Attributes}
    (printable : rest.Printable)
    (letter : isLetter name = true) (fresh : name ∉ rest.map Prod.fst) (some : IsValue value) :
    Printable ((name, value) :: rest) := by
  refine ⟨List.cons_ne_nil _ _, ?_, ?_, ?_⟩
  · exact List.nodup_cons.mpr ⟨fresh, printable.distinct⟩
  · exact List.forall_mem_cons.mpr ⟨letter, printable.letters⟩
  · exact List.forall_mem_cons.mpr ⟨some, printable.values⟩

theorem print_eq_join (attributes : Attributes) :
    print attributes = Fields.join comma (attributes.map field) := rfl

/-- The field of an attribute holds no comma. -/
theorem comma_not_mem_field {entry : UInt8 × Bytes} (letter : isLetter entry.1 = true)
    (value : IsValue entry.2) : comma ∉ field entry := by
  intro member
  simp only [field, List.mem_cons] at member
  rcases member with same | same | inside
  · rw [← same] at letter
    exact absurd letter (by decide)
  · exact absurd same (by decide)
  · exact value.comma inside

theorem readField_field {before : List UInt8} {entry : UInt8 × Bytes}
    (letter : isLetter entry.1 = true) (fresh : entry.1 ∉ before) (value : IsValue entry.2) :
    readField before (field entry) = .ok entry := by
  obtain ⟨name, rest⟩ := entry
  cases rest with
  | nil => exact absurd rfl value.nonempty
  | cons first rest =>
      have unseen : before.contains name = false := by
        simpa using fresh
      simp only [field, readField, letter, unseen, Bool.not_true, Bool.false_eq_true, if_false,
        if_true]

/-- The fields of attributes are read in order, each with the names before it. -/
theorem readFields_map_field {before : List UInt8} {attributes : Attributes}
    (distinct : (attributes.map Prod.fst).Nodup)
    (fresh : ∀ entry ∈ attributes, entry.1 ∉ before)
    (letters : ∀ entry ∈ attributes, isLetter entry.1 = true)
    (values : ∀ entry ∈ attributes, IsValue entry.2) :
    readFields before (attributes.map field) = .ok attributes := by
  induction attributes generalizing before with
  | nil => rfl
  | cons entry rest ih =>
      simp only [List.map_cons, List.nodup_cons] at distinct
      simp only [List.mem_cons, forall_eq_or_imp] at fresh letters values
      have later : ∀ other ∈ rest, other.1 ∉ entry.1 :: before := by
        intro other member
        rw [List.mem_cons, not_or]
        refine ⟨?_, fresh.2 other member⟩
        intro same
        exact distinct.1 (same ▸ List.mem_map_of_mem member)
      rw [List.map_cons, readFields, readField_field letters.1 fresh.1 values.1]
      simp only
      rw [ih distinct.2 later letters.2 values.2]

/-- Attributes are read back from their message. -/
theorem parse_print {attributes : Attributes} (printable : attributes.Printable) :
    parse (print attributes) = .ok attributes := by
  have clean : ∀ text ∈ attributes.map field, comma ∉ text := by
    intro text member
    obtain ⟨entry, inside, rfl⟩ := List.mem_map.mp member
    exact comma_not_mem_field (printable.letters entry inside) (printable.values entry inside)
  have fields : attributes.map field ≠ [] := fun none =>
    printable.nonempty (List.map_eq_nil_iff.mp none)
  have nonempty : (print attributes).isEmpty = false := by
    match attributes, printable.nonempty with
    | [entry], _ => rfl
    | entry :: next :: rest, _ => rfl
  rw [parse, nonempty, if_neg (by decide), print_eq_join, Fields.split_join _ fields clean]
  exact readFields_map_field printable.distinct (fun _ _ => List.not_mem_nil) printable.letters
    printable.values

/-- A field that is read is that of an attribute with a new letter and with a value. -/
theorem of_readField {before : List UInt8} {text : Bytes} {entry : UInt8 × Bytes}
    (read : readField before text = .ok entry) :
    text = field entry ∧ isLetter entry.1 = true ∧ entry.1 ∉ before ∧ entry.2 ≠ [] := by
  cases text with
  | nil => cases read
  | cons name rest =>
      simp only [readField] at read
      split at read
      · cases read
      · next letter =>
          split at read
          · cases read
          · next fresh =>
              split at read
              · next sign first value =>
                  split at read
                  · next equals =>
                      cases read
                      refine ⟨by rw [equals]; rfl, ?_, ?_, List.cons_ne_nil _ _⟩
                      · simpa using letter
                      · simpa using fresh
                  · cases read
              · cases read

/-- Fields that are read are those of attributes with distinct new letters and with values. -/
theorem of_readFields {before : List UInt8} {texts : List Bytes} {attributes : Attributes}
    (read : readFields before texts = .ok attributes) :
    texts = attributes.map field ∧ (attributes.map Prod.fst).Nodup ∧
      ∀ entry ∈ attributes, isLetter entry.1 = true ∧ entry.1 ∉ before ∧ entry.2 ≠ [] := by
  induction texts generalizing before attributes with
  | nil =>
      cases read
      exact ⟨rfl, List.nodup_nil, fun _ absurd => by cases absurd⟩
  | cons text texts ih =>
      simp only [readFields] at read
      split at read
      · cases read
      · next name value single =>
          split at read
          · cases read
          · next rest others =>
              cases read
              obtain ⟨spelled, letter, fresh, valued⟩ := of_readField single
              obtain ⟨spelledRest, distinct, entries⟩ := ih others
              refine ⟨by rw [spelled, spelledRest]; rfl, ?_, ?_⟩
              · rw [List.map_cons, List.nodup_cons]
                refine ⟨?_, distinct⟩
                intro again
                obtain ⟨other, member, same⟩ := List.mem_map.mp again
                exact (entries other member).2.1 (same ▸ List.mem_cons_self)
              · rw [List.forall_mem_cons]
                refine ⟨⟨letter, fresh, valued⟩, ?_⟩
                intro other member
                obtain ⟨letterOther, freshOther, valuedOther⟩ := entries other member
                exact ⟨letterOther, fun old => freshOther (List.mem_cons_of_mem _ old),
                  valuedOther⟩

/-- A message is read exactly if it is that of attributes that can be written, and as these. -/
theorem parse_eq_ok_iff {message : Bytes} {attributes : Attributes} :
    parse message = .ok attributes ↔ attributes.Printable ∧ print attributes = message := by
  constructor
  · intro parsed
    unfold parse at parsed
    split at parsed
    · cases parsed
    · obtain ⟨spelled, distinct, entries⟩ := of_readFields parsed
      have clean : ∀ entry ∈ attributes, comma ∉ field entry := by
        intro entry member
        refine Fields.not_mem_of_mem_split comma message _ ?_
        rw [spelled]
        exact List.mem_map_of_mem member
      refine ⟨⟨?_, distinct, fun entry member => (entries entry member).1, ?_⟩, ?_⟩
      · rintro rfl
        exact Fields.split_ne_nil comma message spelled
      · intro entry member
        refine ⟨(entries entry member).2.2, fun inside => clean entry member ?_⟩
        exact List.mem_cons_of_mem _ (List.mem_cons_of_mem _ inside)
      · rw [print_eq_join, ← spelled, Fields.join_split]
  · rintro ⟨printable, rfl⟩
    exact parse_print printable

/-- The value that is found of a name stands in the list. -/
theorem mem_of_get? {attributes : Attributes} {name : UInt8} {value : Bytes}
    (found : attributes.get? name = some value) : (name, value) ∈ attributes := by
  obtain ⟨entry, first, rfl⟩ := Option.map_eq_some_iff.mp found
  have same : entry.1 = name := by simpa using List.find?_some first
  rw [← same]
  exact List.mem_of_find?_eq_some first

/-- Exactly the attributes that stand in the list are found by their names, which are distinct. -/
theorem get?_eq_some_iff {attributes : Attributes} (distinct : (attributes.map Prod.fst).Nodup)
    {name : UInt8} {value : Bytes} :
    attributes.get? name = some value ↔ (name, value) ∈ attributes := by
  refine ⟨mem_of_get?, ?_⟩
  intro member
  induction attributes with
  | nil => cases member
  | cons entry rest ih =>
      rw [List.map_cons, List.nodup_cons] at distinct
      rcases List.mem_cons.mp member with rfl | later
      · simp [get?]
      · have other : entry.1 ≠ name := fun same =>
          distinct.1 (same ▸ List.mem_map_of_mem (f := Prod.fst) later)
        have found := ih distinct.2 later
        unfold get? at found ⊢
        rwa [List.find?_cons_of_neg (by simpa using other)]

theorem get?_eq_none_iff {attributes : Attributes} {name : UInt8} :
    attributes.get? name = none ↔ name ∉ attributes.map Prod.fst := by
  unfold get?
  rw [Option.map_eq_none_iff, List.find?_eq_none]
  constructor
  · intro absent member
    obtain ⟨entry, inside, rfl⟩ := List.mem_map.mp member
    exact absent entry inside (decide_eq_true rfl)
  · intro absent entry inside same
    exact absent (of_decide_eq_true same ▸ List.mem_map_of_mem inside)

end IrcSasl.Scram.Attributes
