import IrcSasl.Proofs.Scram.Attributes

set_option autoImplicit false

/-!
# What is wrong with an attribute list

A message that is not read is refused for the first of its fields, from the left, that has a fault
given the names before it (`Attributes.readFields_eq_error_iff`). With the lists that are read
(`Attributes.parse_eq_ok_iff`) this tells the answer to every message (`Attributes.parse_exact`).
-/

namespace IrcSasl.Scram.Attributes

/-- The names of fields, which are their first bytes. -/
def names (fields : List Bytes) : List UInt8 := fields.filterMap List.head?

/-- What is wrong with a field, given the names before it. The conditions exclude each other: a
fault is only looked for where none of the former is. -/
inductive Faulty (before : List UInt8) : Bytes → AttributeError → Prop
  | nameless : Faulty before [] (.invalidName comma)
  | misnamed {name : UInt8} {rest : Bytes} (letter : isLetter name = false) :
      Faulty before (name :: rest) (.invalidName name)
  | repeated {name : UInt8} {rest : Bytes} (letter : isLetter name = true)
      (old : name ∈ before) : Faulty before (name :: rest) (.duplicate name)
  | valueless {name : UInt8} {rest : Bytes} (letter : isLetter name = true)
      (fresh : name ∉ before) (missing : ∀ value ≠ [], rest ≠ equalsSign :: value) :
      Faulty before (name :: rest) (.missingValue name)

/-- It does not matter in which order the names before a field came. -/
theorem Faulty.congr {before other : List UInt8} {text : Bytes} {error : AttributeError}
    (same : ∀ name, name ∈ before ↔ name ∈ other) (faulty : Faulty before text error) :
    Faulty other text error := by
  cases faulty with
  | nameless => exact .nameless
  | misnamed letter => exact .misnamed letter
  | repeated letter old => exact .repeated letter ((same _).mp old)
  | valueless letter fresh missing => exact .valueless letter (mt (same _).mpr fresh) missing

/-- The first field from the left that has a fault, given the names before all of them. -/
def FirstFault (before : List UInt8) (fields : List Bytes) (error : AttributeError) : Prop :=
  ∃ early text late, fields = early ++ text :: late ∧
    Faulty (before ++ names early) text error ∧
    ∀ front next back, early = front ++ next :: back →
      ∀ fault, ¬ Faulty (before ++ names front) next fault

theorem not_firstFault_nil {before : List UInt8} {error : AttributeError} :
    ¬ FirstFault before [] error := by
  rintro ⟨early, text, late, split, -⟩
  exact List.cons_ne_nil _ _ (List.append_eq_nil_iff.mp split.symm).2

/-- The names before a later field are those of the fields in between, too. -/
theorem Faulty.names_cons_iff {before : List UInt8} {name : UInt8} {rest text : Bytes}
    {fields : List Bytes} {error : AttributeError} :
    Faulty (before ++ names ((name :: rest) :: fields)) text error ↔
      Faulty (name :: before ++ names fields) text error := by
  have same : ∀ other, other ∈ before ++ names ((name :: rest) :: fields) ↔
      other ∈ name :: before ++ names fields := by
    intro other
    simp only [names, List.filterMap_cons, List.head?_cons, List.cons_append, List.mem_append,
      List.mem_cons]
    exact or_left_comm
  exact ⟨Faulty.congr same, Faulty.congr fun other => (same other).symm⟩

/-- The first fault is that of the first field, if this has one. -/
theorem firstFault_cons_of_faulty {before : List UInt8} {text : Bytes} {fields : List Bytes}
    {fault error : AttributeError} (faulty : Faulty before text fault) :
    FirstFault before (text :: fields) error ↔ Faulty before text error := by
  constructor
  · rintro ⟨early, text, late, split, other, first⟩
    cases early with
    | nil =>
        cases split
        simpa [names] using other
    | cons text early =>
        cases split
        exact absurd (by simpa [names] using faulty) (first [] _ early rfl fault)
  · intro other
    refine ⟨[], text, fields, rfl, by simpa [names] using other, ?_⟩
    intro front next back split
    cases front <;> cases split

/-- The first fault is that of the other fields, if the first has none. -/
theorem firstFault_cons_of_sound {before : List UInt8} {name : UInt8} {rest : Bytes}
    {fields : List Bytes} {error : AttributeError}
    (sound : ∀ fault, ¬ Faulty before (name :: rest) fault) :
    FirstFault before ((name :: rest) :: fields) error ↔
      FirstFault (name :: before) fields error := by
  constructor
  · rintro ⟨early, text, late, split, faulty, first⟩
    cases early with
    | nil =>
        cases split
        exact absurd (by simpa [names] using faulty) (sound error)
    | cons text early =>
        cases split
        refine ⟨early, _, late, rfl, Faulty.names_cons_iff.mp faulty, ?_⟩
        rintro front next back rfl fault again
        exact first (_ :: front) next back rfl fault (Faulty.names_cons_iff.mpr again)
  · rintro ⟨early, text, late, rfl, faulty, first⟩
    refine ⟨(name :: rest) :: early, text, late, rfl, Faulty.names_cons_iff.mpr faulty, ?_⟩
    intro front next back split fault again
    cases front with
    | nil =>
        cases split
        exact sound fault (by simpa [names] using again)
    | cons text front =>
        cases split
        exact first front next back rfl fault (Faulty.names_cons_iff.mp again)

/-- A field is refused for the fault it has. -/
theorem readField_eq_error_iff {before : List UInt8} {text : Bytes} {error : AttributeError} :
    readField before text = .error error ↔ Faulty before text error := by
  constructor
  · intro refused
    cases text with
    | nil =>
        cases refused
        exact .nameless
    | cons name rest =>
        simp only [readField] at refused
        split at refused
        · next letter =>
            cases refused
            exact .misnamed (by simpa using letter)
        · next letter =>
            have letter : isLetter name = true := by simpa using letter
            split at refused
            · next old =>
                cases refused
                exact .repeated letter (by simpa using old)
            · next fresh =>
                have fresh : name ∉ before := by simpa using fresh
                split at refused
                · next sign first value =>
                    split at refused
                    · cases refused
                    · next other =>
                        cases refused
                        refine .valueless letter fresh ?_
                        intro value _ same
                        exact other (List.cons.inj same).1
                · next short =>
                    cases refused
                    refine .valueless letter fresh ?_
                    intro value nonempty same
                    obtain ⟨first, value, rfl⟩ := List.exists_cons_of_ne_nil nonempty
                    exact short _ _ _ same
  · intro faulty
    cases faulty with
    | nameless => rfl
    | misnamed letter => simp [readField, letter]
    | repeated letter old => simp [readField, letter, old]
    | @valueless name rest letter fresh missing =>
        cases rest with
        | nil => simp [readField, letter, fresh]
        | cons sign rest =>
            cases rest with
            | nil => simp [readField, letter, fresh]
            | cons first value =>
                have other : sign ≠ equalsSign := by
                  rintro rfl
                  exact missing (first :: value) (List.cons_ne_nil _ _) rfl
                simp [readField, letter, fresh, other]

/-- A field that is read has no fault. -/
theorem not_faulty_of_readField {before : List UInt8} {text : Bytes} {entry : UInt8 × Bytes}
    (read : readField before text = .ok entry) (error : AttributeError) :
    ¬ Faulty before text error := by
  intro faulty
  rw [readField_eq_error_iff.mpr faulty] at read
  cases read

/-- Fields are refused for the first of them that has a fault. -/
theorem readFields_eq_error_iff {before : List UInt8} {fields : List Bytes}
    {error : AttributeError} :
    readFields before fields = .error error ↔ FirstFault before fields error := by
  induction fields generalizing before with
  | nil =>
      constructor
      · intro refused
        cases refused
      · intro fault
        exact absurd fault not_firstFault_nil
  | cons text fields ih =>
      cases read : readField before text with
      | error fault =>
          rw [firstFault_cons_of_faulty (readField_eq_error_iff.mp read),
            ← readField_eq_error_iff]
          simp only [readFields, read, Except.error.injEq]
      | ok entry =>
          have sound := not_faulty_of_readField read
          obtain ⟨rfl, -⟩ := of_readField read
          rw [field, firstFault_cons_of_sound sound, ← ih, ← field]
          simp only [readFields, read]
          cases readFields (entry.1 :: before) fields with
          | error fault => rfl
          | ok attributes => simp

/-- A message is read as exactly the attributes whose message it is, which are found by their
names, and is refused for the first fault of its fields. -/
theorem parse_exact (message : Bytes) :
    (∀ attributes, parse message = .ok attributes ↔
      attributes.Printable ∧ print attributes = message) ∧
    (∀ attributes, parse message = .ok attributes → ∀ name,
      (∀ value, attributes.get? name = some value ↔ (name, value) ∈ attributes) ∧
      (attributes.get? name = none ↔ name ∉ attributes.map Prod.fst)) ∧
    ∀ error, parse message = .error error ↔
      message = [] ∧ error = .empty ∨
        message ≠ [] ∧ FirstFault [] (Fields.split comma message) error := by
  refine ⟨fun attributes => parse_eq_ok_iff, ?_, ?_⟩
  · intro attributes parsed name
    have distinct := (parse_eq_ok_iff.mp parsed).1.distinct
    exact ⟨fun value => get?_eq_some_iff distinct, get?_eq_none_iff⟩
  · intro error
    cases message with
    | nil =>
        simp [parse, eq_comm]
    | cons byte message =>
        simp [parse, readFields_eq_error_iff]

/-- A value keeps its equals sign, and a repeated name is reported before the empty field and the
name without a value that follow it. -/
theorem parse_exact_repeated :
    Printable [(0x6E, Bytes.ofString "user"), (0x72, Bytes.ofString "abc=")] ∧
    get? [(0x6E, Bytes.ofString "user"), (0x72, Bytes.ofString "abc=")] 0x63 = none ∧
    FirstFault [] (Fields.split comma (Bytes.ofString "n=a,n=b,,r")) (.duplicate 0x6E) := by
  have read := parse_exact (Bytes.ofString "n=user,r=abc=")
  have listed : parse (Bytes.ofString "n=user,r=abc=") =
      .ok [(0x6E, Bytes.ofString "user"), (0x72, Bytes.ofString "abc=")] := rfl
  have refused : parse (Bytes.ofString "n=a,n=b,,r") = .error (.duplicate 0x6E) := rfl
  refine ⟨((read.1 _).mp listed).1, ((read.2.1 _ listed 0x63).2).mpr (by decide), ?_⟩
  rcases ((parse_exact _).2.2 _).mp refused with ⟨empty, -⟩ | ⟨-, first⟩
  · exact absurd empty (by decide)
  · exact first

end IrcSasl.Scram.Attributes
