import IrcSasl.Proofs.Text.Names

set_option autoImplicit false

/-!
# Escapes in names

A written name is read as a name exactly if it is the written form of that name but for the case of
the letters in its escapes, and only names without control characters are read
(`SaslName.decode?_inverse`). The reader goes by bytes and looks at what is UTF-8 only behind the
escapes, while names are written by characters: the bytes of a character other than a comma and an
equals sign are neither of the two.
-/

namespace IrcSasl.Text.SaslName

/-! ## The case of escapes -/

/-- The letter of a hexadecimal number in upper case. -/
def upperHex (byte : UInt8) : UInt8 := if 0x61 ≤ byte ∧ byte ≤ 0x66 then byte - 0x20 else byte

/-- Bytes with the letter of each escape in upper case. An escape is an equals sign with a digit and
a letter behind it. -/
def upperEscapes : Bytes → Bytes
  | 0x3D :: digit :: letter :: rest => 0x3D :: digit :: upperHex letter :: upperEscapes rest
  | byte :: rest => byte :: upperEscapes rest
  | [] => []

theorem upperEscapes_cons {byte : UInt8} (sign : byte ≠ 0x3D) (rest : Bytes) :
    upperEscapes (byte :: rest) = byte :: upperEscapes rest := by
  rw [upperEscapes]
  rintro _ _ _ rfl
  exact absurd rfl sign

/-- An escape is read in either case of its letter. -/
theorem upperHex_eq_iff (byte : UInt8) :
    (upperHex byte = 0x43 ↔ byte = 0x43 ∨ byte = 0x63) ∧
      (upperHex byte = 0x44 ↔ byte = 0x44 ∨ byte = 0x64) := by
  unfold upperHex
  grind

@[simp] theorem length_upperEscapes (bytes : Bytes) :
    (upperEscapes bytes).length = bytes.length := by
  fun_induction upperEscapes bytes with
  | case1 digit letter rest ih => simp only [List.length_cons, ih]
  | case2 byte rest _ ih => simp only [List.length_cons, ih]
  | case3 => rfl

/-! ## Escaped bytes -/

/-- How bytes are written: a comma and an equals sign as an escape in either case, all others as
they are. -/
inductive Spells : Bytes → Bytes → Prop where
  | nil : Spells [] []
  | comma {letter : UInt8} {written plain : Bytes} (cased : letter = 0x43 ∨ letter = 0x63)
      (rest : Spells written plain) :
      Spells (0x3D :: 0x32 :: letter :: written) (0x2C :: plain)
  | sign {letter : UInt8} {written plain : Bytes} (cased : letter = 0x44 ∨ letter = 0x64)
      (rest : Spells written plain) :
      Spells (0x3D :: 0x33 :: letter :: written) (0x3D :: plain)
  | other {byte : UInt8} {written plain : Bytes} (sign : byte ≠ 0x3D) (comma : byte ≠ 0x2C)
      (rest : Spells written plain) : Spells (byte :: written) (byte :: plain)

/-- Exactly what is written so is read, and as what it is written for. -/
theorem unescape?_eq_some_iff {written plain : Bytes} :
    unescape? written = some plain ↔ Spells written plain := by
  constructor
  · intro read
    fun_induction unescape? written generalizing plain with
    | case1 =>
        cases read
        exact .nil
    | case2 letter rest cased ih =>
        obtain ⟨tail, behind, rfl⟩ := Option.map_eq_some_iff.mp read
        exact .comma cased (ih behind)
    | case3 => cases read
    | case4 letter rest cased ih =>
        obtain ⟨tail, behind, rfl⟩ := Option.map_eq_some_iff.mp read
        exact .sign cased (ih behind)
    | case5 => cases read
    | case6 => cases read
    | case7 byte rest _ _ plain ih =>
        obtain ⟨tail, behind, rfl⟩ := Option.map_eq_some_iff.mp read
        obtain ⟨sign, comma⟩ := not_or.mp plain
        exact .other sign comma (ih behind)
  · intro spells
    induction spells with
    | nil => rfl
    | comma cased _ ih => simp only [unescape?, cased, if_true, ih, Option.map_some]
    | sign cased _ ih => simp only [unescape?, cased, if_true, ih, Option.map_some]
    | other sign comma _ ih => rw [unescape?_cons sign comma, ih, Option.map_some]

/-- The written form of a byte. -/
def escapeByte (byte : UInt8) : Bytes :=
  if byte = 0x2C then [0x3D, 0x32, 0x43] else if byte = 0x3D then [0x3D, 0x33, 0x44] else [byte]

theorem escapeByte_cases (byte : UInt8) :
    (byte = 0x2C ∧ escapeByte byte = [0x3D, 0x32, 0x43]) ∨
      (byte = 0x3D ∧ escapeByte byte = [0x3D, 0x33, 0x44]) ∨
      (byte ≠ 0x3D ∧ byte ≠ 0x2C ∧ escapeByte byte = [byte]) := by
  unfold escapeByte
  split
  · next comma => exact .inl ⟨comma, rfl⟩
  · next comma =>
      split
      · next sign => exact .inr (.inl ⟨sign, rfl⟩)
      · next sign => exact .inr (.inr ⟨sign, comma, rfl⟩)

/-- Behind an equals sign that is no escape there are less than two bytes, in either case. -/
theorem upperEscapes_ne_of_truncated {rest : Bytes}
    (truncated : ∀ digit letter behind, rest = digit :: letter :: behind → False)
    (digit letter : UInt8) (behind : Bytes) : upperEscapes rest ≠ digit :: letter :: behind := by
  intro same
  match rest with
  | [] => cases same
  | [byte] =>
      have lengths := congrArg List.length same
      rw [length_upperEscapes] at lengths
      cases lengths
  | digit :: letter :: behind => exact truncated digit letter behind rfl

/-- Every way to write bytes is the usual one but for the case of the escapes. -/
theorem upperEscapes_eq_iff {written plain : Bytes} :
    upperEscapes written = plain.flatMap escapeByte ↔ Spells written plain := by
  constructor
  · intro same
    fun_induction upperEscapes written generalizing plain with
    | case1 digit letter rest ih =>
        cases plain with
        | nil => cases same
        | cons byte plain =>
            rcases escapeByte_cases byte with
              ⟨rfl, escaped⟩ | ⟨rfl, escaped⟩ | ⟨sign, -, escaped⟩
            · simp only [List.flatMap_cons, escaped, List.cons_append, List.nil_append,
                List.cons.injEq, true_and] at same
              obtain ⟨rfl, cased, behind⟩ := same
              exact .comma ((upperHex_eq_iff letter).1.mp cased) (ih behind)
            · simp only [List.flatMap_cons, escaped, List.cons_append, List.nil_append,
                List.cons.injEq, true_and] at same
              obtain ⟨rfl, cased, behind⟩ := same
              exact .sign ((upperHex_eq_iff letter).2.mp cased) (ih behind)
            · rw [List.flatMap_cons, escaped] at same
              exact absurd (List.cons.inj same).1.symm sign
    | case2 byte rest whole ih =>
        cases plain with
        | nil => cases same
        | cons next plain =>
            have short (sign : byte = 0x3D) := upperEscapes_ne_of_truncated
              fun digit letter behind found => whole digit letter behind sign found
            rcases escapeByte_cases next with
              ⟨rfl, escaped⟩ | ⟨rfl, escaped⟩ | ⟨sign, comma, escaped⟩
            · rw [List.flatMap_cons, escaped] at same
              obtain ⟨sign, behind⟩ := List.cons.inj same
              exact absurd behind (short sign _ _ _)
            · rw [List.flatMap_cons, escaped] at same
              obtain ⟨sign, behind⟩ := List.cons.inj same
              exact absurd behind (short sign _ _ _)
            · rw [List.flatMap_cons, escaped] at same
              obtain ⟨rfl, behind⟩ := List.cons.inj same
              exact .other sign comma (ih behind)
    | case3 =>
        cases plain with
        | nil => exact .nil
        | cons byte plain =>
            rcases escapeByte_cases byte with
              ⟨-, escaped⟩ | ⟨-, escaped⟩ | ⟨-, -, escaped⟩ <;>
            · rw [List.flatMap_cons, escaped] at same
              cases same
  · intro spells
    induction spells with
    | nil => rfl
    | @comma letter _ _ cased _ ih =>
        rw [upperEscapes, ih, (upperHex_eq_iff letter).1.mpr cased]
        rfl
    | @sign letter _ _ cased _ ih =>
        rw [upperEscapes, ih, (upperHex_eq_iff letter).2.mpr cased]
        rfl
    | other sign comma _ ih =>
        rw [upperEscapes_cons sign, ih, List.flatMap_cons, escapeByte, if_neg comma, if_neg sign]
        rfl

/-! ## Names -/

/-- The escapes of a character are those of its bytes: no other character has a comma or an equals
sign for a byte. -/
theorem flatMap_escapeByte (char : Char) :
    (String.utf8EncodeChar char).flatMap escapeByte = bytesOf char := by
  by_cases comma : char = ','
  · rw [comma]
    decide
  · by_cases sign : char = '='
    · rw [sign]
      decide
    · have same : ∀ byte ∈ String.utf8EncodeChar char, escapeByte byte = [byte] := by
        intro byte member
        obtain ⟨noSign, noComma⟩ := clean_of_ne comma sign byte member
        rw [escapeByte, if_neg noComma, if_neg noSign]
      rw [bytesOf_eq comma sign, List.flatMap_def, List.map_congr_left same, ← List.flatMap_def,
        List.flatMap_singleton']

theorem ofString_encode_eq_escaped (name : String) :
    Bytes.ofString (encode name) = (Bytes.ofString name).flatMap escapeByte := by
  rw [ofString_encode, Bytes.ofString_eq_flatMap, List.flatMap_assoc]
  simp only [flatMap_escapeByte]

/-- The ways to write a name are those that differ from the usual one in the case of escapes. -/
theorem spells_ofString_iff {written : Bytes} {name : String} :
    Spells written (Bytes.ofString name) ↔
      upperEscapes written = Bytes.ofString (encode name) := by
  rw [ofString_encode_eq_escaped, upperEscapes_eq_iff]

theorem decode?_eq_some_iff {written : Bytes} {name : String} :
    decode? written = some name ↔
      name.toList.any isControl = false ∧ Spells written (Bytes.ofString name) := by
  rw [decode?, Option.filter_eq_some_iff, Option.bind_eq_some_iff]
  constructor
  · rintro ⟨⟨plain, read, encoded⟩, clean⟩
    rw [Bytes.toString?_eq_some_iff.mp encoded] at read
    exact ⟨by simpa using clean, unescape?_eq_some_iff.mp read⟩
  · rintro ⟨clean, spells⟩
    refine ⟨⟨_, unescape?_eq_some_iff.mpr spells, Bytes.toString?_ofString name⟩, ?_⟩
    simpa using clean

/-! ## What is refused -/

/-- Every equals sign of a written name begins one of the two escapes. -/
def Escaped (written : Bytes) : Prop :=
  ∀ before behind, written = before ++ 0x3D :: behind →
    ∃ letter rest, (behind = 0x32 :: letter :: rest ∧ (letter = 0x43 ∨ letter = 0x63)) ∨
      (behind = 0x33 :: letter :: rest ∧ (letter = 0x44 ∨ letter = 0x64))

theorem Escaped.cons {byte : UInt8} {written : Bytes} (escaped : Escaped written)
    (sign : byte ≠ 0x3D) : Escaped (byte :: written) := by
  intro before behind split
  cases before with
  | nil => exact absurd (List.cons.inj split).1 sign
  | cons first before => exact escaped before behind (List.cons.inj split).2

/-- An escape is put in front of a name whose equals signs all begin escapes. -/
theorem Escaped.escape {digit letter : UInt8} {written : Bytes} (escaped : Escaped written)
    (known : (digit = 0x32 ∧ (letter = 0x43 ∨ letter = 0x63)) ∨
      (digit = 0x33 ∧ (letter = 0x44 ∨ letter = 0x64))) :
    Escaped (0x3D :: digit :: letter :: written) := by
  intro before behind split
  cases before with
  | nil =>
      obtain ⟨-, rfl⟩ := List.cons.inj split
      rcases known with ⟨rfl, cased⟩ | ⟨rfl, cased⟩
      · exact ⟨letter, written, .inl ⟨rfl, cased⟩⟩
      · exact ⟨letter, written, .inr ⟨rfl, cased⟩⟩
  | cons first before =>
      have plain : digit ≠ 0x3D ∧ letter ≠ 0x3D := by
        grind
      exact (escaped.cons plain.2).cons plain.1 before behind (List.cons.inj split).2

theorem Spells.escaped {written plain : Bytes} (spells : Spells written plain) :
    Escaped written := by
  induction spells with
  | nil =>
      intro before behind split
      cases before <;> cases split
  | comma cased _ ih => exact ih.escape (.inl ⟨rfl, cased⟩)
  | sign cased _ ih => exact ih.escape (.inr ⟨rfl, cased⟩)
  | other sign _ _ ih => exact ih.cons sign

/-- Bytes that stand for themselves are written in front of the others. -/
theorem Spells.append {front written plain : Bytes}
    (clean : ∀ byte ∈ front, byte ≠ 0x3D ∧ byte ≠ 0x2C)
    (spells : Spells written (front ++ plain)) :
    ∃ rest, written = front ++ rest ∧ Spells rest plain := by
  induction front generalizing written with
  | nil => exact ⟨written, rfl, spells⟩
  | cons byte front ih =>
      obtain ⟨⟨sign, comma⟩, clean⟩ := List.forall_mem_cons.mp clean
      cases spells with
      | comma => exact absurd rfl comma
      | sign => exact absurd rfl sign
      | other _ _ behind =>
          obtain ⟨rest, rfl, spells⟩ := ih clean behind
          exact ⟨rest, rfl, spells⟩

/-- Escapes are ASCII, so that a written name is text. -/
theorem Spells.isText {written : Bytes} {name : List Char}
    (spells : Spells written (name.flatMap String.utf8EncodeChar)) :
    ∃ text : List Char, written = text.flatMap String.utf8EncodeChar := by
  induction name generalizing written with
  | nil =>
      cases spells
      exact ⟨[], rfl⟩
  | cons char name ih =>
      rw [List.flatMap_cons] at spells
      by_cases comma : char = ','
      · rw [comma, show String.utf8EncodeChar ',' = [0x2C] by decide] at spells
        cases spells with
        | comma cased behind =>
            obtain ⟨text, rfl⟩ := ih behind
            rcases cased with rfl | rfl
            · exact ⟨'=' :: '2' :: 'C' :: text, rfl⟩
            · exact ⟨'=' :: '2' :: 'c' :: text, rfl⟩
        | other _ comma => exact absurd rfl comma
      · by_cases sign : char = '='
        · rw [sign, show String.utf8EncodeChar '=' = [0x3D] by decide] at spells
          cases spells with
          | sign cased behind =>
              obtain ⟨text, rfl⟩ := ih behind
              rcases cased with rfl | rfl
              · exact ⟨'=' :: '3' :: 'D' :: text, rfl⟩
              · exact ⟨'=' :: '3' :: 'd' :: text, rfl⟩
          | other sign => exact absurd rfl sign
        · obtain ⟨rest, rfl, behind⟩ := spells.append (clean_of_ne comma sign)
          obtain ⟨text, rfl⟩ := ih behind
          exact ⟨char :: text, rfl⟩

/-- What can be read holds no comma and no equals sign but those of escapes, and is UTF-8. -/
structure Proper (written : Bytes) : Prop where
  comma : 0x2C ∉ written
  escaped : Escaped written
  text : ∃ text, written = Bytes.ofString text

theorem proper_of_decode? {written : Bytes} {name : String}
    (read : decode? written = some name) : Proper written := by
  obtain ⟨-, spells⟩ := decode?_eq_some_iff.mp read
  refine ⟨comma_not_mem_of_decode? read, spells.escaped, ?_⟩
  rw [Bytes.ofString_eq_flatMap] at spells
  obtain ⟨text, rfl⟩ := spells.isText
  exact ⟨String.ofList text, (Bytes.ofString_ofList text).symm⟩

/-- A name is read back from its written form, unless it has control characters. -/
theorem decode?_encode_eq (name : String) :
    decode? (Bytes.ofString (encode name)) =
      if name.toList.any isControl then none else some name := by
  split
  · next dirty =>
      rw [decode?, unescape?_encode, Option.bind_some, Bytes.toString?_ofString]
      simp [Option.filter, dirty]
  · next clean => exact decode?_encode (by simpa using clean)

/-! ## Reading undoes writing -/

/-- Bytes are read as a name exactly if the name has no control characters and the bytes are its
written form but for the case of escapes. So a name is read back from its written form, names with
control characters are never read, commas, other uses of an equals sign and bytes that are not UTF-8
are refused, and the written forms of one name differ in the case of escapes alone. -/
theorem decode?_inverse :
    (∀ written name, decode? written = some name ↔
      name.toList.any isControl = false ∧
        upperEscapes written = Bytes.ofString (encode name)) ∧
    (∀ name, decode? (Bytes.ofString (encode name)) =
      if name.toList.any isControl then none else some name) ∧
    (∀ written name, decode? written = some name → Proper written) ∧
    ∀ name first second, decode? first = some name → decode? second = some name →
      upperEscapes first = upperEscapes second := by
  have reads (written : Bytes) (name : String) : decode? written = some name ↔
      name.toList.any isControl = false ∧
        upperEscapes written = Bytes.ofString (encode name) := by
    rw [decode?_eq_some_iff, spells_ofString_iff]
  refine ⟨reads, decode?_encode_eq, fun _ _ => proper_of_decode?, ?_⟩
  intro name first second one other
  rw [((reads first name).mp one).2, ((reads second name).mp other).2]

/-- A name with a comma, an equals sign and a character of two bytes. -/
def mixedName : String := "é,=x"

/-- It is read from two written forms, with either case in both escapes. -/
theorem decode?_inverse_mixed :
    decode? (Bytes.ofString "é=2c=3Dx") = some mixedName ∧
      decode? (Bytes.ofString "é=2C=3dx") = some mixedName ∧
      Proper (Bytes.ofString "é=2c=3Dx") ∧
      upperEscapes (Bytes.ofString "é=2c=3Dx") = upperEscapes (Bytes.ofString "é=2C=3dx") := by
  obtain ⟨reads, -, proper, unique⟩ := decode?_inverse
  have first := (reads (Bytes.ofString "é=2c=3Dx") mixedName).mpr (by decide +kernel)
  have second := (reads (Bytes.ofString "é=2C=3dx") mixedName).mpr (by decide +kernel)
  exact ⟨first, second, proper _ _ first, unique _ _ _ first second⟩

end IrcSasl.Text.SaslName
