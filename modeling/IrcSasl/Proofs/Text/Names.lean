import IrcSasl.Proofs.Bytes
import IrcSasl.Text.SaslName
import IrcSasl.Text.SaslPrep

set_option autoImplicit false

/-!
# Written names

A name without control characters is read back from its written form, which holds neither a comma
nor a NUL byte and so is a field of an attribute list.
-/

namespace IrcSasl.Text

namespace SaslName

/-- The bytes of a written character. -/
def bytesOf (char : Char) : Bytes := (escape char).flatMap String.utf8EncodeChar

theorem ofString_encode (name : String) :
    Bytes.ofString (encode name) = name.toList.flatMap bytesOf := by
  rw [encode, Bytes.ofString_ofList, List.flatMap_assoc]
  rfl

/-- A character other than a comma and an equals sign is written as it is. -/
theorem bytesOf_eq {char : Char} (comma : char ≠ ',') (sign : char ≠ '=') :
    bytesOf char = String.utf8EncodeChar char := by
  simp only [bytesOf, escape, comma, sign, if_false, List.flatMap_cons, List.flatMap_nil,
    List.append_nil]

theorem bytesOf_comma : bytesOf ',' = [0x3D, 0x32, 0x43] := by decide

theorem bytesOf_sign : bytesOf '=' = [0x3D, 0x33, 0x44] := by decide

/-- An ASCII byte of a character is that character. -/
theorem eq_of_mem {char : Char} {byte : UInt8} (member : byte ∈ String.utf8EncodeChar char)
    (code : Nat) (ascii : code < 0x80) (same : byte.toNat = code) : char = Char.ofNat code := by
  have number := Bytes.toNat_of_mem_utf8EncodeChar member (same ▸ ascii)
  rw [← same, number, Char.ofNat_toNat]

/-- The bytes of a character other than a comma and an equals sign are neither. -/
theorem clean_of_ne {char : Char} (comma : char ≠ ',') (sign : char ≠ '=') :
    ∀ byte ∈ String.utf8EncodeChar char, byte ≠ 0x3D ∧ byte ≠ 0x2C := by
  intro byte member
  constructor
  · rintro rfl
    exact sign (eq_of_mem member 0x3D (by decide) rfl)
  · rintro rfl
    exact comma (eq_of_mem member 0x2C (by decide) rfl)

/-- What is said of the bytes of all characters but two, and of the escapes of these, holds of every
byte of a written character. -/
theorem forall_mem_bytesOf (holds : UInt8 → Prop) {char : Char}
    (escapes : ∀ byte ∈ ([0x3D, 0x32, 0x33, 0x43, 0x44] : Bytes), holds byte)
    (others : char ≠ ',' → char ≠ '=' → ∀ byte ∈ String.utf8EncodeChar char, holds byte) :
    ∀ byte ∈ bytesOf char, holds byte := by
  intro byte member
  by_cases comma : char = ','
  · rw [comma, bytesOf_comma] at member
    refine escapes byte ?_
    simp only [List.mem_cons, List.not_mem_nil, or_false] at member ⊢
    rcases member with h | h | h <;> simp [h]
  · by_cases sign : char = '='
    · rw [sign, bytesOf_sign] at member
      refine escapes byte ?_
      simp only [List.mem_cons, List.not_mem_nil, or_false] at member ⊢
      rcases member with h | h | h <;> simp [h]
    · rw [bytesOf_eq comma sign] at member
      exact others comma sign byte member

/-- A written name holds no comma. -/
theorem comma_not_mem (name : String) : 0x2C ∉ Bytes.ofString (encode name) := by
  rw [ofString_encode, List.mem_flatMap]
  rintro ⟨char, -, member⟩
  refine forall_mem_bytesOf (· ≠ 0x2C) (by decide +kernel) ?_ _ member rfl
  exact fun comma sign byte inside => (clean_of_ne comma sign byte inside).2

/-- A written name without control characters holds no NUL byte. -/
theorem nul_not_mem {name : String} (clean : name.toList.any isControl = false) :
    0 ∉ Bytes.ofString (encode name) := by
  rw [ofString_encode, List.mem_flatMap]
  rintro ⟨char, inName, member⟩
  refine forall_mem_bytesOf (· ≠ 0) (by decide +kernel) ?_ _ member rfl
  rintro - - byte inside rfl
  rw [List.any_eq_false] at clean
  refine clean char inName ?_
  rw [eq_of_mem inside 0 (by decide) rfl]
  rfl

/-- A name that is not empty is written as something. -/
theorem ofString_encode_ne_nil {name : String} (named : name ≠ "") :
    Bytes.ofString (encode name) ≠ [] := by
  rw [ofString_encode, ne_eq, List.flatMap_eq_nil_iff]
  intro none
  cases spelled : name.toList with
  | nil => exact named (String.toList_inj.mp spelled)
  | cons char rest =>
      have empty := none char (spelled ▸ List.mem_cons_self)
      by_cases comma : char = ','
      · rw [comma, bytesOf_comma] at empty
        cases empty
      · by_cases sign : char = '='
        · rw [sign, bytesOf_sign] at empty
          cases empty
        · rw [bytesOf_eq comma sign] at empty
          exact String.utf8EncodeChar_ne_nil empty

/-! ## Reading a name back -/

theorem unescape?_cons {byte : UInt8} (sign : byte ≠ 0x3D) (comma : byte ≠ 0x2C) (rest : Bytes) :
    unescape? (byte :: rest) = (unescape? rest).map (byte :: ·) := by
  rw [unescape?]
  · simp only [sign, comma, or_self, if_false]
  · rintro _ _ rfl
    exact absurd rfl sign
  · rintro _ _ rfl
    exact absurd rfl sign

/-- Bytes that are neither a comma nor an equals sign are read as they are. -/
theorem unescape?_append {plain : Bytes} (clean : ∀ byte ∈ plain, byte ≠ 0x3D ∧ byte ≠ 0x2C)
    (rest : Bytes) : unescape? (plain ++ rest) = (unescape? rest).map (plain ++ ·) := by
  induction plain with
  | nil => simp
  | cons byte plain ih =>
      simp only [List.mem_cons, forall_eq_or_imp] at clean
      rw [List.cons_append, unescape?_cons clean.1.1 clean.1.2, ih clean.2, Option.map_map]
      rfl

/-- The written form of a character is read as the character. -/
theorem unescape?_bytesOf (char : Char) (rest : Bytes) :
    unescape? (bytesOf char ++ rest) = (unescape? rest).map (String.utf8EncodeChar char ++ ·) := by
  by_cases comma : char = ','
  · rw [comma, bytesOf_comma]
    rfl
  · by_cases sign : char = '='
    · rw [sign, bytesOf_sign]
      rfl
    · rw [bytesOf_eq comma sign]
      exact unescape?_append (clean_of_ne comma sign) rest

theorem unescape?_encode (name : String) :
    unescape? (Bytes.ofString (encode name)) = some (Bytes.ofString name) := by
  rw [ofString_encode, Bytes.ofString_eq_flatMap]
  induction name.toList with
  | nil => rfl
  | cons char rest ih =>
      rw [List.flatMap_cons, unescape?_bytesOf, ih]
      rfl

/-- A name without control characters is read back. -/
theorem decode?_encode {name : String} (clean : name.toList.any isControl = false) :
    decode? (Bytes.ofString (encode name)) = some name := by
  rw [decode?, unescape?_encode, Option.bind_some, Bytes.toString?_ofString]
  simp [Option.filter, clean]

/-- What escapes can be read in holds no comma. -/
theorem comma_not_mem_of_unescape? {bytes name : Bytes} (read : unescape? bytes = some name) :
    0x2C ∉ bytes := by
  fun_induction unescape? bytes generalizing name with
  | case1 => exact List.not_mem_nil
  | case2 letter rest escape ih =>
      obtain ⟨tail, behind, -⟩ := Option.map_eq_some_iff.mp read
      have letters : (0x2C : UInt8) ≠ letter := by
        rintro rfl
        exact absurd escape (by decide)
      simp [letters, ih behind]
  | case3 => cases read
  | case4 letter rest escape ih =>
      obtain ⟨tail, behind, -⟩ := Option.map_eq_some_iff.mp read
      have letters : (0x2C : UInt8) ≠ letter := by
        rintro rfl
        exact absurd escape (by decide)
      simp [letters, ih behind]
  | case5 => cases read
  | case6 => cases read
  | case7 byte rest _ _ plain ih =>
      obtain ⟨tail, behind, -⟩ := Option.map_eq_some_iff.mp read
      rw [not_or] at plain
      simp [Ne.symm plain.2, ih behind]

/-- What a name can be read in holds no comma. -/
theorem comma_not_mem_of_decode? {bytes : Bytes} {name : String}
    (read : decode? bytes = some name) : 0x2C ∉ bytes := by
  rw [decode?, Option.filter_eq_some_iff, Option.bind_eq_some_iff] at read
  obtain ⟨⟨unescaped, escapes, -⟩, -⟩ := read
  exact comma_not_mem_of_unescape? escapes

end SaslName

/-! ## Prepared names -/

/-- Preparing a prepared form changes nothing more: SASLprep is idempotent on the name. -/
def Stable (name : String) : Prop :=
  ∀ prepared, prepareName name = some prepared → prepareName prepared = some prepared

/-- A name that is prepared is not empty. -/
theorem ne_empty_of_prepareName {name prepared : String} (done : prepareName name = some prepared) :
    name ≠ "" := by
  rintro rfl
  have empty : prepareName "" = none := by decide
  rw [empty] at done
  cases done

/-- A name of printable ASCII characters is its own prepared form. -/
theorem stable_of_plain {name : String} (plain : name.toList.all isPlain = true) : Stable name := by
  intro prepared done
  rw [prepareName, saslPrep_eq_some_of_plain plain, Option.filter_eq_some_iff] at done
  obtain ⟨same, nonempty⟩ := done
  cases same
  rw [prepareName, saslPrep_eq_some_of_plain plain, Option.filter_eq_some_iff]
  exact ⟨rfl, nonempty⟩

end IrcSasl.Text
