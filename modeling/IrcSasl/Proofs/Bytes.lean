import IrcSasl.Base64

set_option autoImplicit false

/-!
# The bytes of texts

Text crosses into bytes character by character, and ASCII characters are the bytes below 128. A
base64 text is ASCII, so that nothing is lost where one is handled as text.
-/

namespace IrcSasl

namespace Bytes

/-! ## Text as bytes -/

theorem ofString_ofList (text : List Char) :
    ofString (String.ofList text) = text.flatMap String.utf8EncodeChar := by
  unfold ofString
  rw [String.toByteArray_ofList, List.utf8Encode, List.data_toByteArray]

theorem ofString_eq_flatMap (text : String) :
    ofString text = text.toList.flatMap String.utf8EncodeChar := by
  rw [← ofString_ofList, String.ofList_toList]

/-- An ASCII character is one byte. -/
theorem utf8EncodeChar_of_lt {char : Char} (ascii : char.toNat < 0x80) :
    String.utf8EncodeChar char = [UInt8.ofNat char.toNat] := by
  have small : char.val.toNat ≤ 0x7F := Nat.le_of_lt_succ ascii
  simp only [String.utf8EncodeChar, small, if_true]
  rfl

/-- ASCII text has one byte a character. -/
theorem length_of_ascii {text : String} (ascii : ∀ char ∈ text.toList, char.toNat < 0x80) :
    (ofString text).length = text.toList.length := by
  rw [ofString_eq_flatMap]
  generalize text.toList = chars at ascii ⊢
  induction chars with
  | nil => rfl
  | cons char rest ih =>
      simp only [List.mem_cons, forall_eq_or_imp] at ascii
      rw [List.flatMap_cons, List.length_append, ih ascii.2, utf8EncodeChar_of_lt ascii.1,
        List.length_singleton, List.length_cons, Nat.add_comm]

/-- The bytes of a character that is not ASCII are not ASCII. -/
theorem le_of_mem_utf8EncodeChar {char : Char} (wide : 0x80 ≤ char.toNat) {byte : UInt8}
    (member : byte ∈ String.utf8EncodeChar char) : 0x80 ≤ byte.toNat := by
  have wide : ¬char.val.toNat ≤ 0x7F := by
    have same : char.toNat = char.val.toNat := rfl
    omega
  have lead (number : Nat) (floor : 0x80 ≤ number) (top : number < 0x100) :
      0x80 ≤ (UInt8.ofNat number).toNat := by
    rw [UInt8.toNat_ofNat']
    omega
  simp only [String.utf8EncodeChar, wide, if_false] at member
  split at member
  · simp only [List.mem_cons, List.not_mem_nil, or_false] at member
    rcases member with rfl | rfl <;> exact lead _ (by omega) (by omega)
  · split at member
    · simp only [List.mem_cons, List.not_mem_nil, or_false] at member
      rcases member with rfl | rfl | rfl <;> exact lead _ (by omega) (by omega)
    · simp only [List.mem_cons, List.not_mem_nil, or_false] at member
      rcases member with rfl | rfl | rfl | rfl <;> exact lead _ (by omega) (by omega)

/-- An ASCII byte stands for itself. -/
theorem toNat_of_mem_utf8EncodeChar {char : Char} {byte : UInt8}
    (member : byte ∈ String.utf8EncodeChar char) (ascii : byte.toNat < 0x80) :
    byte.toNat = char.toNat := by
  by_cases wide : 0x80 ≤ char.toNat
  · have high := le_of_mem_utf8EncodeChar wide member
    omega
  · rw [utf8EncodeChar_of_lt (Nat.not_le.mp wide), List.mem_singleton] at member
    rw [member, UInt8.toNat_ofNat']
    omega

/-- Bytes that are ASCII are the bytes of their text. -/
theorem ofString_asciiText {bytes : Bytes} (ascii : ∀ byte ∈ bytes, byte.toNat < 0x80) :
    ofString (asciiText bytes) = bytes := by
  unfold asciiText
  rw [ofString_ofList]
  induction bytes with
  | nil => rfl
  | cons byte rest ih =>
      simp only [List.mem_cons, forall_eq_or_imp] at ascii
      have valid : byte.toNat.isValidChar := .inl (by omega)
      have number : (Char.ofNat byte.toNat).toNat = byte.toNat := by
        rw [Char.ofNat, dif_pos valid]
        rfl
      have encoded : String.utf8EncodeChar (Char.ofNat byte.toNat) = [byte] := by
        rw [utf8EncodeChar_of_lt (by omega), number, UInt8.ofNat_toNat]
      simp only [List.map_cons, List.flatMap_cons, encoded, ih ascii.2, List.singleton_append]

/-- A text of ASCII bytes has as many of them. -/
theorem utf8ByteSize_asciiText {bytes : Bytes} (ascii : ∀ byte ∈ bytes, byte.toNat < 0x80) :
    (asciiText bytes).utf8ByteSize = bytes.length := by
  rw [← length_ofString, ofString_asciiText ascii]

/-- The exclusive or with a key of the same length is undone by that key. -/
theorem xor_xor_cancel {bytes key : Bytes} (same : bytes.length = key.length) :
    xor (xor bytes key) key = bytes := by
  unfold xor
  induction bytes generalizing key with
  | nil => simp
  | cons byte bytes ih =>
      match key with
      | [] => cases same
      | other :: key =>
          have tail : bytes.length = key.length := Nat.succ.inj same
          simp only [List.zipWith_cons_cons, ih tail, UInt8.xor_assoc, UInt8.xor_self,
            UInt8.xor_zero]

@[simp] theorem length_xor (left right : Bytes) :
    (xor left right).length = min left.length right.length :=
  List.length_zipWith

end Bytes

/-! ## Base64 as text -/

namespace Base64

/-- A base64 text is made of symbols and padding. -/
theorem mem_encode {bytes : Bytes} {byte : UInt8} (member : byte ∈ encode bytes) :
    byte = pad ∨ ∃ value < 64, byte = symbol value := by
  fun_induction encode bytes with
  | case1 => cases member
  | case2 a =>
      have ha := a.toNat_lt
      simp only [List.mem_cons, List.not_mem_nil, or_false] at member
      rcases member with rfl | rfl | rfl | rfl
      · exact .inr ⟨_, by omega, rfl⟩
      · exact .inr ⟨_, by omega, rfl⟩
      · exact .inl rfl
      · exact .inl rfl
  | case3 a b =>
      have ha := a.toNat_lt
      have hb := b.toNat_lt
      simp only [List.mem_cons, List.not_mem_nil, or_false] at member
      rcases member with rfl | rfl | rfl | rfl
      · exact .inr ⟨_, by omega, rfl⟩
      · exact .inr ⟨_, by omega, rfl⟩
      · exact .inr ⟨_, by omega, rfl⟩
      · exact .inl rfl
  | case4 a b c rest ih =>
      have ha := a.toNat_lt
      have hb := b.toNat_lt
      have hc := c.toNat_lt
      simp only [List.mem_cons] at member
      rcases member with rfl | rfl | rfl | rfl | member
      · exact .inr ⟨_, by omega, rfl⟩
      · exact .inr ⟨_, by omega, rfl⟩
      · exact .inr ⟨_, by omega, rfl⟩
      · exact .inr ⟨_, by omega, rfl⟩
      · exact ih member

/-- What holds of the padding and of every symbol holds throughout a base64 text. -/
theorem forall_mem_encode (holds : UInt8 → Prop) (padding : holds pad)
    (symbols : ∀ value : Fin 64, holds (symbol value.val)) (bytes : Bytes) :
    ∀ byte ∈ encode bytes, holds byte := by
  intro byte member
  rcases mem_encode member with rfl | ⟨value, small, rfl⟩
  · exact padding
  · exact symbols ⟨value, small⟩

theorem ascii_encode (bytes : Bytes) : ∀ byte ∈ encode bytes, byte.toNat < 0x80 :=
  forall_mem_encode (·.toNat < 0x80) (by decide) (by decide) bytes

/-- The bytes of a base64 text are the base64 of what it encodes. -/
@[simp] theorem ofString_encodeText (bytes : Bytes) :
    Bytes.ofString (encodeText bytes) = encode bytes :=
  Bytes.ofString_asciiText (ascii_encode bytes)

theorem length_encode (bytes : Bytes) : (encode bytes).length = (bytes.length + 2) / 3 * 4 := by
  fun_induction encode bytes with
  | case1 => rfl
  | case2 a => simp only [List.length_cons, List.length_nil]
  | case3 a b => simp only [List.length_cons, List.length_nil]
  | case4 a b c rest ih =>
      simp only [List.length_cons, ih]
      omega

theorem even_encode (bytes : Bytes) : 2 ∣ (encode bytes).length := by
  rw [length_encode]
  omega

end Base64

end IrcSasl
