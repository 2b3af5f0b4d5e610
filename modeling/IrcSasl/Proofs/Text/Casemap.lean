import IrcSasl.Proofs.Bytes
import IrcSasl.Text.Casemap

set_option autoImplicit false

/-!
# Casemapping of texts

A casemap maps ASCII bytes to ASCII bytes and leaves the others, so that mapping the bytes of a text
maps its characters (`Casemap.map_ofString`), and what comes out is text (`Casemap.ofString_fold`).
Casemaps are ordered by `Casemap.Refines`: what one takes for one name a coarser one does, too, and
the default one is the coarsest (`Casemap.fold_default_of_fold`). Characters go by a table of
capital forms (`Casemap.foldChar_eq_lookup`). Altogether, a small form is as long as its text,
differs from it in ASCII characters alone and is its own small form (`Casemap.fold_exact`).
-/

namespace IrcSasl.Text.Casemap

/-! ## Bytes and characters -/

/-- ASCII bytes stay ASCII bytes. -/
theorem mapByte_lt (casemap : Casemap) {byte : UInt8} (ascii : byte < 0x80) :
    casemap.mapByte byte < 0x80 := by
  cases casemap <;> grind [mapByte, lowerBracket, lowerAscii]

/-- Other bytes stay as they are. -/
theorem mapByte_of_le (casemap : Casemap) {byte : UInt8} (wide : 0x80 ≤ byte) :
    casemap.mapByte byte = byte := by
  cases casemap <;> grind [mapByte, lowerBracket, lowerAscii]

/-- The small form of a character. -/
def foldChar (casemap : Casemap) (char : Char) : Char :=
  if char.toNat < 0x80 then Char.ofNat (casemap.mapByte (UInt8.ofNat char.toNat)).toNat else char

/-- The small form of an ASCII character is one, which stands for the mapped byte. -/
theorem toNat_foldChar_of_lt (casemap : Casemap) {char : Char} (ascii : char.toNat < 0x80) :
    (casemap.foldChar char).toNat < 0x80 ∧
      UInt8.ofNat (casemap.foldChar char).toNat = casemap.mapByte (UInt8.ofNat char.toNat) := by
  have small : UInt8.ofNat char.toNat < 0x80 := by
    rw [UInt8.lt_iff_toNat_lt, UInt8.toNat_ofNat']
    exact Nat.lt_of_le_of_lt (Nat.mod_le _ _) ascii
  have mapped : (casemap.mapByte (UInt8.ofNat char.toNat)).toNat < 0x80 :=
    UInt8.lt_iff_toNat_lt.mp (casemap.mapByte_lt small)
  have number : (casemap.foldChar char).toNat =
      (casemap.mapByte (UInt8.ofNat char.toNat)).toNat := by
    rw [foldChar, if_pos ascii, Char.ofNat, dif_pos (.inl (by omega))]
    rfl
  rw [number]
  exact ⟨mapped, UInt8.ofNat_toNat⟩

/-- The bytes of a small form are those of the character, mapped one by one. -/
theorem utf8EncodeChar_foldChar (casemap : Casemap) (char : Char) :
    String.utf8EncodeChar (casemap.foldChar char) =
      (String.utf8EncodeChar char).map casemap.mapByte := by
  by_cases ascii : char.toNat < 0x80
  · obtain ⟨small, byte⟩ := casemap.toNat_foldChar_of_lt ascii
    rw [Bytes.utf8EncodeChar_of_lt ascii, Bytes.utf8EncodeChar_of_lt small, byte]
    rfl
  · have same : (String.utf8EncodeChar char).map casemap.mapByte =
        (String.utf8EncodeChar char).map id := by
      refine List.map_congr_left fun byte member => ?_
      have wide := Bytes.le_of_mem_utf8EncodeChar (Nat.not_lt.mp ascii) member
      exact casemap.mapByte_of_le (UInt8.le_iff_toNat_le.mpr wide)
    rw [same, List.map_id, foldChar, if_neg ascii]

/-- No other character has a small form that is not ASCII. -/
theorem foldChar_eq_iff (casemap : Casemap) {char other : Char} (wide : 0x80 ≤ char.toNat) :
    casemap.foldChar other = char ↔ other = char := by
  by_cases ascii : other.toNat < 0x80
  · have small := (casemap.toNat_foldChar_of_lt ascii).1
    constructor
    · rintro rfl
      exact absurd small (Nat.not_lt.mpr wide)
    · rintro rfl
      exact absurd ascii (Nat.not_lt.mpr wide)
  · rw [foldChar, if_neg ascii]

/-! ## Texts -/

/-- Mapping the bytes of a text maps its characters. -/
theorem map_ofString (casemap : Casemap) (text : String) :
    (Bytes.ofString text).map casemap.mapByte =
      Bytes.ofString (String.ofList (text.toList.map casemap.foldChar)) := by
  rw [Bytes.ofString_eq_flatMap, Bytes.ofString_ofList, List.map_flatMap, List.flatMap_map]
  simp only [utf8EncodeChar_foldChar]

/-- The bytes of a small form are those of the text, mapped one by one. -/
theorem ofString_fold (casemap : Casemap) (text : String) :
    Bytes.ofString (casemap.fold text) = (Bytes.ofString text).map casemap.mapByte := by
  rw [fold, map_ofString, Bytes.toString?_ofString, Option.getD_some]

/-- The characters of a small form are the small forms of the characters. -/
theorem toList_fold (casemap : Casemap) (text : String) :
    (casemap.fold text).toList = text.toList.map casemap.foldChar := by
  rw [fold, map_ofString, Bytes.toString?_ofString, Option.getD_some, String.toList_ofList]

@[simp] theorem length_fold (casemap : Casemap) (text : String) :
    (casemap.fold text).length = text.length := by
  rw [← String.length_toList, toList_fold, List.length_map, String.length_toList]

@[simp] theorem utf8ByteSize_fold (casemap : Casemap) (text : String) :
    (casemap.fold text).utf8ByteSize = text.utf8ByteSize := by
  rw [← Bytes.length_ofString, ofString_fold, List.length_map, Bytes.length_ofString]

/-- A character that is not ASCII stands in a small form exactly where it stands in the text. -/
theorem getElem?_fold_iff (casemap : Casemap) (text : String) (index : Nat) {char : Char}
    (wide : 0x80 ≤ char.toNat) :
    (casemap.fold text).toList[index]? = some char ↔ text.toList[index]? = some char := by
  rw [toList_fold, List.getElem?_map, Option.map_eq_some_iff]
  constructor
  · rintro ⟨other, found, small⟩
    rwa [← (casemap.foldChar_eq_iff wide).mp small]
  · intro found
    exact ⟨char, found, (casemap.foldChar_eq_iff wide).mpr rfl⟩

/-! ## Coarser casemaps -/

/-- A casemap refines a coarser one if that one takes each byte and the small form that the finer
one gives it for the same. -/
def Refines (fine coarse : Casemap) : Prop :=
  ∀ byte, coarse.mapByte (fine.mapByte byte) = coarse.mapByte byte

/-- A small form is its own small form. -/
theorem Refines.refl (casemap : Casemap) : casemap.Refines casemap := by
  intro byte
  cases casemap <;> grind [mapByte, lowerBracket, lowerAscii]

theorem Refines.trans {fine middle coarse : Casemap} (first : fine.Refines middle)
    (second : middle.Refines coarse) : fine.Refines coarse := fun byte => calc
  coarse.mapByte (fine.mapByte byte)
      = coarse.mapByte (middle.mapByte (fine.mapByte byte)) := (second _).symm
  _ = coarse.mapByte (middle.mapByte byte) := by rw [first byte]
  _ = coarse.mapByte byte := second byte

theorem ascii_refines_rfc1459Strict : ascii.Refines rfc1459Strict := by
  intro byte
  grind [mapByte, lowerBracket, lowerAscii]

theorem rfc1459Strict_refines_rfc1459 : rfc1459Strict.Refines rfc1459 := by
  intro byte
  grind [mapByte, lowerBracket, lowerAscii]

/-- The default casemap knows every other form that any casemap knows. -/
theorem refines_default (casemap : Casemap) : casemap.Refines default := by
  cases casemap with
  | ascii => exact ascii_refines_rfc1459Strict.trans rfc1459Strict_refines_rfc1459
  | rfc1459Strict => exact rfc1459Strict_refines_rfc1459
  | rfc1459 => exact .refl _

/-- A coarser casemap does not tell a text from its small form. -/
theorem Refines.fold_fold {fine coarse : Casemap} (refines : fine.Refines coarse)
    (text : String) : coarse.fold (fine.fold text) = coarse.fold text := by
  rw [← Bytes.ofString_inj, ofString_fold, ofString_fold, ofString_fold, List.map_map]
  exact List.map_congr_left fun byte _ => refines byte

/-- What a casemap takes for one name a coarser one does, too. -/
theorem Refines.fold_eq {fine coarse : Casemap} (refines : fine.Refines coarse)
    {text other : String} (same : fine.fold text = fine.fold other) :
    coarse.fold text = coarse.fold other := calc
  coarse.fold text = coarse.fold (fine.fold text) := (refines.fold_fold text).symm
  _ = coarse.fold (fine.fold other) := by rw [same]
  _ = coarse.fold other := refines.fold_fold other

/-- What any casemap takes for one name the default one does, too. -/
theorem fold_default_of_fold {casemap : Casemap} {text other : String}
    (same : casemap.fold text = casemap.fold other) :
    (default : Casemap).fold text = (default : Casemap).fold other :=
  (refines_default casemap).fold_eq same

/-! ## The table of capital forms -/

/-- The ASCII letters, each capital before its small form. -/
def letters : List (Char × Char) :=
  "ABCDEFGHIJKLMNOPQRSTUVWXYZ".toList.zip "abcdefghijklmnopqrstuvwxyz".toList

/-- The brackets and the backslash, each before its small form. -/
def brackets : List (Char × Char) :=
  [('[', '\x7b'), ('\\', '|'), (']', '\x7d')]

/-- The capital forms of a casemap, each before its small form. -/
def capitals : Casemap → List (Char × Char)
  | .ascii => letters
  | .rfc1459Strict => letters ++ brackets
  | .rfc1459 => letters ++ brackets ++ [('~', '^')]

/-- Only ASCII characters are capital forms. -/
theorem lookup_capitals_of_le (casemap : Casemap) {char : Char} (wide : 0x80 ≤ char.toNat) :
    casemap.capitals.lookup char = none := by
  have ascii : ∀ pair ∈ casemap.capitals, pair.1.toNat < 0x80 := by
    cases casemap <;> decide
  rw [List.lookup_eq_none_iff]
  intro pair member
  rw [bne_iff_ne]
  rintro rfl
  exact absurd (ascii pair member) (Nat.not_lt.mpr wide)

/-- A capital form goes to its small form, and other characters stay as they are. -/
theorem foldChar_eq_lookup (casemap : Casemap) (char : Char) :
    casemap.foldChar char = (casemap.capitals.lookup char).getD char := by
  by_cases ascii : char.toNat < 0x80
  · -- Bytes are mapped by arithmetic, characters by the table: the two are compared code by code.
    have table : ∀ code < 0x80, casemap.foldChar (Char.ofNat code) =
        (casemap.capitals.lookup (Char.ofNat code)).getD (Char.ofNat code) := by
      cases casemap <;> decide +kernel
    simpa only [Char.ofNat_toNat] using table char.toNat ascii
  · rw [foldChar, if_neg ascii, casemap.lookup_capitals_of_le (Nat.not_lt.mp ascii),
      Option.getD_none]

/-! ## Small forms of texts -/

/-- The mapped bytes of a text are always UTF-8, so that the text itself is never returned in their
place. The small form has as many bytes and as many characters as the text, a character that is not
ASCII stands in it exactly where it stands in the text, and every other one has gone by the table of
capital forms. A small form is its own small form. Texts that `ascii` takes for one `rfc1459Strict`
takes for one, and what it takes for one `rfc1459` does. -/
theorem fold_exact :
    (∀ (casemap : Casemap) (text : String),
      Bytes.toString? ((Bytes.ofString text).map casemap.mapByte) = some (casemap.fold text) ∧
      (casemap.fold text).utf8ByteSize = text.utf8ByteSize ∧
      (casemap.fold text).length = text.length ∧
      (∀ (index : Nat) (char : Char), 0x80 ≤ char.toNat →
        ((casemap.fold text).toList[index]? = some char ↔ text.toList[index]? = some char)) ∧
      (casemap.fold text).toList =
        text.toList.map (fun char => (casemap.capitals.lookup char).getD char) ∧
      casemap.fold (casemap.fold text) = casemap.fold text) ∧
    ∀ first second : String,
      (ascii.fold first = ascii.fold second →
        rfc1459Strict.fold first = rfc1459Strict.fold second) ∧
      (rfc1459Strict.fold first = rfc1459Strict.fold second →
        rfc1459.fold first = rfc1459.fold second) := by
  constructor
  · intro casemap text
    refine ⟨?_, casemap.utf8ByteSize_fold text, casemap.length_fold text,
      fun index _ => casemap.getElem?_fold_iff text index, ?_,
      (Refines.refl casemap).fold_fold text⟩
    · rw [← ofString_fold, Bytes.toString?_ofString]
    · rw [toList_fold]
      exact List.map_congr_left fun char _ => casemap.foldChar_eq_lookup char
  · intro first second
    exact ⟨ascii_refines_rfc1459Strict.fold_eq, rfc1459Strict_refines_rfc1459.fold_eq⟩

/-- A name with a character of two bytes, brackets and a tilde, and two spellings of another. -/
theorem fold_exact_brackets :
    Bytes.toString? ((Bytes.ofString "É[Q]~").map rfc1459.mapByte) = some "É\x7bq\x7d^" ∧
      0x80 ≤ 'É'.toNat ∧ (rfc1459.fold "É[Q]~").toList[0]? = some 'É' ∧
      ascii.fold "Qé" = ascii.fold "qé" ∧ rfc1459.fold "Qé" = rfc1459.fold "qé" := by
  obtain ⟨texts, chain⟩ := fold_exact
  obtain ⟨valid, -, -, wide, -, -⟩ := texts rfc1459 "É[Q]~"
  have small : rfc1459.fold "É[Q]~" = "É\x7bq\x7d^" := by decide
  have same : ascii.fold "Qé" = ascii.fold "qé" := by decide
  obtain ⟨strict, all⟩ := chain "Qé" "qé"
  exact ⟨small ▸ valid, by decide, (wide 0 'É' (by decide)).mpr (by decide), same,
    all (strict same)⟩

end IrcSasl.Text.Casemap
