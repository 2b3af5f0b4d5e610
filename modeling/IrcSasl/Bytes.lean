set_option autoImplicit false

/-!
# Byte strings

Messages, keys and hashes are lists of bytes, so that codecs are recursions over lists.
Text crosses into bytes by `Bytes.ofString`, which is UTF-8, and comes back by `Bytes.toString?`,
which refuses bytes that are not UTF-8. `Bytes.toString?_eq_some_iff` says that these two
operations are inverse to each other.
-/

namespace IrcSasl

/-- A byte string. -/
abbrev Bytes := List UInt8

namespace Bytes

/-- The UTF-8 encoding of a text. -/
def ofString (text : String) : Bytes := text.toByteArray.data.toList

/-- The text that a byte string encodes, if it is UTF-8. -/
def toString? (bytes : Bytes) : Option String := String.fromUTF8? ⟨bytes.toArray⟩

/-- The text with one character per byte. Meant for bytes that are ASCII. -/
def asciiText (bytes : Bytes) : String :=
  String.ofList (bytes.map fun byte => Char.ofNat byte.toNat)

/-- The bytewise exclusive or, as long as the shorter of the two. -/
def xor (left right : Bytes) : Bytes := List.zipWith (· ^^^ ·) left right

/-- Cuts a byte string, or pads it with zeros at its end, to exactly `length` bytes. -/
def resize (length : Nat) (bytes : Bytes) : Bytes :=
  bytes.take length ++ List.replicate (length - bytes.length) 0

@[simp] theorem length_ofString (text : String) :
    (ofString text).length = text.utf8ByteSize :=
  Array.length_toList

@[simp] theorem ofString_append (left right : String) :
    ofString (left ++ right) = ofString left ++ ofString right := by
  simp [ofString, String.toByteArray_append]

theorem ofString_inj {left right : String} : ofString left = ofString right ↔ left = right := by
  constructor
  · intro equal
    refine String.toByteArray_inj.mp (ByteArray.ext ?_)
    exact Array.ext' equal
  · rintro rfl
    rfl

/-- Reading bytes as text succeeds exactly on the encoding of that text. -/
theorem toString?_eq_some_iff {bytes : Bytes} {text : String} :
    toString? bytes = some text ↔ bytes = ofString text := by
  unfold toString? String.fromUTF8? ofString
  constructor
  · intro found
    split at found
    · cases found
      simp [String.fromUTF8]
    · cases found
  · rintro rfl
    have valid : (⟨text.toByteArray.data.toList.toArray⟩ : ByteArray) = text.toByteArray := by simp
    simp [valid, String.isValidUTF8, String.fromUTF8]

@[simp] theorem toString?_ofString (text : String) : toString? (ofString text) = some text :=
  toString?_eq_some_iff.mpr rfl

end Bytes

end IrcSasl
