import IrcSasl.Bytes
import IrcSasl.Unicode.Direction
import IrcSasl.Unicode.Normalization
import IrcSasl.Unicode.Unassigned

set_option autoImplicit false

/-!
# SASLprep

Names and passwords are prepared with SASLprep (RFC 4013) before they are compared or hashed, so
that texts that look alike are alike: blanks become spaces, invisible characters go, and what is
left is normalized. Preparation refuses control characters and the like, mixed writing directions,
and unassigned characters. Printable ASCII text is its own prepared form
(`saslPrep_eq_some_of_plain`).
-/

namespace IrcSasl.Text

open Unicode

/-- Blanks other than the space, which preparation makes spaces (table C.1.2). -/
def blankRanges : Ranges where
  bounds :=
    [(0xA0, 0xA0), (0x1680, 0x1680), (0x2000, 0x200B), (0x202F, 0x202F), (0x205F, 0x205F),
     (0x3000, 0x3000)]

/-- Characters that preparation drops (table B.1). -/
def droppedRanges : Ranges where
  bounds :=
    [(0xAD, 0xAD), (0x34F, 0x34F), (0x1806, 0x1806), (0x180B, 0x180D), (0x200B, 0x200D),
     (0x2060, 0x2060), (0xFE00, 0xFE0F), (0xFEFF, 0xFEFF)]

/-- Control characters (tables C.2.1 and C.2.2). -/
def controlRanges : Ranges where
  bounds :=
    [(0x0, 0x1F), (0x7F, 0x9F), (0x6DD, 0x6DD), (0x70F, 0x70F), (0x180E, 0x180E),
     (0x200C, 0x200D), (0x2028, 0x2029), (0x2060, 0x2063), (0x206A, 0x206F), (0xFEFF, 0xFEFF),
     (0xFFF9, 0xFFFC), (0x1D173, 0x1D17A)]

/-- Private use characters (table C.3). -/
def privateRanges : Ranges where
  bounds := [(0xE000, 0xF8FF), (0xF0000, 0xFFFFD), (0x100000, 0x10FFFD)]

/-- Code points that are no characters (table C.4): a block of its own, and the last two of every
plane. -/
def isNoncharacter (char : Char) : Bool :=
  (0xFDD0 ≤ char.toNat && char.toNat ≤ 0xFDEF) || 0xFFFE ≤ char.toNat % 0x10000

/-- Characters that are inappropriate for plain text or for canonical representation, that change
how text is displayed, and tags (tables C.6 to C.9). -/
def inappropriateRanges : Ranges where
  bounds :=
    [(0xFFF9, 0xFFFD), (0x2FF0, 0x2FFB), (0x340, 0x341), (0x200E, 0x200F), (0x202A, 0x202E),
     (0x206A, 0x206F), (0xE0001, 0xE0001), (0xE0020, 0xE007F)]

/-- Whether prepared text must not hold a character. -/
def isProhibited (char : Char) : Bool :=
  blankRanges.contains char || controlRanges.contains char || privateRanges.contains char ||
    isNoncharacter char || inappropriateRanges.contains char

/-- Whether a text keeps to one direction: if any of its characters is written from right to left,
none is written from left to right, and the first and the last one are written from right to
left. -/
def keepsDirection (text : List Char) : Bool :=
  if text.any isRightToLeft then
    !text.any isLeftToRight && text.head?.any isRightToLeft && text.getLast?.any isRightToLeft
  else true

/-- Whether a character is printable ASCII. -/
def isPlain (char : Char) : Bool := 0x20 ≤ char.toNat && char.toNat < 0x7F

/-- Makes blanks spaces and drops invisible characters. -/
def mapBlanks (text : List Char) : List Char :=
  (text.map fun char => if blankRanges.contains char then ' ' else char).filter
    fun char => !droppedRanges.contains char

/-- The prepared form of a text, if there is one. -/
def saslPrep (text : String) : Option String :=
  if text.toList.all isPlain then some text
  else
    let prepared := normalizeKC (mapBlanks text.toList)
    if prepared.any isProhibited || !keepsDirection prepared || prepared.any isUnassigned then none
    else some (String.ofList prepared)

/-- The prepared form of a user name, if there is one and it is not empty. -/
def prepareName (name : String) : Option String :=
  (saslPrep name).filter fun prepared => !prepared.isEmpty

/-- The prepared form of a password. One that is not UTF-8, or has no prepared form, is used as it
is. -/
def preparePassword (password : Bytes) : Bytes :=
  match (Bytes.toString? password).bind saslPrep with
  | some prepared => Bytes.ofString prepared
  | none => password

/-- Printable ASCII text is its own prepared form. -/
theorem saslPrep_eq_some_of_plain {text : String} (plain : text.toList.all isPlain = true) :
    saslPrep text = some text := by
  simp only [saslPrep, plain, if_true]

end IrcSasl.Text
