import IrcSasl.Bytes

set_option autoImplicit false

/-!
# Casemapping

Names that differ only in case are the same name. A casemap says which bytes are the capital forms
of others. Only ASCII bytes have other forms, so that mapping bytes maps text to text.
-/

namespace IrcSasl.Text

/-- Which bytes are capital forms. -/
inductive Casemap where
  /-- The ASCII letters. -/
  | ascii
  /-- The ASCII letters, and the brackets and the backslash as capital forms of the braces and the
  bar. -/
  | rfc1459Strict
  /-- Those of `rfc1459Strict`, and the tilde as the capital form of the caret. -/
  | rfc1459
  deriving DecidableEq, Repr

namespace Casemap

instance : Inhabited Casemap := ⟨.rfc1459⟩

/-- The name of a casemap. -/
def name : Casemap → String
  | .ascii => "ascii"
  | .rfc1459Strict => "rfc1459-strict"
  | .rfc1459 => "rfc1459"

/-- The name of a casemap in descriptions of its owner. -/
def label : Casemap → String
  | .ascii => "Ascii"
  | .rfc1459Strict => "Rfc1459Strict"
  | .rfc1459 => "Rfc1459"

/-- The casemap of a name. -/
def ofName? (name : Bytes) : Option Casemap :=
  [ascii, rfc1459Strict, rfc1459].find? fun casemap => name = Bytes.ofString casemap.name

/-- The small form of an ASCII letter. -/
def lowerAscii (byte : UInt8) : UInt8 := if 65 ≤ byte ∧ byte ≤ 90 then byte + 32 else byte

/-- The small form of a letter or a bracket. -/
def lowerBracket (byte : UInt8) : UInt8 :=
  if 91 ≤ byte ∧ byte ≤ 93 then byte + 32 else lowerAscii byte

/-- The small form of a byte. -/
def mapByte (casemap : Casemap) (byte : UInt8) : UInt8 :=
  match casemap with
  | .ascii => lowerAscii byte
  | .rfc1459Strict => lowerBracket byte
  | .rfc1459 => if byte = 126 then 94 else lowerBracket byte

/-- The small form of a text. -/
def fold (casemap : Casemap) (text : String) : String :=
  (Bytes.toString? ((Bytes.ofString text).map casemap.mapByte)).getD text

end Casemap

end IrcSasl.Text
