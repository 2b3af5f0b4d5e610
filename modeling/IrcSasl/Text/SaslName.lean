import IrcSasl.Bytes

set_option autoImplicit false

/-!
# Names in SCRAM messages

A name stands in a SCRAM message as a `saslname` (RFC 5802): a comma is written `=2C` and an equals
sign `=3D`, so that a name has no comma and no other escape in it.
-/

namespace IrcSasl.Text.SaslName

/-- Whether a character is a control character of ASCII or of Latin 1. -/
def isControl (char : Char) : Bool :=
  char.toNat < 0x20 || (0x7F ≤ char.toNat && char.toNat < 0xA0)

/-- Reads the escapes of a name. Refuses a comma and any other use of an equals sign. -/
def unescape? : Bytes → Option Bytes
  | [] => some []
  | 0x3D :: 0x32 :: letter :: rest =>
      if letter = 0x43 ∨ letter = 0x63 then (unescape? rest).map (0x2C :: ·) else none
  | 0x3D :: 0x33 :: letter :: rest =>
      if letter = 0x44 ∨ letter = 0x64 then (unescape? rest).map (0x3D :: ·) else none
  | byte :: rest =>
      if byte = 0x3D ∨ byte = 0x2C then none else (unescape? rest).map (byte :: ·)

/-- The name that a `saslname` stands for. Refuses names that are not UTF-8 or have control
characters. -/
def decode? (bytes : Bytes) : Option String :=
  ((unescape? bytes).bind Bytes.toString?).filter fun name => !name.toList.any isControl

/-- The written form of a character. -/
def escape (char : Char) : List Char :=
  if char = ',' then ['=', '2', 'C'] else if char = '=' then ['=', '3', 'D'] else [char]

/-- The written form of a name. -/
def encode (name : String) : String := String.ofList (name.toList.flatMap escape)

end IrcSasl.Text.SaslName
