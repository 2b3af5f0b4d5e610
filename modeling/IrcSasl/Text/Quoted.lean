import IrcSasl.Unicode.Visible

set_option autoImplicit false

/-!
# Quoted text

How a text is shown inside a description or a log line: in double quotes, with a backslash before
quotes and backslashes, letters for the common control characters, and the code point of every other
character that would not show as itself.
-/

namespace IrcSasl.Text

/-- The hexadecimal digits of a number, in small letters. -/
def hexDigits (number : Nat) : String := String.ofList (Nat.toDigits 16 number)

/-- How a character is shown inside quotes. -/
def quoteChar (char : Char) : String :=
  if char = '"' then "\\\""
  else if char = '\\' then "\\\\"
  else if char = '\n' then "\\n"
  else if char = '\r' then "\\r"
  else if char = '\t' then "\\t"
  else if char = '\x00' then "\\0"
  else if Unicode.isVisible char then char.toString
  else "\\u\x7b" ++ hexDigits char.toNat ++ "\x7d"

/-- A text in quotes. -/
def quote (text : String) : String :=
  "\"" ++ String.join (text.toList.map quoteChar) ++ "\""

/-- A text in quotes that may be missing. -/
def quoteOption : Option String → String
  | none => "None"
  | some text => "Some(" ++ quote text ++ ")"

/-- How a byte is shown as ASCII: as itself if it is printable, else escaped. -/
def escapeByte (byte : UInt8) : String :=
  let char := Char.ofNat byte.toNat
  if byte = 9 then "\\t"
  else if byte = 10 then "\\n"
  else if byte = 13 then "\\r"
  else if byte = 34 ∨ byte = 39 ∨ byte = 92 then "\\" ++ char.toString
  else if 0x20 ≤ byte ∧ byte < 0x7F then char.toString
  else "\\x" ++ (if byte < 16 then "0" else "") ++ hexDigits byte.toNat

end IrcSasl.Text
