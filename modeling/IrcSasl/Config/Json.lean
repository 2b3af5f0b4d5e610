set_option autoImplicit false

/-!
# JSON texts

A reader for the JSON in which options are written. The tree keeps what configuration can tell
apart: natural numbers from all other numbers, and texts from strings whose escapes do not form
characters.
-/

namespace IrcSasl.Config

/-- A JSON value. -/
inductive Json where
  | null
  | bool (value : Bool)
  /-- A number written with digits only. -/
  | natural (value : Nat)
  /-- A number with a sign, a fraction or an exponent. -/
  | otherNumber
  /-- A string of characters. -/
  | text (value : String)
  /-- A string with half a surrogate pair in it. -/
  | brokenText
  | array (elements : List Json)
  /-- The members, with their keys as strings. -/
  | object (members : List (Json × Json))

namespace Json

/-- Drops blanks at the front. -/
def skipBlanks (input : List Char) : List Char :=
  input.dropWhile fun char => char = ' ' || char = '\n' || char = '\t' || char = '\r'

/-- Whether a character is a decimal digit. -/
def isDigit (char : Char) : Bool := '0' ≤ char && char ≤ '9'

/-- The value of a hexadecimal digit. -/
def hexDigit? (char : Char) : Option Nat :=
  if isDigit char then some (char.toNat - 48)
  else if 'a' ≤ char ∧ char ≤ 'f' then some (char.toNat - 87)
  else if 'A' ≤ char ∧ char ≤ 'F' then some (char.toNat - 55)
  else none

/-- The number of four hexadecimal digits. -/
def hexEscape? (a b c d : Char) : Option Nat :=
  match hexDigit? a, hexDigit? b, hexDigit? c, hexDigit? d with
  | some a, some b, some c, some d => some (((a * 16 + b) * 16 + c) * 16 + d)
  | _, _, _, _ => none

/-- The character that stands behind a backslash for another. -/
def shortEscape? : Char → Option Char
  | '"' => some '"'
  | '\\' => some '\\'
  | '/' => some '/'
  | 'b' => some '\x08'
  | 'f' => some '\x0c'
  | 'n' => some '\n'
  | 'r' => some '\r'
  | 't' => some '\t'
  | _ => none

/-- The 16-bit units of a string up to its closing quote, and what follows it. Characters beyond the
escapes count as one unit each. -/
def readUnits : List Char → Option (List Nat × List Char)
  | '"' :: rest => some ([], rest)
  | '\\' :: 'u' :: a :: b :: c :: d :: rest =>
      match hexEscape? a b c d, readUnits rest with
      | some unit, some (units, rest) => some (unit :: units, rest)
      | _, _ => none
  | '\\' :: char :: rest =>
      match shortEscape? char, readUnits rest with
      | some char, some (units, rest) => some (char.toNat :: units, rest)
      | _, _ => none
  | char :: rest =>
      if char.toNat < 0x20 ∨ char = '\\' then none
      else (readUnits rest).map fun (units, rest) => (char.toNat :: units, rest)
  | [] => none

/-- The characters of units, if every surrogate is half of a pair. -/
def joinUnits : List Nat → Option (List Char)
  | [] => some []
  | high :: low :: rest =>
      if 0xD800 ≤ high ∧ high < 0xDC00 then
        if 0xDC00 ≤ low ∧ low < 0xE000 then
          (joinUnits rest).map
            (Char.ofNat (0x10000 + (high - 0xD800) * 0x400 + (low - 0xDC00)) :: ·)
        else none
      else if 0xDC00 ≤ high ∧ high < 0xE000 then none
      else (joinUnits (low :: rest)).map (Char.ofNat high :: ·)
  | [unit] => if 0xD800 ≤ unit ∧ unit < 0xE000 then none else some [Char.ofNat unit]

/-- A string behind its opening quote. -/
def readString (input : List Char) : Option (Json × List Char) :=
  (readUnits input).map fun (units, rest) =>
    (match joinUnits units with
      | some chars => .text (String.ofList chars)
      | none => .brokenText, rest)

/-- Drops the digits at the front, of which there has to be at least one. -/
def skipDigits (input : List Char) : Option (List Char) :=
  match input with
  | char :: rest => if isDigit char then some (rest.dropWhile isDigit) else none
  | [] => none

/-- The digits before a fraction or an exponent: a zero alone, or digits that do not start with
one. -/
def readWhole : List Char → Option (Nat × List Char)
  | '0' :: rest =>
      match rest with
      | char :: _ => if isDigit char then none else some (0, rest)
      | [] => some (0, rest)
  | input =>
      (skipDigits input).map fun rest =>
        ((input.takeWhile isDigit).foldl (fun number char => number * 10 + (char.toNat - 48)) 0,
          rest)

/-- Drops an exponent behind its letter. -/
def skipExponent : List Char → Option (List Char)
  | '+' :: rest => skipDigits rest
  | '-' :: rest => skipDigits rest
  | input => skipDigits input

/-- What follows a fraction and an exponent, and whether there was one of them. -/
def skipFraction (input : List Char) : Option (Bool × List Char) :=
  let afterPoint := match input with
    | '.' :: rest => (skipDigits rest).map (true, ·)
    | _ => some (false, input)
  match afterPoint with
  | none => none
  | some (point, rest) =>
      match rest with
      | 'e' :: rest => (skipExponent rest).map (true, ·)
      | 'E' :: rest => (skipExponent rest).map (true, ·)
      | _ => some (point, rest)

/-- A number without its sign. -/
def readNumber (input : List Char) : Option (Json × List Char) :=
  match readWhole input with
  | none => none
  | some (whole, rest) =>
      (skipFraction rest).map fun (fraction, rest) =>
        (if fraction then .otherNumber else .natural whole, rest)

/-- Removes the given characters from the front. -/
def expect (word : List Char) (input : List Char) : Option (List Char) :=
  if word.isPrefixOf input then some (input.drop word.length) else none

mutual

/-- A value, with blanks before it. The first argument bounds the depth. -/
def readValue : Nat → List Char → Option (Json × List Char)
  | 0, _ => none
  | depth + 1, input =>
      match skipBlanks input with
      | '"' :: rest => readString rest
      | '[' :: rest =>
          match skipBlanks rest with
          | ']' :: rest => some (.array [], rest)
          | _ => (readElements depth rest).map fun (elements, rest) => (.array elements, rest)
      | '\x7b' :: rest =>
          match skipBlanks rest with
          | '\x7d' :: rest => some (.object [], rest)
          | _ => (readMembers depth rest).map fun (members, rest) => (.object members, rest)
      | '-' :: rest => (readNumber rest).map fun (_, rest) => (.otherNumber, rest)
      | 'n' :: rest => (expect ['u', 'l', 'l'] rest).map (.null, ·)
      | 't' :: rest => (expect ['r', 'u', 'e'] rest).map (.bool true, ·)
      | 'f' :: rest => (expect ['a', 'l', 's', 'e'] rest).map (.bool false, ·)
      | rest => readNumber rest

/-- The elements of an array up to its closing bracket. -/
def readElements : Nat → List Char → Option (List Json × List Char)
  | 0, _ => none
  | depth + 1, input =>
      match readValue depth input with
      | none => none
      | some (element, rest) =>
          match skipBlanks rest with
          | ',' :: rest =>
              (readElements depth rest).map fun (elements, rest) => (element :: elements, rest)
          | ']' :: rest => some ([element], rest)
          | _ => none

/-- The members of an object up to its closing brace. -/
def readMembers : Nat → List Char → Option (List (Json × Json) × List Char)
  | 0, _ => none
  | depth + 1, input =>
      match skipBlanks input with
      | '"' :: rest =>
          match readString rest with
          | none => none
          | some (key, rest) =>
              match skipBlanks rest with
              | ':' :: rest =>
                  match readValue depth rest with
                  | none => none
                  | some (value, rest) =>
                      match skipBlanks rest with
                      | ',' :: rest =>
                          (readMembers depth rest).map fun (members, rest) =>
                            ((key, value) :: members, rest)
                      | '\x7d' :: rest => some ([(key, value)], rest)
                      | _ => none
              | _ => none
      | _ => none

end

/-- The value that a text stands for. Every step into the text takes up a character of it, so that
its length bounds the depth. -/
def ofText? (input : String) : Option Json :=
  let chars := input.toList
  match readValue (2 * chars.length + 2) chars with
  | some (value, rest) => if (skipBlanks rest).isEmpty then some value else none
  | none => none

end Json

end IrcSasl.Config
