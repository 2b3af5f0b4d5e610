import Std.Data.HashMap

set_option autoImplicit false

/-!
# Tables of character data

Character properties are kept as text in the manner of the Unicode data files: rows of hexadecimal
numbers, with blanks between the numbers of a row and a comma between rows. A table of ranges has
rows of two numbers, the first and the last code point, or of one number if they are the same.
-/

namespace IrcSasl.Unicode

/-- How far a table was read. Rows and numbers are kept in reverse order. -/
structure RowReader where
  /-- The rows that are complete. -/
  rows : List (List Nat) := []
  /-- The numbers of the open row. -/
  row : List Nat := []
  /-- The open number. -/
  number : Option Nat := none

namespace RowReader

/-- Ends the open number, if there is one. -/
def endNumber (reader : RowReader) : RowReader :=
  match reader.number with
  | some number => { reader with row := number :: reader.row, number := none }
  | none => reader

/-- Ends the open row. -/
def endRow (reader : RowReader) : RowReader :=
  let reader := reader.endNumber
  { reader with rows := reader.row.reverse :: reader.rows, row := [] }

/-- The value of a hexadecimal digit, for digits and capital letters. -/
def digit (char : Char) : Nat :=
  if char.toNat < 65 then char.toNat - 48 else char.toNat - 55

/-- Reads one character. -/
def step (reader : RowReader) (char : Char) : RowReader :=
  if char = ',' then reader.endRow
  else if char = ' ' || char = '\n' then reader.endNumber
  else { reader with number := some (reader.number.getD 0 * 16 + digit char) }

end RowReader

/-- The rows of a table. -/
def readRows (text : String) : List (List Nat) :=
  (text.foldl RowReader.step {}).endRow.rows.reverse

/-- A set of characters, as ranges of code points. -/
structure Ranges where
  /-- The first and the last code point of each range. -/
  bounds : List (Nat × Nat)

namespace Ranges

/-- The ranges of a table. -/
def read (text : String) : Ranges where
  bounds := (readRows text).filterMap fun
    | [first, last] => some (first, last)
    | [only] => some (only, only)
    | _ => none

/-- Whether a character lies in one of the ranges. -/
def contains (ranges : Ranges) (char : Char) : Bool :=
  ranges.bounds.any fun (first, last) => first ≤ char.toNat && char.toNat ≤ last

end Ranges

end IrcSasl.Unicode
