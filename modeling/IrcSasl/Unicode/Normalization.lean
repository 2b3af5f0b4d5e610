import IrcSasl.Unicode.CombiningClass
import IrcSasl.Unicode.Composition
import IrcSasl.Unicode.Decomposition

set_option autoImplicit false

/-!
# Normalization form KC

Every character is replaced by its compatibility decomposition, the marks after each base character
are put into canonical order, and what canonical composition joins is joined again. Hangul syllables
are taken apart and put together by arithmetic.
-/

namespace IrcSasl.Unicode

namespace Hangul

/-- The first syllable. -/
def syllableBase : Nat := 0xAC00

/-- The first leading consonant. -/
def leadBase : Nat := 0x1100

/-- The first vowel. -/
def vowelBase : Nat := 0x1161

/-- The code point before the first trailing consonant. -/
def tailBase : Nat := 0x11A7

def leadCount : Nat := 19

def vowelCount : Nat := 21

/-- The number of trailing consonants, counting none as one. -/
def tailCount : Nat := 28

def syllableCount : Nat := leadCount * vowelCount * tailCount

/-- The letters of a syllable, if the character is one. -/
def letters? (char : Char) : Option (List Char) :=
  let code := char.toNat
  if syllableBase ≤ code ∧ code < syllableBase + syllableCount then
    let index := code - syllableBase
    let lead := Char.ofNat (leadBase + index / (vowelCount * tailCount))
    let vowel := Char.ofNat (vowelBase + index / tailCount % vowelCount)
    if index % tailCount = 0 then some [lead, vowel]
    else some [lead, vowel, Char.ofNat (tailBase + index % tailCount)]
  else none

/-- Joins a leading consonant with a vowel, or an open syllable with a trailing consonant. -/
def join? (first second : Char) : Option Char :=
  let a := first.toNat
  let b := second.toNat
  if leadBase ≤ a ∧ a < leadBase + leadCount ∧ vowelBase ≤ b ∧ b < vowelBase + vowelCount then
    some (Char.ofNat (syllableBase + ((a - leadBase) * vowelCount + (b - vowelBase)) * tailCount))
  else if syllableBase ≤ a ∧ a < syllableBase + syllableCount ∧
      (a - syllableBase) % tailCount = 0 ∧ tailBase < b ∧ b < tailBase + tailCount then
    some (Char.ofNat (a + (b - tailBase)))
  else none

end Hangul

/-- The compatibility decomposition of a character. -/
def decompose (char : Char) : List Char := (Hangul.letters? char).getD (decomposition char)

/-- Puts marks into canonical order: by class, and those of one class as they come. -/
def sortMarks (marks : List Char) : List Char :=
  marks.mergeSort fun first second => combiningClass first ≤ combiningClass second

/-- Puts a character in front of marks and the ordered text behind them. A base character orders the
marks. -/
def takeBefore (char : Char) : List Char × List Char → List Char × List Char
  | (marks, ordered) =>
      if combiningClass char = 0 then ([], char :: (sortMarks marks ++ ordered))
      else (char :: marks, ordered)

/-- Puts the marks after each base character into canonical order. -/
def orderMarks (text : List Char) : List Char :=
  let (marks, ordered) := text.foldr takeBefore ([], [])
  sortMarks marks ++ ordered

/-- What two characters are joined into. -/
def joined? (first second : Char) : Option Char :=
  match Hangul.join? first second with
  | some syllable => some syllable
  | none => composition? first second

/-- Text that is being composed. -/
structure Composer where
  /-- The finished text, in reverse order. -/
  done : List Char := []
  /-- The base character that later ones may be joined to. -/
  base : Option Char := none
  /-- The marks that stay apart from it, in reverse order. -/
  marks : List Char := []

namespace Composer

/-- The text so far, in reverse order. -/
def flush (composer : Composer) : List Char :=
  composer.marks ++ composer.base.toList ++ composer.done

/-- Whether a mark in between keeps a character from the base. -/
def blocks (composer : Composer) (char : Char) : Bool :=
  match composer.marks with
  | [] => false
  | last :: _ => combiningClass char ≤ combiningClass last

/-- Keeps a character apart from the base: a mark joins the marks, any other character is the new
base. -/
def keep (composer : Composer) (char : Char) : Composer :=
  if combiningClass char = 0 then { done := composer.flush, base := some char }
  else
    match composer.base with
    | some _ => { composer with marks := char :: composer.marks }
    | none => { composer with done := char :: composer.done }

/-- Adds one character. -/
def add (composer : Composer) (char : Char) : Composer :=
  match composer.base with
  | none => composer.keep char
  | some base =>
      if composer.blocks char then composer.keep char
      else
        match joined? base char with
        | some whole => { composer with base := some whole }
        | none => composer.keep char

end Composer

/-- Joins what canonical composition joins, in ordered text. -/
def compose (text : List Char) : List Char :=
  (text.foldl Composer.add {}).flush.reverse

/-- Normalization form KC of a text. -/
def normalizeKC (text : List Char) : List Char :=
  compose (orderMarks (text.flatMap decompose))

end IrcSasl.Unicode
