import IrcSasl.Bytes

set_option autoImplicit false

/-!
# Base64

The standard alphabet with canonical padding: four symbols stand for three bytes, `=` fills up the
last group, and the bits that its last symbol has left over are zero. `decode?` reads exactly these
texts, and `decode` says in addition what is wrong with any other text. `decode?_encode` states that
what was written is read back.
-/

namespace IrcSasl.Base64

/-- What is wrong with a base64 text. Offsets count bytes from the start of the text. -/
inductive DecodeError where
  /-- A byte outside the alphabet, or padding where a symbol has to stand. -/
  | invalidByte (offset : Nat) (byte : UInt8)
  /-- The text ends after the first symbol of a group. -/
  | invalidLength
  /-- The last symbol has bits left over that are not zero. -/
  | invalidLastSymbol (offset : Nat) (symbol : UInt8)
  /-- The last group is neither full nor filled up. -/
  | invalidPadding
  deriving DecidableEq, Repr

/-- The wording of an error. -/
def DecodeError.message : DecodeError → String
  | .invalidByte offset byte => s!"Invalid byte {byte.toNat}, offset {offset}."
  | .invalidLength => "Encoded text cannot have a 6-bit remainder."
  | .invalidLastSymbol offset symbol => s!"Invalid last symbol {symbol.toNat}, offset {offset}."
  | .invalidPadding => "Invalid padding"

/-- The padding byte, `=`. -/
def pad : UInt8 := 61

/-- The symbol of a value below 64. -/
def symbol (value : Nat) : UInt8 :=
  if value < 26 then UInt8.ofNat (value + 65)
  else if value < 52 then UInt8.ofNat (value + 71)
  else if value < 62 then UInt8.ofNat (value - 4)
  else if value = 62 then 43
  else 47

/-- The value of a symbol. -/
def value? (byte : UInt8) : Option Nat :=
  let code := byte.toNat
  if 65 ≤ code ∧ code ≤ 90 then some (code - 65)
  else if 97 ≤ code ∧ code ≤ 122 then some (code - 71)
  else if 48 ≤ code ∧ code ≤ 57 then some (code + 4)
  else if code = 43 then some 62
  else if code = 47 then some 63
  else none

/-- Whether a byte is in the alphabet. -/
def isSymbol (byte : UInt8) : Bool := (value? byte).isSome

/-- The base64 text of a byte string. -/
def encode : Bytes → Bytes
  | [] => []
  | [a] => [symbol (a.toNat / 4), symbol (a.toNat % 4 * 16), pad, pad]
  | [a, b] =>
      [symbol (a.toNat / 4), symbol (a.toNat % 4 * 16 + b.toNat / 16),
       symbol (b.toNat % 16 * 4), pad]
  | a :: b :: c :: rest =>
      symbol (a.toNat / 4) :: symbol (a.toNat % 4 * 16 + b.toNat / 16) ::
        symbol (b.toNat % 16 * 4 + c.toNat / 64) :: symbol (c.toNat % 64) :: encode rest

/-- The base64 text of a byte string, as text. -/
def encodeText (bytes : Bytes) : String := Bytes.asciiText (encode bytes)

/-- The three bytes of a full group. -/
def fullGroup? (w x y z : UInt8) : Option Bytes :=
  match value? w, value? x, value? y, value? z with
  | some w, some x, some y, some z =>
      some [UInt8.ofNat (w * 4 + x / 16), UInt8.ofNat (x % 16 * 16 + y / 4),
        UInt8.ofNat (y % 4 * 64 + z)]
  | _, _, _, _ => none

/-- The bytes of the last group, which may be filled up. -/
def lastGroup? (w x y z : UInt8) : Option Bytes :=
  if z = pad then
    if y = pad then
      match value? w, value? x with
      | some w, some x => if x % 16 = 0 then some [UInt8.ofNat (w * 4 + x / 16)] else none
      | _, _ => none
    else
      match value? w, value? x, value? y with
      | some w, some x, some y =>
          if y % 4 = 0 then
            some [UInt8.ofNat (w * 4 + x / 16), UInt8.ofNat (x % 16 * 16 + y / 4)]
          else none
      | _, _, _ => none
  else fullGroup? w x y z

/-- The bytes that a text stands for, if it is canonical base64. -/
def decode? : Bytes → Option Bytes
  | [] => some []
  | [w, x, y, z] => lastGroup? w x y z
  | w :: x :: y :: z :: rest =>
      match fullGroup? w x y z, decode? rest with
      | some group, some bytes => some (group ++ bytes)
      | _, _ => none
  | _ => none

/-! ## What is wrong with a text -/

/-- The first byte outside the alphabet, with its offset. -/
def firstNonSymbol? (offset : Nat) : Bytes → Option (Nat × UInt8)
  | [] => none
  | byte :: rest =>
      if isSymbol byte then firstNonSymbol? (offset + 1) rest else some (offset, byte)

/-- How far the tail of a text was read. -/
structure TailScan where
  /-- The offset of the tail in the text. -/
  start : Nat
  /-- The bytes read. -/
  index : Nat := 0
  /-- The padding bytes among them. -/
  pads : Nat := 0
  /-- Where the first of these stood, counted from the start of the tail. -/
  firstPad : Nat := 0
  /-- The symbols among the bytes read. -/
  symbols : Nat := 0
  /-- The last of these. -/
  lastSymbol : UInt8 := 0

/-- The error of a tail whose symbols are not canonical: the first misplaced byte, else a group
that is not full, else the bits left over. -/
def TailScan.error (scan : TailScan) : Bytes → DecodeError
  | [] =>
      if (scan.pads + scan.symbols) % 4 ≠ 0 then .invalidPadding
      else .invalidLastSymbol (scan.start + scan.symbols - 1) scan.lastSymbol
  | byte :: rest =>
      if byte = pad then
        let first := if scan.pads > 0 then scan.firstPad else scan.index
        if scan.index % 4 < 2 then .invalidByte (scan.start + first) pad
        else
          { scan with index := scan.index + 1, pads := scan.pads + 1, firstPad := first }.error rest
      else if scan.pads > 0 then .invalidByte (scan.start + scan.firstPad) pad
      else if !isSymbol byte then .invalidByte (scan.start + scan.index) byte
      else
        { scan with index := scan.index + 1, symbols := scan.symbols + 1,
                    lastSymbol := byte }.error rest

/-- What is wrong with a text that is not canonical base64. A text that ends after the first symbol
of a group is told by its length alone. In any other text the part before the last one to eight
bytes is looked through for bytes outside the alphabet before the rest is. -/
def diagnose (text : Bytes) : DecodeError :=
  if text.length % 4 = 1 then
    match text.getLast? with
    | some last =>
        if last = pad || isSymbol last then .invalidLength
        else .invalidByte (text.length - 1) last
    | none => .invalidLength
  else
    let start := 8 * ((text.length - 1) / 8)
    match firstNonSymbol? 0 (text.take start) with
    | some (offset, byte) => .invalidByte offset byte
    | none => ({ start } : TailScan).error (text.drop start)

/-- The bytes that a text stands for, or what is wrong with it. -/
def decode (text : Bytes) : Except DecodeError Bytes :=
  match decode? text with
  | some bytes => .ok bytes
  | none => .error (diagnose text)

/-! ## Reading what was written -/

theorem value?_symbol {value : Nat} (small : value < 64) : value? (symbol value) = some value := by
  have all : ∀ v : Fin 64, value? (symbol v.val) = some v.val := by decide
  exact all ⟨value, small⟩

theorem symbol_ne_pad {value : Nat} (small : value < 64) : symbol value ≠ pad := by
  have all : ∀ v : Fin 64, symbol v.val ≠ pad := by decide
  exact all ⟨value, small⟩

theorem fullGroup?_symbols (a b c : UInt8) :
    fullGroup? (symbol (a.toNat / 4)) (symbol (a.toNat % 4 * 16 + b.toNat / 16))
      (symbol (b.toNat % 16 * 4 + c.toNat / 64)) (symbol (c.toNat % 64)) = some [a, b, c] := by
  have ha := a.toNat_lt
  have hb := b.toNat_lt
  have hc := c.toNat_lt
  have recombine : a.toNat / 4 * 4 + (a.toNat % 4 * 16 + b.toNat / 16) / 16 = a.toNat ∧
      (a.toNat % 4 * 16 + b.toNat / 16) % 16 * 16 + (b.toNat % 16 * 4 + c.toNat / 64) / 4 =
        b.toNat ∧
      (b.toNat % 16 * 4 + c.toNat / 64) % 4 * 64 + c.toNat % 64 = c.toNat := by
    omega
  rw [fullGroup?, value?_symbol (by omega), value?_symbol (by omega), value?_symbol (by omega),
    value?_symbol (by omega)]
  simp only [recombine, UInt8.ofNat_toNat]

/-- What was written is read back. -/
@[simp] theorem decode?_encode (bytes : Bytes) : decode? (encode bytes) = some bytes := by
  fun_induction encode bytes with
  | case1 => rfl
  | case2 a =>
      have ha := a.toNat_lt
      have recombine : a.toNat / 4 * 4 + a.toNat % 4 * 16 / 16 = a.toNat := by omega
      simp only [decode?, lastGroup?, if_true]
      rw [value?_symbol (by omega), value?_symbol (by omega)]
      simp only [recombine, Nat.mul_mod_left, UInt8.ofNat_toNat, if_true]
  | case3 a b =>
      have ha := a.toNat_lt
      have hb := b.toNat_lt
      have recombine : a.toNat / 4 * 4 + (a.toNat % 4 * 16 + b.toNat / 16) / 16 = a.toNat ∧
          (a.toNat % 4 * 16 + b.toNat / 16) % 16 * 16 + b.toNat % 16 * 4 / 4 = b.toNat := by
        omega
      simp only [decode?, lastGroup?, if_true, if_neg (symbol_ne_pad (by omega :
        b.toNat % 16 * 4 < 64))]
      have spare : b.toNat % 16 * 4 % 4 = 0 := by omega
      rw [value?_symbol (by omega), value?_symbol (by omega), value?_symbol (by omega)]
      simp only [recombine, spare, UInt8.ofNat_toNat, if_true]
  | case4 a b c rest ih =>
      have hc := c.toNat_lt
      cases written : encode rest with
      | nil =>
          have empty : rest = [] := by
            match rest with
            | [] => rfl
            | [_] | [_, _] | _ :: _ :: _ :: _ => simp [encode] at written
          subst empty
          simp [decode?, lastGroup?, symbol_ne_pad (by omega : c.toNat % 64 < 64),
            fullGroup?_symbols]
      | cons next more =>
          rw [written] at ih
          simp [decode?, fullGroup?_symbols, ih]

@[simp] theorem decode_encode (bytes : Bytes) : decode (encode bytes) = .ok bytes := by
  simp [decode]

end IrcSasl.Base64
