import IrcSasl.Proofs.Bytes

set_option autoImplicit false

/-!
# Canonical base64

A byte string has one base64 text, and no other text stands for it (`decode?_eq_some_iff`): a group
of symbols is read as the bytes whose group it is, and the bits that the last symbol of a shorter
group has left over must be those that are written.
-/

namespace IrcSasl.Base64

/-- What has a value is the symbol of that value. -/
theorem symbol_of_value? {byte : UInt8} {value : Nat} (valued : value? byte = some value) :
    value < 64 ∧ symbol value = byte := by
  have restore {code : Nat} (same : code = byte.toNat) : UInt8.ofNat code = byte := by
    rw [same, UInt8.ofNat_toNat]
  unfold value? at valued
  simp only at valued
  split at valued
  · cases valued
    refine ⟨by omega, ?_⟩
    rw [symbol, if_pos (by omega)]
    exact restore (by omega)
  · split at valued
    · cases valued
      refine ⟨by omega, ?_⟩
      rw [symbol, if_neg (by omega), if_pos (by omega)]
      exact restore (by omega)
    · split at valued
      · cases valued
        refine ⟨by omega, ?_⟩
        rw [symbol, if_neg (by omega), if_neg (by omega), if_pos (by omega)]
        exact restore (by omega)
      · split at valued
        · next code =>
            cases valued
            exact ⟨by decide, restore code.symm⟩
        · split at valued
          · next code =>
              cases valued
              exact ⟨by decide, restore code.symm⟩
          · cases valued

/-- The bytes of a full group are those whose group it is. -/
theorem encode_of_fullGroup? {w x y z : UInt8} {group : Bytes}
    (read : fullGroup? w x y z = some group) :
    ∃ a b c, group = [a, b, c] ∧
      ∀ rest, encode (a :: b :: c :: rest) = w :: x :: y :: z :: encode rest := by
  unfold fullGroup? at read
  split at read
  · next p q r s first second third fourth =>
      cases read
      obtain ⟨smallP, rfl⟩ := symbol_of_value? first
      obtain ⟨smallQ, rfl⟩ := symbol_of_value? second
      obtain ⟨smallR, rfl⟩ := symbol_of_value? third
      obtain ⟨smallS, rfl⟩ := symbol_of_value? fourth
      have recombine : (p * 4 + q / 16) % 2 ^ 8 / 4 = p ∧
          (p * 4 + q / 16) % 2 ^ 8 % 4 * 16 + (q % 16 * 16 + r / 4) % 2 ^ 8 / 16 = q ∧
          (q % 16 * 16 + r / 4) % 2 ^ 8 % 16 * 4 + (r % 4 * 64 + s) % 2 ^ 8 / 64 = r ∧
          (r % 4 * 64 + s) % 2 ^ 8 % 64 = s := by
        omega
      refine ⟨_, _, _, rfl, fun rest => ?_⟩
      simp only [encode, UInt8.toNat_ofNat', recombine]
  · cases read

/-- The bytes of the last group are those whose group it is, since it has no bits left over. -/
theorem encode_of_lastGroup? {w x y z : UInt8} {group : Bytes}
    (read : lastGroup? w x y z = some group) : encode group = [w, x, y, z] := by
  unfold lastGroup? at read
  split at read
  · next fill =>
      split at read
      · next fillToo =>
          split at read
          · next p q first second =>
              obtain ⟨smallP, rfl⟩ := symbol_of_value? first
              obtain ⟨smallQ, rfl⟩ := symbol_of_value? second
              split at read
              · next spare =>
                  cases read
                  have recombine : (p * 4 + q / 16) % 2 ^ 8 / 4 = p ∧
                      (p * 4 + q / 16) % 2 ^ 8 % 4 * 16 = q := by
                    omega
                  simp only [encode, UInt8.toNat_ofNat', recombine, fill, fillToo]
              · cases read
          · cases read
      · split at read
        · next p q r first second third =>
            obtain ⟨smallP, rfl⟩ := symbol_of_value? first
            obtain ⟨smallQ, rfl⟩ := symbol_of_value? second
            obtain ⟨smallR, rfl⟩ := symbol_of_value? third
            split at read
            · next spare =>
                cases read
                have recombine : (p * 4 + q / 16) % 2 ^ 8 / 4 = p ∧
                    (p * 4 + q / 16) % 2 ^ 8 % 4 * 16 + (q % 16 * 16 + r / 4) % 2 ^ 8 / 16 = q ∧
                    (q % 16 * 16 + r / 4) % 2 ^ 8 % 16 * 4 = r := by
                  omega
                simp only [encode, UInt8.toNat_ofNat', recombine, fill]
            · cases read
        · cases read
  · obtain ⟨a, b, c, rfl, spelled⟩ := encode_of_fullGroup? read
    exact spelled []

/-- A text is read as the bytes whose base64 it is, and every other text is refused. -/
theorem decode?_eq_some_iff {text bytes : Bytes} :
    decode? text = some bytes ↔ text = encode bytes := by
  constructor
  · intro read
    fun_induction decode? text generalizing bytes with
    | case1 =>
        cases read
        rfl
    | case2 w x y z => exact (encode_of_lastGroup? read).symm
    | case3 w x y z rest _ group bytes tail first ih =>
        cases read
        obtain ⟨a, b, c, rfl, spelled⟩ := encode_of_fullGroup? first
        rw [ih tail]
        exact (spelled bytes).symm
    | case4 => cases read
    | case5 => cases read
  · rintro rfl
    exact decode?_encode bytes

/-- The same of text: what is read was written exactly so. -/
theorem decode?_ofString_eq_some_iff {text : String} {bytes : Bytes} :
    decode? (Bytes.ofString text) = some bytes ↔ text = encodeText bytes := by
  rw [decode?_eq_some_iff, ← ofString_encodeText, Bytes.ofString_inj]

end IrcSasl.Base64
