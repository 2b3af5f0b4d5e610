import IrcSasl.Proofs.Base64
import IrcSasl.Proofs.Credential

set_option autoImplicit false

/-!
# Stored hashes written again

Whatever is read from a stored hash is written in the native layout and read back as it was. A hash
of the native layout is written again as it stands, if its numerals are plain: a number has many
numerals, with a plus sign or zeros in front, while a byte string has one base64 text
(`stored_round_trip`).
-/

namespace IrcSasl.Credential

/-! ## Plain numerals -/

/-- A numeral that starts neither with a plus sign nor with a zero. -/
def Plain (numeral : List Char) : Prop := numeral.head? ≠ some '+' ∧ numeral.head? ≠ some '0'

/-- What is read as a digit is the digit of its value. -/
theorem digitChar_of_digit? {char : Char} {value : Nat} (read : digit? char = some value) :
    value < 10 ∧ Nat.digitChar value = char ∧ (value = 0 → char = '0') := by
  have spelled : ∀ digit < 10, Nat.digitChar digit = Char.ofNat (digit + 48) := by decide
  unfold digit? at read
  split at read
  · next bounds =>
      cases read
      have least : 48 ≤ char.toNat := bounds.1
      have most : char.toNat ≤ 57 := bounds.2
      have zero : '0'.toNat = 48 := rfl
      have digit : Nat.digitChar (char.toNat - 48) = char := by
        rw [spelled _ (by omega), Nat.sub_add_cancel least, Char.ofNat_toNat]
      refine ⟨by omega, digit, ?_⟩
      intro none
      rw [zero] at none
      rw [← digit, none]
      rfl
  · cases read

/-- The digits of a positive number with digits behind it are these digits behind its own. -/
theorem toDigits_of_readDigits {digits : List Char} {number value : Nat} (positive : 0 < number)
    (read : readDigits number digits = some value) :
    Nat.toDigits 10 value = Nat.toDigits 10 number ++ digits := by
  induction digits generalizing number with
  | nil =>
      cases read
      exact (List.append_nil _).symm
  | cons char rest ih =>
      rw [readDigits] at read
      split at read
      · next digit known =>
          obtain ⟨small, own, -⟩ := digitChar_of_digit? known
          have behind : Nat.toDigits 10 (number * 10 + digit) =
              Nat.toDigits 10 number ++ [char] := by
            rw [Nat.mul_comm, ← Nat.toDigits_append_toDigits (by decide) positive small,
              Nat.toDigits_of_lt_base small, own]
          rw [ih (by omega) read, behind, List.append_assoc, List.singleton_append]
      · cases read

/-- A number is written as the plain numeral that it was read from. -/
theorem toString_of_readNumeral {numeral : List Char} {number : UInt32}
    (read : readNumeral numeral = some number) (plain : Plain numeral) :
    (toString number).toList = numeral := by
  cases readNumeral_eq_some_iff.mp read with
  | signed decimal => exact absurd rfl plain.1
  | unsigned decimal =>
      have counted := readDigits_eq decimal.decimal 0
      rw [decimal.value] at counted
      cases numeral with
      | nil => exact absurd rfl decimal.nonempty
      | cons first rest =>
          simp only [Plain, List.head?_cons, ne_eq, Option.some.injEq] at plain
          rw [readDigits] at counted
          split at counted
          · next digit known =>
              obtain ⟨low, own, zero⟩ := digitChar_of_digit? known
              rw [Nat.zero_mul, Nat.zero_add] at counted
              have positive : 0 < digit := Nat.pos_of_ne_zero fun none => plain.2 (zero none)
              rw [toList_toString, toDigits_of_readDigits positive counted,
                Nat.toDigits_of_lt_base low, own]
              rfl
          · cases counted

/-! ## Base64 fields -/

theorem field_of_readKey {digest : Digest} {field : List Char} {key : Bytes}
    (read : readKey digest field = some key) : (Base64.encodeText key).toList = field := by
  have decoded := (Option.filter_eq_some_iff.mp read).1
  rw [← Base64.decode?_ofString_eq_some_iff.mp decoded, String.toList_ofList]

/-! ## The native layout -/

/-- The numerals of a stored hash: the second and the third of the fields that dollar signs
separate, behind the empty text in front of the first dollar sign. -/
def numerals (hash : String) : List (List Char) := ((Fields.split '$' hash.toList).drop 2).take 2

/-- The hash in the native layout that a stored hash is upgraded to. -/
def upgrade? (hash : String) : Option String :=
  (ofHash? hash).bind fun credential => credential.encode.toOption

theorem numerals_eq {hash : String} {fields : List (List Char)} (nonempty : fields ≠ [])
    (spelled : hash.toList = marker ++ Fields.join '$' fields)
    (clean : ∀ field ∈ fields, '$' ∉ field) : numerals hash = fields.take 2 := by
  have split : Fields.split '$' hash.toList = [] :: ['z'] :: fields := by
    rw [spelled, marker]
    simp [Fields.split, Fields.split_join '$' nonempty clean]
  rw [numerals, split]
  rfl

theorem prfId_of_ofPrfId? {id : UInt32} {digest : Digest}
    (known : Digest.ofPrfId? id = some digest) : digest.prfId = id := by
  have same := List.find?_some known
  exact of_decide_eq_true same

/-- A hash of the native layout whose numerals are plain is written again as it stands. -/
theorem encode_of_plain {hash : String} {credential : Credential}
    (read : ofHash? hash = some credential) (native : credential.native = true)
    (plain : ∀ numeral ∈ numerals hash, Plain numeral) : credential.encode = .ok hash := by
  rw [(storable_of_ofHash? read).encode_eq]
  obtain ⟨fields, spelled, clean, spells⟩ := spells_of_ofHash? read
  cases spells with
  | legacy => cases native
  | @native prf iterations salt server stored digest count serverKey storedKey heading readServer
      readStored =>
      rw [numerals_eq (by simp) spelled clean] at plain
      obtain ⟨id, numeral, known⟩ := Option.bind_eq_some_iff.mp heading.prf
      have prf : (toString digest.prfId).toList = prf := by
        rw [prfId_of_ofPrfId? known]
        exact toString_of_readNumeral numeral (plain prf (by simp))
      have iterations : (toString count).toList = iterations :=
        toString_of_readNumeral heading.iterations (plain iterations (by simp))
      refine congrArg Except.ok (String.toList_inj.mp ?_)
      rw [hashText, String.toList_ofList, spelled]
      simp only [List.map_cons, List.map_nil, prf, iterations, String.toList_ofList,
        field_of_readKey readServer, field_of_readKey readStored]

/-- The layout is not part of what is written. -/
theorem encode_native (credential : Credential) :
    { credential with native := true }.encode = credential.encode := rfl

/-- What a stored hash is upgraded to needs no upgrade. -/
theorem upgrade?_of_ofHash? {hash : String} {credential : Credential}
    (read : ofHash? hash = some credential) :
    ∃ upgraded, upgrade? hash = some upgraded ∧ upgrade? upgraded = some upgraded := by
  obtain ⟨upgraded, encoded, reread⟩ := (storable_of_ofHash? read).upgrade
  refine ⟨upgraded, ?_, ?_⟩
  · rw [upgrade?, read, Option.bind_some, encoded]
    rfl
  · rw [upgrade?, reread, Option.bind_some, encode_native, encoded]
    rfl

/-! ## The round trip -/

/-- A credential with an iteration count, keys of its digest's length and the base64 text of a salt
can be written, and is read back but for its layout. So is whatever is read from a stored hash,
which is therefore upgraded once and for all; and if the hash is of the native layout already and
its numerals are plain, it is written as it was. -/
theorem stored_round_trip :
    (∀ (credential : Credential) (salt : Bytes), credential.iterations ≠ 0 →
      credential.serverKey.length = credential.digest.outputLength →
      credential.storedKey.length = credential.digest.outputLength →
      salt ≠ [] → credential.salt64 = Base64.encodeText salt →
      ∃ hash, credential.encode = .ok hash ∧
        ofHash? hash = some { credential with native := true }) ∧
    (∀ hash credential, ofHash? hash = some credential →
      ∃ upgraded, credential.encode = .ok upgraded ∧
        ofHash? upgraded = some { credential with native := true }) ∧
    (∀ hash, (upgrade? hash).bind upgrade? = upgrade? hash) ∧
    ∀ hash credential, ofHash? hash = some credential → credential.native = true →
      (∀ numeral ∈ numerals hash, Plain numeral) → credential.encode = .ok hash := by
  refine ⟨?_, ?_, ?_, fun _ _ => encode_of_plain⟩
  · intro credential salt positive serverKey storedKey salted spelled
    have salted : isSalt credential.salt64.toList = true := by
      rw [spelled]
      exact isSalt_encodeText salted
    have unbroken : '$' ∉ credential.salt64.toList := by
      rw [spelled]
      exact Base64.dollar_not_mem_encodeText salt
    exact Storable.upgrade ⟨positive, salted, unbroken, serverKey, storedKey⟩
  · exact fun _ _ read => (storable_of_ofHash? read).upgrade
  · intro hash
    cases read : ofHash? hash with
    | none => rw [upgrade?, read]; rfl
    | some credential =>
        obtain ⟨upgraded, first, second⟩ := upgrade?_of_ofHash? read
        rw [first, Option.bind_some, second]

/-- A hash of the native layout with plain numerals. -/
def plainHash : String :=
  "$z$64$4096$c2FsdHNhbHQ=$AAAAAAAAAAAAAAAAAAAAAAAAAAA=$AAAAAAAAAAAAAAAAAAAAAAAAAAA="

/-- The same hash with a plus sign and a zero too many. -/
def paddedHash : String :=
  "$z$+64$04096$c2FsdHNhbHQ=$AAAAAAAAAAAAAAAAAAAAAAAAAAA=$AAAAAAAAAAAAAAAAAAAAAAAAAAA="

/-- The numerals of the one hash become those of the other, which stay as they are. -/
theorem stored_round_trip_padded :
    upgrade? paddedHash = some plainHash ∧ upgrade? plainHash = some plainHash ∧
    ∃ credential, ofHash? plainHash = some credential ∧ credential.encode = .ok plainHash := by
  obtain ⟨-, -, idempotent, fixed⟩ := stored_round_trip
  obtain ⟨upgraded, read, native⟩ : upgrade? paddedHash = some plainHash ∧
      (ofHash? plainHash).isSome ∧
      ∀ credential ∈ ofHash? plainHash, credential.native = true := by
    decide +kernel
  have plain : ∀ numeral ∈ numerals plainHash, Plain numeral := by
    unfold Plain
    decide +kernel
  have again := idempotent paddedHash
  rw [upgraded, Option.bind_some] at again
  obtain ⟨credential, read⟩ := Option.isSome_iff_exists.mp read
  exact ⟨upgraded, again, credential, read,
    fixed plainHash credential read (native credential read) plain⟩

end IrcSasl.Credential
