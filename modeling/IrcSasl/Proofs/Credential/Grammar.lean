import IrcSasl.Proofs.Credential.RoundTrip

set_option autoImplicit false

/-!
# The grammar of stored hashes

A text is read as a stored hash exactly if it is written by one of two rules, which differ in the
number of their fields alone, and it is read as the credential of that rule (`ofHash?_iff_written`).
Numerals are the lenient part of the grammar: they may have zeros and one plus sign in front. Every
other field is the one base64 text of its bytes.
-/

namespace IrcSasl

/-! ## Joined fields -/

namespace Fields

variable {α : Type} {separator : α}

theorem join_cons_next (field next : List α) (fields : List (List α)) :
    join separator (field :: next :: fields) =
      field ++ separator :: join separator (next :: fields) :=
  rfl

/-- Clean fields are joined by one separator less than there are fields. -/
theorem count_join [DecidableEq α] {fields : List (List α)} (nonempty : fields ≠ [])
    (clean : ∀ field ∈ fields, separator ∉ field) :
    (join separator fields).count separator + 1 = fields.length := by
  induction fields with
  | nil => exact absurd rfl nonempty
  | cons field fields ih =>
      rw [List.forall_mem_cons] at clean
      have own : field.count separator = 0 := List.count_eq_zero.mpr clean.1
      cases fields with
      | nil => rw [join, own, List.length_singleton]
      | cons next fields =>
          rw [join_cons_next, List.count_append, own, List.count_cons_self, List.length_cons,
            ← ih (List.cons_ne_nil next fields) clean.2, Nat.zero_add]

/-- Joined fields end as the last of them does. -/
theorem getLast?_join {fields : List (List α)} {last : List α}
    (ends : fields.getLast? = some last) (filled : last ≠ []) :
    (join separator fields).getLast? = last.getLast? := by
  induction fields with
  | nil => cases ends
  | cons field fields ih =>
      cases fields with
      | nil =>
          cases ends
          rfl
      | cons next fields =>
          rw [List.getLast?_cons_cons] at ends
          rw [join_cons_next, List.getLast?_append, List.getLast?_cons, ih ends,
            List.getLast?_eq_some_getLast filled]
          rfl

end Fields

namespace Credential

/-! ## Fields -/

theorem Numeral.dollar_not_mem {number : UInt32} {numeral : List Char}
    (spelled : Numeral number numeral) : '$' ∉ numeral := by
  have digits {digits : List Char} (decimal : Decimal number digits) : '$' ∉ digits := by
    intro member
    exact absurd (decimal.decimal '$' member) (by decide)
  cases spelled with
  | unsigned decimal => exact digits decimal
  | signed decimal =>
      rw [List.mem_cons, not_or]
      exact ⟨by decide, digits decimal⟩

/-- A key is read from its base64 text only, and only if it has the length of the digest. -/
theorem readKey_eq_some_iff {digest : Digest} {field : List Char} {key : Bytes} :
    readKey digest field = some key ↔
      field = (Base64.encodeText key).toList ∧ key.length = digest.outputLength := by
  constructor
  · exact fun read => ⟨(field_of_readKey read).symm, length_of_readKey read⟩
  · rintro ⟨rfl, width⟩
    exact readKey_encodeText width

/-- The base64 text of a salt is that of some bytes. -/
theorem isSalt_iff {field : List Char} :
    isSalt field = true ↔ ∃ salt ≠ [], field = (Base64.encodeText salt).toList := by
  constructor
  · intro salted
    obtain ⟨some, decodes⟩ := Bool.and_eq_true_iff.mp salted
    obtain ⟨salt, decoded⟩ := Option.isSome_iff_exists.mp decodes
    have spelled : field = (Base64.encodeText salt).toList := by
      rw [← Base64.decode?_ofString_eq_some_iff.mp decoded, String.toList_ofList]
    refine ⟨salt, ?_, spelled⟩
    rintro rfl
    rw [spelled] at some
    cases some
  · rintro ⟨salt, some, rfl⟩
    exact isSalt_encodeText some

/-! ## The two rules -/

/-- A digest, an iteration count and a salt, as numerals and bytes from which they are read. -/
structure Parameters (prf iterations : String) (salt : Bytes) (digest : Digest) (count : UInt32) :
    Prop where
  prf : Numeral digest.prfId prf.toList
  iterations : Numeral count iterations.toList
  positive : count ≠ 0
  salted : salt ≠ []

/-- A stored hash and the credential that it is the hash of. -/
inductive Written (hash : String) : Credential → Prop where
  /-- The legacy layout ends with a salted password, from which both keys are derived. -/
  | legacy {prf iterations : String} {salt saltedPassword : Bytes} {digest : Digest}
      {count : UInt32} (parameters : Parameters prf iterations salt digest count)
      (width : saltedPassword.length = digest.outputLength)
      (spelled : hash = "$z$" ++ prf ++ "$" ++ iterations ++ "$" ++ Base64.encodeText salt ++ "$" ++
        Base64.encodeText saltedPassword) :
      Written hash (ofSaltedPassword digest count (Base64.encodeText salt) saltedPassword)
  /-- The native layout ends with the two keys. -/
  | native {prf iterations : String} {salt serverKey storedKey : Bytes} {digest : Digest}
      {count : UInt32} (parameters : Parameters prf iterations salt digest count)
      (serverWidth : serverKey.length = digest.outputLength)
      (storedWidth : storedKey.length = digest.outputLength)
      (spelled : hash = "$z$" ++ prf ++ "$" ++ iterations ++ "$" ++ Base64.encodeText salt ++ "$" ++
        Base64.encodeText serverKey ++ "$" ++ Base64.encodeText storedKey) :
      Written hash
        { digest, iterations := count, salt64 := Base64.encodeText salt, serverKey, storedKey,
          native := true }

theorem Parameters.heading {prf iterations : String} {salt : Bytes} {digest : Digest}
    {count : UInt32} (parameters : Parameters prf iterations salt digest count) :
    Heading prf.toList iterations.toList (Base64.encodeText salt).toList digest count := by
  refine ⟨?_, readNumeral_eq_some_iff.mpr parameters.iterations, parameters.positive,
    isSalt_encodeText parameters.salted⟩
  rw [readNumeral_eq_some_iff.mpr parameters.prf, Option.bind_some, ofPrfId?_prfId]

/-- The fields that both layouts start with are those of parameters. -/
theorem Heading.parameters {prf iterations field : List Char} {digest : Digest} {count : UInt32}
    (heading : Heading prf iterations field digest count) :
    ∃ salt, field = (Base64.encodeText salt).toList ∧
      Parameters (String.ofList prf) (String.ofList iterations) salt digest count := by
  obtain ⟨salt, some, spelled⟩ := isSalt_iff.mp heading.salted
  obtain ⟨id, numeral, known⟩ := Option.bind_eq_some_iff.mp heading.prf
  rw [← prfId_of_ofPrfId? known] at numeral
  refine ⟨salt, spelled, ?_, ?_, heading.positive, some⟩
  · rw [String.toList_ofList]
    exact readNumeral_eq_some_iff.mp numeral
  · rw [String.toList_ofList]
    exact readNumeral_eq_some_iff.mp heading.iterations

/-- A hash is read by its fields. -/
theorem ofHash?_of_spells {hash : String} {fields : List (List Char)} {credential : Credential}
    (spelled : hash.toList = marker ++ Fields.join '$' fields)
    (clean : ∀ field ∈ fields, '$' ∉ field) (spells : Spells fields credential) :
    ofHash? hash = some credential := by
  have nonempty : fields ≠ [] := by
    rintro rfl
    cases spells
  rw [ofHash?, spelled]
  simp only [marker, List.cons_append, List.nil_append, body?, Option.bind_some]
  rw [Fields.split_join _ nonempty clean]
  exact ofFields?_eq_some_iff.mpr spells

/-- No field that parameters or keys are written in holds a dollar sign. -/
theorem Parameters.clean {prf iterations : String} {salt : Bytes} {digest : Digest}
    {count : UInt32} (parameters : Parameters prf iterations salt digest count)
    (keys : List Bytes) :
    ∀ field ∈ prf.toList :: iterations.toList :: (Base64.encodeText salt).toList ::
      keys.map fun key => (Base64.encodeText key).toList, '$' ∉ field := by
  simp only [List.mem_cons, forall_eq_or_imp, List.mem_map]
  refine ⟨parameters.prf.dollar_not_mem, parameters.iterations.dollar_not_mem,
    Base64.dollar_not_mem_encodeText salt, ?_⟩
  rintro _ ⟨key, -, rfl⟩
  exact Base64.dollar_not_mem_encodeText key

/-- Exactly what is written by one of the rules is read, and as the credential of that rule. -/
theorem ofHash?_eq_some_iff {hash : String} {credential : Credential} :
    ofHash? hash = some credential ↔ Written hash credential := by
  constructor
  · intro read
    obtain ⟨fields, spelled, -, spells⟩ := spells_of_ofHash? read
    cases spells with
    | legacy heading one =>
        obtain ⟨salt, rfl, parameters⟩ := heading.parameters
        obtain ⟨rfl, width⟩ := readKey_eq_some_iff.mp one
        rw [String.ofList_toList]
        refine .legacy parameters width (String.toList_inj.mp ?_)
        rw [spelled]
        simp [marker, Fields.join]
    | native heading server stored =>
        obtain ⟨salt, rfl, parameters⟩ := heading.parameters
        obtain ⟨rfl, serverWidth⟩ := readKey_eq_some_iff.mp server
        obtain ⟨rfl, storedWidth⟩ := readKey_eq_some_iff.mp stored
        rw [String.ofList_toList]
        refine .native parameters serverWidth storedWidth (String.toList_inj.mp ?_)
        rw [spelled]
        simp [marker, Fields.join]
  · intro written
    cases written with
    | @legacy _ _ salt saltedPassword _ _ parameters width spelled =>
        have spells := Spells.legacy parameters.heading (readKey_encodeText width)
        rw [String.ofList_toList] at spells
        refine ofHash?_of_spells ?_ (parameters.clean [saltedPassword]) spells
        rw [spelled]
        simp [marker, Fields.join]
    | @native _ _ salt serverKey storedKey _ _ parameters serverWidth storedWidth spelled =>
        have spells := Spells.native parameters.heading (readKey_encodeText serverWidth)
          (readKey_encodeText storedWidth)
        rw [String.ofList_toList] at spells
        refine ofHash?_of_spells ?_ (parameters.clean [serverKey, storedKey]) spells
        rw [spelled]
        simp [marker, Fields.join]

/-! ## How many fields there are -/

theorem Spells.length {fields : List (List Char)} {credential : Credential}
    (spells : Spells fields credential) : fields.length = if credential.native then 5 else 4 := by
  cases spells <;> rfl

/-- The last field is that of a key. -/
theorem Spells.getLast? {fields : List (List Char)} {credential : Credential}
    (spells : Spells fields credential) :
    ∃ last, fields.getLast? = some last ∧ last ≠ [] := by
  have some {field : List Char} {digest : Digest} {key : Bytes}
      (read : readKey digest field = some key) : field ≠ [] := by
    rintro rfl
    have none : readKey digest [] = none := by
      cases digest <;> decide
    rw [none] at read
    cases read
  cases spells with
  | legacy _ one => exact ⟨_, rfl, some one⟩
  | native _ _ stored => exact ⟨_, rfl, some stored⟩

/-- A hash that is read has a dollar sign for each of its fields and one more, and a symbol of the
last key at its end. -/
theorem dollars_of_ofHash? {hash : String} {credential : Credential}
    (read : ofHash? hash = some credential) :
    hash.toList.count '$' = (if credential.native then 6 else 5) ∧
      hash.toList.getLast? ≠ some '$' := by
  obtain ⟨fields, spelled, clean, spells⟩ := spells_of_ofHash? read
  obtain ⟨last, ends, filled⟩ := spells.getLast?
  have nonempty : fields ≠ [] := by
    rintro rfl
    cases ends
  rw [spelled]
  constructor
  · have marked : marker.count '$' = 2 := by decide
    calc (marker ++ Fields.join '$' fields).count '$'
      _ = (Fields.join '$' fields).count '$' + 1 + 1 := by
          rw [List.count_append, marked, Nat.add_comm]
      _ = (if credential.native then 5 else 4) + 1 := by
          rw [Fields.count_join nonempty clean, spells.length]
      _ = if credential.native then 6 else 5 := by
          split <;> rfl
  · intro trailing
    rw [List.getLast?_append, Fields.getLast?_join ends filled,
      List.getLast?_eq_some_getLast filled, Option.some_or, Option.some.injEq] at trailing
    exact clean last (List.mem_of_getLast? ends) (trailing ▸ List.getLast_mem filled)

/-! ## What is read -/

/-- A text is read as a stored hash exactly if it is written in the legacy or in the native layout,
and it is read as the credential of that layout. It then has five dollar signs in the one and six in
the other, and does not end with one; no text with another number of fields is read. -/
theorem ofHash?_iff_written :
    (∀ hash credential, ofHash? hash = some credential ↔ Written hash credential) ∧
    ∀ hash credential, ofHash? hash = some credential →
      hash.toList.count '$' = (if credential.native then 6 else 5) ∧
        hash.toList.getLast? ≠ some '$' :=
  ⟨fun _ _ => ofHash?_eq_some_iff, fun _ _ => dollars_of_ofHash?⟩

/-- A hash of the legacy layout whose numerals have a plus sign and zeros in front. -/
def lenientHash : String := "$z$+65$007$c2FsdA==$AAAAAAAAAAAAAAAAAAAAAAAAAAAAAAAAAAAAAAAAAAA="

/-- It is read as a hash with seven iterations, and has five dollar signs. -/
theorem ofHash?_iff_written_lenient :
    ∃ credential, ofHash? lenientHash = some credential ∧ credential.digest = .sha256 ∧
      credential.iterations = 7 ∧ credential.native = false ∧
      lenientHash.toList.count '$' = 5 ∧ lenientHash.toList.getLast? ≠ some '$' := by
  obtain ⟨grammar, fields⟩ := ofHash?_iff_written
  have decimal : Decimal Digest.sha256.prfId ['6', '5'] := ⟨by decide, by simp, by decide⟩
  have prf : Numeral Digest.sha256.prfId "+65".toList := .signed decimal
  have iterations : Numeral 7 "007".toList := .unsigned ⟨by decide, by simp, by decide⟩
  have written : Written lenientHash (ofSaltedPassword .sha256 7
      (Base64.encodeText (Bytes.ofString "salt")) (List.replicate 32 0)) :=
    .legacy ⟨prf, iterations, by decide, by decide⟩ (by decide) (by decide +kernel)
  have read := (grammar _ _).mpr written
  exact ⟨_, read, rfl, rfl, rfl, fields _ _ read⟩

/-- A dollar sign at the end makes a field too many. -/
example : ofHash? (lenientHash ++ "$") = none := by decide +kernel

end Credential

end IrcSasl
