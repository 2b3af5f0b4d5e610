import IrcSasl.Credential.Store
import IrcSasl.Proofs.Bytes

set_option autoImplicit false

/-!
# Stored hashes

A hash that was made of a password, in either layout, is read back as the credential of the password
(`PasswordHasher.Hashed.extracted`). Whatever is read from a stored hash can be written in the
native layout and is read back as it was (`Credential.Storable.upgrade`).
-/

namespace IrcSasl

/-! ## Numerals -/

namespace Credential

/-- The decimal digits of a number, which may have zeros in front. -/
structure Decimal (number : UInt32) (digits : List Char) : Prop where
  nonempty : digits ≠ []
  decimal : ∀ char ∈ digits, char.isDigit = true
  value : Nat.ofDigitChars 10 digits 0 = number.toNat

/-- A numeral of a number: its digits, behind a plus sign or not. -/
inductive Numeral (number : UInt32) : List Char → Prop where
  | unsigned {digits : List Char} (decimal : Decimal number digits) : Numeral number digits
  | signed {digits : List Char} (decimal : Decimal number digits) : Numeral number ('+' :: digits)

/-- Digits are read as the number that they are the digits of. -/
theorem readDigits_eq {digits : List Char} (decimal : ∀ char ∈ digits, char.isDigit = true)
    (number : Nat) : readDigits number digits = some (Nat.ofDigitChars 10 digits number) := by
  induction digits generalizing number with
  | nil => rfl
  | cons char rest ih =>
      simp only [List.mem_cons, forall_eq_or_imp] at decimal
      have digit : digit? char = some (char.toNat - '0'.toNat) := by
        have bounds := decimal.1
        simp only [Char.isDigit, Bool.and_eq_true, decide_eq_true_eq] at bounds
        rw [digit?, if_pos ⟨bounds.1, bounds.2⟩]
      rw [readDigits, digit]
      simp only
      rw [ih decimal.2, Nat.ofDigitChars_cons, Nat.mul_comm]

theorem isDigit_of_digit? {char : Char} {value : Nat} (read : digit? char = some value) :
    char.isDigit = true := by
  unfold digit? at read
  split at read
  · next bounds =>
      simp only [Char.isDigit, Bool.and_eq_true, decide_eq_true_eq]
      exact bounds
  · cases read

/-- Only digits are read as a number, and as the number that they are the digits of. -/
theorem readDigits_eq_some_iff {digits : List Char} {number value : Nat} :
    readDigits number digits = some value ↔
      (∀ char ∈ digits, char.isDigit = true) ∧ Nat.ofDigitChars 10 digits number = value := by
  constructor
  · intro read
    have decimal : ∀ char ∈ digits, char.isDigit = true := by
      induction digits generalizing number with
      | nil => exact fun _ absurd => by cases absurd
      | cons char rest ih =>
          rw [readDigits] at read
          split at read
          · next digit known =>
              exact List.forall_mem_cons.mpr ⟨isDigit_of_digit? known, ih read⟩
          · cases read
    rw [readDigits_eq decimal] at read
    exact ⟨decimal, Option.some.inj read⟩
  · rintro ⟨decimal, rfl⟩
    exact readDigits_eq decimal number

/-- The digits of a numeral are read as the word that they stand for, if one does. -/
theorem readWord_eq_some_iff {digits : List Char} {number : UInt32} :
    (if digits.isEmpty then none
      else ((readDigits 0 digits).filter (· < UInt32.size)).map UInt32.ofNat) = some number ↔
      Decimal number digits := by
  constructor
  · intro read
    split at read
    · cases read
    · next some =>
        obtain ⟨value, counted, rfl⟩ := Option.map_eq_some_iff.mp read
        obtain ⟨counted, small⟩ := Option.filter_eq_some_iff.mp counted
        obtain ⟨decimal, same⟩ := readDigits_eq_some_iff.mp counted
        refine ⟨fun none => some (List.isEmpty_iff.mpr none), decimal, ?_⟩
        rw [same, UInt32.toNat_ofNat_of_lt' (of_decide_eq_true small)]
  · rintro ⟨nonempty, decimal, value⟩
    have small : number.toNat < UInt32.size := number.toNat_lt
    rw [if_neg fun none => nonempty (List.isEmpty_iff.mp none), readDigits_eq decimal, value]
    simp only [Option.filter, small, decide_true, if_true, Option.map_some, UInt32.ofNat_toNat]

/-- Exactly the numerals of a number are read as it. -/
theorem readNumeral_eq_some_iff {numeral : List Char} {number : UInt32} :
    readNumeral numeral = some number ↔ Numeral number numeral := by
  have sign : '+'.isDigit = false := by decide
  unfold readNumeral
  split
  · next digits =>
      rw [readWord_eq_some_iff]
      constructor
      · exact .signed
      · rintro (decimal | decimal)
        · have digit := decimal.decimal '+' List.mem_cons_self
          rw [sign] at digit
          cases digit
        · exact decimal
  · next unsigned =>
      rw [readWord_eq_some_iff]
      constructor
      · exact .unsigned
      · rintro (decimal | decimal)
        · exact decimal
        · exact absurd rfl (unsigned _)

theorem toList_toString (number : UInt32) :
    (toString number).toList = Nat.toDigits 10 number.toNat := by
  have spelled : toString number = number.toNat.repr := rfl
  rw [spelled, Nat.toList_repr]

theorem isDigit_of_mem {number : UInt32} {char : Char} (member : char ∈ (toString number).toList) :
    char.isDigit = true := by
  rw [toList_toString] at member
  exact Nat.isDigit_of_mem_toDigits (by decide) (by decide) member

theorem decimal_toString (number : UInt32) : Decimal number (toString number).toList where
  nonempty := by
    rw [toList_toString]
    exact Nat.toDigits_ne_nil
  decimal _ := isDigit_of_mem
  value := by rw [toList_toString, Nat.ofDigitChars_ten_toDigits]

/-- A number is read back from its digits. -/
@[simp] theorem readNumeral_toString (number : UInt32) :
    readNumeral (toString number).toList = some number :=
  readNumeral_eq_some_iff.mpr (.unsigned (decimal_toString number))

/-- The digits of a number are at most ten bytes. -/
theorem length_ofString_toString (number : UInt32) :
    (Bytes.ofString (toString number)).length ≤ 10 := by
  have small : number.toNat < 10 ^ 10 := Nat.lt_trans number.toNat_lt (by decide)
  have digits : (Nat.toDigits 10 number.toNat).length ≤ 10 :=
    (Nat.length_toDigits_le_iff (by decide) (by decide)).mpr small
  have ascii : ∀ char ∈ (toString number).toList, char.toNat < 0x80 := by
    intro char member
    have digit := isDigit_of_mem member
    simp only [Char.isDigit, Bool.and_eq_true, decide_eq_true_eq] at digit
    exact Nat.lt_of_le_of_lt (UInt32.le_iff_toNat_le.mp digit.2) (by decide)
  rw [Bytes.length_of_ascii ascii, toList_toString]
  exact digits

end Credential

/-! ## Fields -/

namespace Base64

theorem dollar_not_mem_encodeText (bytes : Bytes) : '$' ∉ (encodeText bytes).toList := by
  rw [encodeText, Bytes.asciiText, String.toList_ofList, List.mem_map]
  rintro ⟨byte, member, same⟩
  exact forall_mem_encode (fun byte => Char.ofNat byte.toNat ≠ '$') (by decide) (by decide) bytes
    byte member same

theorem encode_ne_nil {bytes : Bytes} (some : bytes ≠ []) : encode bytes ≠ [] := by
  have positive := List.length_pos_iff.mpr some
  rw [← List.length_pos_iff, length_encode]
  omega

end Base64

namespace Credential

@[simp] theorem ofPrfId?_prfId (digest : Digest) : Digest.ofPrfId? digest.prfId = some digest := by
  cases digest <;> rfl

theorem readKey_encodeText {digest : Digest} {key : Bytes}
    (width : key.length = digest.outputLength) :
    readKey digest (Base64.encodeText key).toList = some key := by
  rw [readKey, String.ofList_toList, Base64.ofString_encodeText, Base64.decode?_encode]
  simp [Option.filter, width]

theorem isSalt_encodeText {salt : Bytes} (some : salt ≠ []) :
    isSalt (Base64.encodeText salt).toList = true := by
  have nonempty : (Base64.encodeText salt).toList ≠ [] := by
    rw [Base64.encodeText, Bytes.asciiText, String.toList_ofList, ne_eq, List.map_eq_nil_iff]
    exact Base64.encode_ne_nil some
  rw [isSalt, String.ofList_toList, Base64.ofString_encodeText, Base64.decode?_encode]
  simp [nonempty]

/-- A stored hash is read by its fields. -/
theorem ofHash?_hashText (digest : Digest) (iterations : UInt32) {salt64 : String}
    (unbroken : '$' ∉ salt64.toList) (keys : List Bytes) :
    ofHash? (hashText digest iterations salt64 keys) =
      ofFields? ((toString digest.prfId).toList :: (toString iterations).toList ::
        salt64.toList :: keys.map fun key => (Base64.encodeText key).toList) := by
  have numeral (number : UInt32) : '$' ∉ (toString number).toList := by
    intro member
    exact absurd (isDigit_of_mem member) (by decide)
  have clean : ∀ field ∈ (toString digest.prfId).toList :: (toString iterations).toList ::
      salt64.toList :: keys.map fun key => (Base64.encodeText key).toList, '$' ∉ field := by
    simp only [List.mem_cons, forall_eq_or_imp, List.mem_map]
    refine ⟨numeral _, numeral _, unbroken, ?_⟩
    rintro _ ⟨key, -, rfl⟩
    exact Base64.dollar_not_mem_encodeText key
  rw [ofHash?, hashText, String.toList_ofList]
  simp only [marker, List.cons_append, List.nil_append, body?, Option.bind_some]
  rw [Fields.split_join _ (by simp) clean]

section

variable {digest : Digest} {iterations : UInt32} (positive : iterations ≠ 0) {salt64 : String}
  (salted : isSalt salt64.toList = true) (unbroken : '$' ∉ salt64.toList)

include positive salted unbroken

/-- A hash of the native layout is read back. -/
theorem ofHash?_native {serverKey storedKey : Bytes}
    (serverWidth : serverKey.length = digest.outputLength)
    (storedWidth : storedKey.length = digest.outputLength) :
    ofHash? (hashText digest iterations salt64 [serverKey, storedKey]) =
      some { digest, iterations, salt64, serverKey, storedKey, native := true } := by
  rw [ofHash?_hashText digest iterations unbroken]
  simp only [List.map_cons, List.map_nil, ofFields?, readNumeral_toString, Option.bind_some,
    ofPrfId?_prfId, positive, salted, readKey_encodeText serverWidth,
    readKey_encodeText storedWidth, Option.map_some, String.ofList_toList, Bool.not_true,
    Bool.false_eq_true, or_self, if_false]

/-- A hash of the legacy layout is read as the credential of its salted password. -/
theorem ofHash?_legacy {saltedPassword : Bytes}
    (width : saltedPassword.length = digest.outputLength) :
    ofHash? (hashText digest iterations salt64 [saltedPassword]) =
      some (ofSaltedPassword digest iterations salt64 saltedPassword) := by
  rw [ofHash?_hashText digest iterations unbroken]
  simp only [List.map_cons, List.map_nil, ofFields?, readNumeral_toString, Option.bind_some,
    ofPrfId?_prfId, positive, salted, readKey_encodeText width,
    String.ofList_toList, Bool.not_true, Bool.false_eq_true, or_self, if_false]

end

/-! ## Layouts -/

/-- The fields that both layouts start with. -/
structure Heading (prf iterations salt : List Char) (digest : Digest) (count : UInt32) : Prop where
  prf : (readNumeral prf).bind Digest.ofPrfId? = some digest
  iterations : readNumeral iterations = some count
  positive : count ≠ 0
  salted : isSalt salt = true

/-- The fields of a hash of either layout with the credential that they spell. -/
inductive Spells : List (List Char) → Credential → Prop where
  | legacy {prf iterations salt field : List Char} {digest : Digest} {count : UInt32}
      {saltedPassword : Bytes} (heading : Heading prf iterations salt digest count)
      (read : readKey digest field = some saltedPassword) :
      Spells [prf, iterations, salt, field]
        (ofSaltedPassword digest count (String.ofList salt) saltedPassword)
  | native {prf iterations salt server stored : List Char} {digest : Digest} {count : UInt32}
      {serverKey storedKey : Bytes} (heading : Heading prf iterations salt digest count)
      (readServer : readKey digest server = some serverKey)
      (readStored : readKey digest stored = some storedKey) :
      Spells [prf, iterations, salt, server, stored]
        { digest, iterations := count, salt64 := String.ofList salt, serverKey, storedKey,
          native := true }

/-- Only what spells a credential is read, and it is read as that credential. -/
theorem ofFields?_eq_some_iff {fields : List (List Char)} {credential : Credential} :
    ofFields? fields = some credential ↔ Spells fields credential := by
  constructor
  · intro read
    unfold ofFields? at read
    split at read
    · next prf iterations salt key rest =>
        split at read
        · next digest count known counted =>
            split at read
            · cases read
            · next proper =>
                obtain ⟨positive, salted⟩ := not_or.mp proper
                have heading : Heading prf iterations salt digest count :=
                  ⟨known, counted, positive, by simpa using salted⟩
                split at read
                · next one =>
                    cases read
                    exact .legacy heading one
                · next serverKey stored one =>
                    obtain ⟨storedKey, other, rfl⟩ := Option.map_eq_some_iff.mp read
                    exact .native heading one other
                · cases read
        · cases read
    · cases read
  · rintro (⟨heading, one⟩ | ⟨heading, one, other⟩)
    · simp [ofFields?, heading.prf, heading.iterations, heading.positive, heading.salted, one]
    · simp [ofFields?, heading.prf, heading.iterations, heading.positive, heading.salted, one,
        other]

/-- A hash is read by the fields behind its marker, none of which holds a dollar sign. -/
theorem spells_of_ofHash? {hash : String} {credential : Credential}
    (read : ofHash? hash = some credential) :
    ∃ fields, hash.toList = marker ++ Fields.join '$' fields ∧ (∀ field ∈ fields, '$' ∉ field) ∧
      Spells fields credential := by
  obtain ⟨body, marked, read⟩ := Option.bind_eq_some_iff.mp read
  refine ⟨Fields.split '$' body, ?_, Fields.not_mem_of_mem_split '$' body,
    ofFields?_eq_some_iff.mp read⟩
  rw [Fields.join_split]
  unfold body? at marked
  split at marked
  · next same =>
      cases marked
      exact same
  · cases marked

/-! ## Credentials that can be stored -/

/-- The keys that SCRAM compares and signs with. -/
def keys (credential : Credential) : Bytes × Bytes := (credential.serverKey, credential.storedKey)

/-- A credential that can be stored in the native layout. -/
structure Storable (credential : Credential) : Prop where
  positive : credential.iterations ≠ 0
  salted : isSalt credential.salt64.toList = true
  unbroken : '$' ∉ credential.salt64.toList
  serverKey : credential.serverKey.length = credential.digest.outputLength
  storedKey : credential.storedKey.length = credential.digest.outputLength

theorem Storable.encode_eq {credential : Credential} (storable : credential.Storable) :
    credential.encode = .ok (hashText credential.digest credential.iterations credential.salt64
      [credential.serverKey, credential.storedKey]) := by
  simp only [encode, storable.positive, storable.serverKey, storable.storedKey, ne_eq,
    not_true_eq_false, or_self, if_false]

/-- A credential that is stored in the native layout is read back as it was. -/
theorem Storable.upgrade {credential : Credential} (storable : credential.Storable) :
    ∃ hash, credential.encode = .ok hash ∧
      ofHash? hash = some { credential with native := true } :=
  ⟨_, storable.encode_eq, ofHash?_native storable.positive storable.salted storable.unbroken
    storable.serverKey storable.storedKey⟩

theorem length_of_readKey {digest : Digest} {field : List Char} {key : Bytes}
    (read : readKey digest field = some key) : key.length = digest.outputLength :=
  of_decide_eq_true (Option.filter_eq_some_iff.mp read).2

/-- What is read from a stored hash can be stored in the native layout. -/
theorem storable_of_ofHash? {hash : String} {credential : Credential}
    (read : ofHash? hash = some credential) : credential.Storable := by
  obtain ⟨fields, -, clean, spells⟩ := spells_of_ofHash? read
  have unbroken {salt : List Char} (member : salt ∈ fields) :
      '$' ∉ (String.ofList salt).toList := by
    rw [String.toList_ofList]
    exact clean salt member
  have salted {salt : List Char} (salted : isSalt salt = true) :
      isSalt (String.ofList salt).toList = true := by
    rwa [String.toList_ofList]
  cases spells with
  | legacy heading =>
      exact ⟨heading.positive, salted heading.salted, unbroken (by simp), Digest.length_hmac ..,
        Digest.length_hash ..⟩
  | native heading server stored =>
      exact ⟨heading.positive, salted heading.salted, unbroken (by simp), length_of_readKey server,
        length_of_readKey stored⟩

/-! ## Credentials of passwords -/

/-- The salted password that a client computes. -/
def salted (digest : Digest) (iterations : UInt32) (salt password : Bytes) : Bytes :=
  digest.pbkdf2 iterations salt (Text.preparePassword password)

/-- A credential that was derived from a password with a salt of usual length. -/
structure Of (password salt : Bytes) (credential : Credential) : Prop where
  positive : credential.iterations ≠ 0
  least : Limits.saltLengthMin ≤ salt.length
  most : salt.length ≤ Limits.saltLengthMax
  salt64 : credential.salt64 = Base64.encodeText salt
  serverKey : credential.serverKey = serverKeyOf credential.digest
    (salted credential.digest credential.iterations salt password)
  storedKey : credential.storedKey = storedKeyOf credential.digest
    (salted credential.digest credential.iterations salt password)

namespace Of

variable {password salt : Bytes} {credential : Credential}

theorem salt_ne_nil (derived : credential.Of password salt) : salt ≠ [] := by
  rintro rfl
  exact absurd derived.least (by decide)

theorem length_serverKey (derived : credential.Of password salt) :
    credential.serverKey.length = credential.digest.outputLength := by
  rw [derived.serverKey, serverKeyOf, Digest.length_hmac]

theorem length_storedKey (derived : credential.Of password salt) :
    credential.storedKey.length = credential.digest.outputLength := by
  rw [derived.storedKey, storedKeyOf, Digest.length_hash]

theorem storable (derived : credential.Of password salt) : credential.Storable := by
  refine ⟨derived.positive, ?_, ?_, derived.length_serverKey, derived.length_storedKey⟩
  · rw [derived.salt64]
    exact isSalt_encodeText derived.salt_ne_nil
  · rw [derived.salt64]
    exact Base64.dollar_not_mem_encodeText salt

end Of

end Credential

/-! ## New hashes -/

namespace PasswordHasher

/-- A hash that a hasher has made of a password, in either layout. -/
inductive Hashed (digest : Digest) (password : Bytes) (hash : String) : Prop where
  | native {options : HashOptions} {hasher : PasswordHasher} {entropy after : Entropy}
      (created : create options = .ok hasher) (chosen : options.digest = digest)
      (made : hasher.crypt password entropy = (.ok hash, after))
  | legacy {options : HashOptions} {hasher : PasswordHasher} {entropy after : Entropy}
      (created : create options = .ok hasher) (chosen : options.digest = digest)
      (made : hasher.cryptLegacy password entropy = (.ok hash, after))

/-- The options of a hasher are in range. -/
theorem options_of_create {options : HashOptions} {hasher : PasswordHasher}
    (created : create options = .ok hasher) :
    hasher.options = options ∧ options.iterations ≠ 0 ∧
      Limits.saltLengthMin ≤ options.saltLength ∧ options.saltLength ≤ Limits.saltLengthMax := by
  unfold create HashOptions.validate at created
  split at created
  · next valid =>
      cases created
      split at valid
      · cases valid
      · next iterations =>
          unfold checkRange at valid iterations
          split at iterations
          · next range =>
              split at valid
              · next width =>
                  refine ⟨rfl, ?_, width⟩
                  intro zero
                  rw [zero] at range
                  exact absurd range.1 (by decide)
              · cases valid
          · cases iterations
  · cases created

theorem saltedPassword_cases {hasher : PasswordHasher} {password salted : Bytes} {salt64 : String}
    {entropy after : Entropy}
    (made : hasher.saltedPassword password entropy = (.ok (salt64, salted), after)) :
    ∃ salt, salt.length = hasher.options.saltLength ∧ salt64 = Base64.encodeText salt ∧
      salted = Credential.salted hasher.options.digest hasher.options.iterations salt password := by
  unfold saltedPassword at made
  split at made
  · cases made
  · split at made
    · cases made
    · next salt _ drawn =>
        cases made
        exact ⟨salt, Entropy.length_fill drawn, rfl, rfl⟩

/-- Two stored hashes accept the same passwords and hold the same keys. -/
structure Agree (first second : String) : Prop where
  verify : ∀ password, verify password first = verify password second
  keys : (Credential.ofHash? first).map Credential.keys =
    (Credential.ofHash? second).map Credential.keys

namespace Agree

theorem symm {first second : String} (agree : Agree first second) : Agree second first :=
  ⟨fun password => (agree.verify password).symm, agree.keys.symm⟩

theorem trans {first second third : String} (early : Agree first second)
    (late : Agree second third) : Agree first third :=
  ⟨fun password => (early.verify password).trans (late.verify password),
    early.keys.trans late.keys⟩

/-- Hashes that are read alike but for their layout agree. -/
theorem of_layout {first second : String} {credential : Credential} {native : Bool}
    (read : Credential.ofHash? first = some credential)
    (other : Credential.ofHash? second = some { credential with native }) :
    Agree second first := by
  refine ⟨?_, by rw [read, other]; rfl⟩
  intro password
  unfold PasswordHasher.verify
  rw [read, other]

end Agree

/-- What a hasher derives from a password is a credential of the password with the parameters that
it was made with. -/
theorem of_saltedPassword {options : HashOptions} {hasher : PasswordHasher}
    {password salted : Bytes} {salt64 : String} {entropy after : Entropy}
    (created : create options = .ok hasher)
    (made : hasher.saltedPassword password entropy = (.ok (salt64, salted), after)) :
    ∃ salt, salt.length = options.saltLength ∧ salt64 = Base64.encodeText salt ∧
      salted = Credential.salted options.digest options.iterations salt password ∧
      (Credential.ofSaltedPassword options.digest options.iterations salt64 salted).Of password
        salt := by
  obtain ⟨same, positive, least, most⟩ := options_of_create created
  obtain ⟨salt, width, rfl, rfl⟩ := saltedPassword_cases made
  rw [same] at width ⊢
  exact ⟨salt, width, rfl, rfl, ⟨positive, width ▸ least, width ▸ most, rfl, rfl, rfl⟩⟩

section

variable {options : HashOptions} {hasher : PasswordHasher} {password : Bytes}
  {entropy : Entropy} (created : create options = .ok hasher)

include created

/-- A hash of the native layout is read back with the parameters that the hasher was made with, and
is what is written for the credential that is read. -/
theorem extracted_of_crypt {hash : String} {after : Entropy}
    (made : hasher.crypt password entropy = (.ok hash, after)) :
    ∃ credential salt, Credential.ofHash? hash = some credential ∧
      credential.digest = options.digest ∧ credential.iterations = options.iterations ∧
      salt.length = options.saltLength ∧ credential.Of password salt ∧
      credential.encode = .ok hash := by
  obtain ⟨same, -⟩ := options_of_create created
  unfold crypt at made
  split at made
  · cases made
  · next salt64 salted _ drawn =>
      obtain ⟨salt, width, -, -, derived⟩ := of_saltedPassword created drawn
      obtain ⟨native, encoded, read⟩ := derived.storable.upgrade
      have written := congrArg Prod.fst made
      rw [same] at written
      cases encoded.symm.trans written
      exact ⟨_, salt, read, rfl, rfl, width,
        ⟨derived.positive, derived.least, derived.most, derived.salt64, derived.serverKey,
          derived.storedKey⟩, encoded⟩

/-- Of one draw of a salt a hasher makes a hash of either layout, and both are read as the same
credential of the password, but for the layout. -/
theorem exists_both (password : Bytes) {salt : Bytes}
    (drawn : (entropy.fill options.saltLength).1 = some salt) :
    ∃ native legacy credential,
      hasher.crypt password entropy = (.ok native, (entropy.fill options.saltLength).2) ∧
      hasher.cryptLegacy password entropy = (.ok legacy, (entropy.fill options.saltLength).2) ∧
      credential.digest = options.digest ∧ credential.iterations = options.iterations ∧
      credential.native = false ∧ credential.Of password salt ∧
      Credential.ofHash? legacy = some credential ∧
      Credential.ofHash? native = some { credential with native := true } := by
  obtain ⟨same, positive, least, most⟩ := options_of_create created
  have draw : entropy.fill options.saltLength =
      (some salt, (entropy.fill options.saltLength).2) := Prod.ext drawn rfl
  have width : salt.length = options.saltLength := Entropy.length_fill draw
  have salted : hasher.saltedPassword password entropy =
      (.ok (Base64.encodeText salt, Credential.salted options.digest options.iterations salt
        password), (entropy.fill options.saltLength).2) := by
    unfold saltedPassword
    rw [same, if_neg positive, draw]
    rfl
  have derived : (Credential.ofSaltedPassword options.digest options.iterations
      (Base64.encodeText salt) (Credential.salted options.digest options.iterations salt
        password)).Of password salt :=
    ⟨positive, width ▸ least, width ▸ most, rfl, rfl, rfl⟩
  obtain ⟨native, encoded, read⟩ := derived.storable.upgrade
  have legacy := Credential.ofHash?_legacy derived.positive derived.storable.salted
    derived.storable.unbroken (Digest.length_pbkdf2 options.digest options.iterations salt
      (Text.preparePassword password))
  refine ⟨native, _, _, ?_, ?_, rfl, rfl, rfl, derived, legacy, read⟩
  · rw [crypt, salted, same]
    exact Prod.ext encoded rfl
  · rw [cryptLegacy, salted, same]
    rfl

/-- A hasher makes a hash whenever it can draw a salt. -/
theorem exists_crypt (password : Bytes) {salt : Bytes}
    (drawn : (entropy.fill options.saltLength).1 = some salt) :
    ∃ hash after, hasher.crypt password entropy = (.ok hash, after) := by
  obtain ⟨native, -, -, made, -⟩ := exists_both created password drawn
  exact ⟨native, _, made⟩

end

/-- A hash of a password is read back as a credential of the password. In the native layout it is
what is written for that credential. -/
theorem Hashed.extracted {digest : Digest} {password : Bytes} {hash : String}
    (hashed : Hashed digest password hash) :
    ∃ credential salt, Credential.ofHash? hash = some credential ∧ credential.digest = digest ∧
      credential.Of password salt ∧
      (credential.native = true → credential.encode = .ok hash) := by
  cases hashed with
  | native created chosen made =>
      obtain ⟨credential, salt, read, digest, -, -, derived, written⟩ :=
        extracted_of_crypt created made
      exact ⟨credential, salt, read, digest.trans chosen, derived, fun _ => written⟩
  | @legacy options hasher entropy after created chosen made =>
      obtain ⟨same, -⟩ := options_of_create created
      unfold cryptLegacy at made
      split at made
      · cases made
      · next salt64 salted _ drawn =>
          obtain ⟨salt, -, rfl, rfl, derived⟩ := of_saltedPassword created drawn
          rw [same] at made
          cases made
          exact ⟨_, salt, Credential.ofHash?_legacy derived.positive derived.storable.salted
            derived.storable.unbroken (Digest.length_pbkdf2 ..), chosen, derived,
            fun native => by cases native⟩

end PasswordHasher

end IrcSasl
