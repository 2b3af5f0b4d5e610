import IrcSasl.Proofs.Credential
import IrcSasl.Scram.Exchange

set_option autoImplicit false

/-!
# The two layouts of stored hashes

A password hashed in the legacy layout and in the native one, with one salt, is read back as one
credential, and whatever hash is read at all accepts the passwords and the proofs that the hash it
is upgraded to accepts (`layouts_agree`). What a check of a password goes by is its prepared form.
-/

namespace IrcSasl

/-! ## Proofs -/

/-- Two credentials that no client can tell apart. Of whatever first message and random bytes an
exchange is begun with, the challenges are the same, the same final messages hold a proof, the same
proofs are accepted, and the server signs alike. -/
structure Scram.ServesAlike (first second : Credential) : Prop where
  challenge : ∀ opening account nonce,
    (Exchange.start opening first account nonce).serverFirst =
      (Exchange.start opening second account nonce).serverFirst
  reads : ∀ opening account nonce message,
    (Exchange.start opening first account nonce).readProof message =
      (Exchange.start opening second account nonce).readProof message
  accepts : ∀ opening account nonce proof,
    (Exchange.start opening first account nonce).accepts proof =
      (Exchange.start opening second account nonce).accepts proof
  signature : ∀ opening account nonce,
    (Exchange.start opening first account nonce).serverSignature =
      (Exchange.start opening second account nonce).serverSignature

/-- An exchange does not look at the layout of the hash that its credential was read from. -/
theorem Scram.servesAlike_layout (credential : Credential) (native : Bool) :
    ServesAlike credential { credential with native } :=
  ⟨fun _ _ _ => rfl, fun _ _ _ _ => rfl, fun _ _ _ _ => rfl, fun _ _ _ => rfl⟩

namespace PasswordHasher

/-! ## Passwords -/

/-- A password is checked by its prepared form. -/
theorem verify_congr {first second : Bytes}
    (same : Text.preparePassword first = Text.preparePassword second) (hash : String) :
    verify first hash = verify second hash := by
  unfold verify
  rw [same]

/-- A hash accepts the password that its credential was derived from. -/
theorem verify_of_derived {password salt : Bytes} {hash : String} {credential : Credential}
    (read : Credential.ofHash? hash = some credential) (derived : credential.Of password salt) :
    verify password hash = true := by
  unfold verify
  rw [read]
  simp only [derived.salt64, Base64.ofString_encodeText, Base64.decode?_encode,
    decide_eq_true_eq]
  exact derived.serverKey.symm

/-- Upgrading a hash changes neither the passwords that it accepts nor the proofs. -/
theorem upgrade_agrees {hash : String} {credential : Credential}
    (read : Credential.ofHash? hash = some credential) :
    ∃ upgraded reread, credential.encode = .ok upgraded ∧
      Credential.ofHash? upgraded = some reread ∧
      (∀ password, verify password hash = verify password upgraded) ∧
      Scram.ServesAlike credential reread := by
  obtain ⟨upgraded, encoded, reread⟩ := (Credential.storable_of_ofHash? read).upgrade
  have agree := Agree.of_layout read reread
  exact ⟨upgraded, _, encoded, reread, agree.symm.verify, Scram.servesAlike_layout credential true⟩

/-! ## One password in both layouts -/

/-- Whatever password a hasher hashes and whatever salt it draws, a hash of the legacy layout and
one of the native layout are read back as the same credential but for the layout, with the digest,
the iteration count and the salt that they were made with, and both accept the password. Every hash
that is read accepts what it accepts after it is upgraded. Passwords are told apart by their
prepared forms only. -/
theorem layouts_agree :
    (∀ (options : HashOptions) (hasher : PasswordHasher) (password salt : Bytes)
      (entropy : Entropy), create options = .ok hasher →
      (entropy.fill options.saltLength).1 = some salt →
      ∃ (native legacy : String) (credential : Credential),
        (hasher.crypt password entropy).1 = .ok native ∧
        (hasher.cryptLegacy password entropy).1 = .ok legacy ∧
        Credential.ofHash? native = some { credential with native := true } ∧
        Credential.ofHash? legacy = some { credential with native := false } ∧
        credential.digest = options.digest ∧ credential.iterations = options.iterations ∧
        credential.salt64 = Base64.encodeText salt ∧
        verify password native = true ∧ verify password legacy = true) ∧
    (∀ hash credential, Credential.ofHash? hash = some credential →
      ∃ upgraded reread, credential.encode = .ok upgraded ∧
        Credential.ofHash? upgraded = some reread ∧
        (∀ password, verify password hash = verify password upgraded) ∧
        Scram.ServesAlike credential reread) ∧
    ∀ first second, Text.preparePassword first = Text.preparePassword second →
      ∀ hash, verify first hash = verify second hash := by
  refine ⟨?_, fun _ _ => upgrade_agrees, fun _ _ => verify_congr⟩
  intro options hasher password salt entropy created drawn
  obtain ⟨native, legacy, credential, crypted, cryptedLegacy, digest, iterations, layout, derived,
    readLegacy, readNative⟩ := exists_both created password drawn
  have accepted := verify_of_derived readLegacy derived
  have agree := Agree.of_layout readLegacy readNative
  have unchanged : { credential with native := false } = credential := by
    rw [← layout]
  refine ⟨native, legacy, credential, by rw [crypted], by rw [cryptedLegacy], readNative, ?_,
    digest, iterations, derived.salt64, ?_, accepted⟩
  · rw [readLegacy, unchanged]
  · exact (agree.verify password).trans accepted

/-- The hashes of `pencil` with a salt of eight bytes. -/
theorem layouts_agree_pencil :
    let hasher : PasswordHasher := ⟨{ digest := .sha1, iterations := 10000, saltLength := 8 }⟩
    let password := Bytes.ofString "pencil"
    let entropy := Entropy.arithmetic 1 []
    ∃ native legacy, (hasher.crypt password entropy).1 = .ok native ∧
      (hasher.cryptLegacy password entropy).1 = .ok legacy ∧
      verify password native = true ∧ verify password legacy = true := by
  intro hasher password entropy
  obtain ⟨both, -⟩ := layouts_agree
  have created : create hasher.options = .ok hasher := rfl
  have drawn : (entropy.fill hasher.options.saltLength).1 =
      some [1, 12, 23, 34, 45, 56, 67, 78] := rfl
  obtain ⟨native, legacy, -, made, madeLegacy, -, -, -, -, -, accepts, acceptsLegacy⟩ :=
    both hasher.options hasher password _ entropy created drawn
  exact ⟨native, legacy, made, madeLegacy, accepts, acceptsLegacy⟩

end PasswordHasher

end IrcSasl
