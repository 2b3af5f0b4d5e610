import IrcSasl.Credential
import IrcSasl.Entropy
import IrcSasl.Text.SaslPrep

set_option autoImplicit false

/-!
# Hashing and checking passwords

A credential store decomposes stored hashes and checks passwords against them. `PasswordHasher` is
the store that uses PBKDF2; it also makes new hashes. Passwords are prepared with SASLprep before
they are hashed or checked.
-/

namespace IrcSasl

/-- A store of password hashes that SCRAM can authenticate against. -/
class CredentialStore (C : Type) where
  /-- The credential of a stored hash, if its format is one that SCRAM can use. -/
  extract (store : C) (hash : String) : Option Credential
  /-- Whether a password is that of a stored hash. -/
  verify (store : C) (password : Bytes) (hash : String) : Bool

/-- Password hashing with PBKDF2. -/
structure PasswordHasher where
  /-- The options of new hashes. -/
  options : HashOptions
  deriving DecidableEq, Repr

namespace PasswordHasher

/-- A hasher with options that are in range. -/
def create (options : HashOptions) : Except ConfigError PasswordHasher :=
  match options.validate with
  | .ok () => .ok { options }
  | .error error => .error error

/-- The salt of a new hash in base64, and the salted password. -/
def saltedPassword (hasher : PasswordHasher) (password : Bytes) (entropy : Entropy) :
    Except CredentialError (String × Bytes) × Entropy :=
  if hasher.options.iterations = 0 then (.error .zeroIterations, entropy)
  else
    match entropy.fill hasher.options.saltLength with
    | (none, entropy) => (.error .random, entropy)
    | (some salt, entropy) =>
        (.ok (Base64.encodeText salt,
          hasher.options.digest.pbkdf2 hasher.options.iterations salt
            (Text.preparePassword password)), entropy)

/-- A new hash of a password, in the native layout. -/
def crypt (hasher : PasswordHasher) (password : Bytes) (entropy : Entropy) :
    Except CredentialError String × Entropy :=
  match hasher.saltedPassword password entropy with
  | (.error error, entropy) => (.error error, entropy)
  | (.ok (salt64, salted), entropy) =>
      ((Credential.ofSaltedPassword hasher.options.digest hasher.options.iterations salt64
        salted).encode, entropy)

/-- A new hash of a password, in the legacy layout. -/
def cryptLegacy (hasher : PasswordHasher) (password : Bytes) (entropy : Entropy) :
    Except CredentialError String × Entropy :=
  match hasher.saltedPassword password entropy with
  | (.error error, entropy) => (.error error, entropy)
  | (.ok (salt64, salted), entropy) =>
      (.ok (Credential.hashText hasher.options.digest hasher.options.iterations salt64 [salted]),
        entropy)

/-- Whether a password has the server key of a stored hash. -/
def verify (password : Bytes) (hash : String) : Bool :=
  match Credential.ofHash? hash with
  | none => false
  | some credential =>
      match Base64.decode? (Bytes.ofString credential.salt64) with
      | none => false
      | some salt =>
          let salted := credential.digest.pbkdf2 credential.iterations salt
            (Text.preparePassword password)
          Credential.serverKeyOf credential.digest salted = credential.serverKey

instance : CredentialStore PasswordHasher where
  extract _ hash := Credential.ofHash? hash
  verify _ password hash := verify password hash

/-- The description of a hasher. -/
def describe (hasher : PasswordHasher) : String :=
  s!"Pbkdf2v2 \x7b options: {hasher.options.describe}, .. \x7d"

end PasswordHasher

end IrcSasl
