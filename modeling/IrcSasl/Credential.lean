import IrcSasl.Base64
import IrcSasl.Config
import IrcSasl.Fields
import IrcSasl.Text.Quoted

set_option autoImplicit false

/-!
# Stored credentials

A password is stored as a hash of one of two layouts:

* the legacy layout `$z$<prf>$<iterations>$<salt>$<SaltedPassword>`;
* the native layout `$z$<prf>$<iterations>$<salt>$<ServerKey>$<StoredKey>`.

The binary fields are base64. A hash of either layout decomposes into the values that SCRAM needs,
so that a legacy hash can be upgraded without knowledge of the password.
-/

namespace IrcSasl

/-- Why a credential cannot be made or stored. -/
inductive CredentialError where
  /-- The random source failed. -/
  | random
  /-- The iteration count is zero. -/
  | zeroIterations
  /-- The keys do not have the length of the digest. -/
  | keyLength
  deriving DecidableEq, Repr

/-- The wording of an error. -/
def CredentialError.message : CredentialError → String
  | .random => "random number generator failed"
  | .zeroIterations => "iteration count is zero"
  | .keyLength => "key length does not match digest"

/-- A stored credential, decomposed into the values that SCRAM needs. -/
structure Credential where
  /-- The digest that it was derived with. -/
  digest : Digest
  /-- The iteration count. -/
  iterations : UInt32
  /-- The salt in base64, exactly as it is sent to clients. -/
  salt64 : String
  /-- The keyed hash of `Server Key` under the salted password. -/
  serverKey : Bytes
  /-- The hash of the keyed hash of `Client Key` under the salted password. -/
  storedKey : Bytes
  /-- Whether the stored hash has the native layout. -/
  native : Bool
  deriving DecidableEq, Repr

namespace Credential

/-- What every stored hash starts with. -/
def marker : List Char := ['$', 'z', '$']

/-- The server key of a salted password. -/
def serverKeyOf (digest : Digest) (saltedPassword : Bytes) : Bytes :=
  digest.hmac saltedPassword (Bytes.ofString "Server Key")

/-- The stored key of a salted password. -/
def storedKeyOf (digest : Digest) (saltedPassword : Bytes) : Bytes :=
  digest.hash (digest.hmac saltedPassword (Bytes.ofString "Client Key"))

/-- The credential of a salted password. It counts as not native. -/
def ofSaltedPassword (digest : Digest) (iterations : UInt32) (salt64 : String)
    (saltedPassword : Bytes) : Credential where
  digest := digest
  iterations := iterations
  salt64 := salt64
  serverKey := serverKeyOf digest saltedPassword
  storedKey := storedKeyOf digest saltedPassword
  native := false

/-- The text of a stored hash with these binary fields at its end. -/
def hashText (digest : Digest) (iterations : UInt32) (salt64 : String) (keys : List Bytes) :
    String :=
  String.ofList <| marker ++ Fields.join '$'
    ((toString digest.prfId).toList :: (toString iterations).toList :: salt64.toList ::
      keys.map fun key => (Base64.encodeText key).toList)

/-- The stored hash of a credential, in the native layout. -/
def encode (credential : Credential) : Except CredentialError String :=
  let length := credential.digest.outputLength
  if credential.iterations = 0 then .error .zeroIterations
  else if credential.serverKey.length ≠ length ∨ credential.storedKey.length ≠ length then
    .error .keyLength
  else
    .ok (hashText credential.digest credential.iterations credential.salt64
      [credential.serverKey, credential.storedKey])

/-- The description of a credential, which keeps its keys to itself. -/
def describe (credential : Credential) : String :=
  s!"ScramCredential \x7b digest: {credential.digest.label}, " ++
    s!"iterations: {credential.iterations}, salt64: " ++ Text.quote credential.salt64 ++
    s!", native: {credential.native}, .. \x7d"

/-! ## Reading stored hashes -/

/-- The number that a digit stands for. -/
def digit? (char : Char) : Option Nat :=
  if '0' ≤ char ∧ char ≤ '9' then some (char.toNat - '0'.toNat) else none

/-- The number that digits stand for, behind those that were read. -/
def readDigits (number : Nat) : List Char → Option Nat
  | [] => some number
  | char :: rest =>
      match digit? char with
      | some digit => readDigits (number * 10 + digit) rest
      | none => none

/-- The number of a numeral of at least one digit, which may have a plus sign in front and fits into
a word of 32 bits. -/
def readNumeral (numeral : List Char) : Option UInt32 :=
  let digits := match numeral with
    | '+' :: rest => rest
    | _ => numeral
  if digits.isEmpty then none
  else ((readDigits 0 digits).filter (· < UInt32.size)).map UInt32.ofNat

/-- The key that a field stands for, if it has the length of the digest. -/
def readKey (digest : Digest) (field : List Char) : Option Bytes :=
  (Base64.decode? (Bytes.ofString (String.ofList field))).filter
    fun key => key.length = digest.outputLength

/-- Whether a field is the base64 text of a salt. -/
def isSalt (field : List Char) : Bool :=
  !field.isEmpty && (Base64.decode? (Bytes.ofString (String.ofList field))).isSome

/-- The credential of the fields of a hash. -/
def ofFields? : List (List Char) → Option Credential
  | prf :: iterations :: salt :: key :: rest =>
      match (readNumeral prf).bind Digest.ofPrfId?, readNumeral iterations with
      | some digest, some iterations =>
          if iterations = 0 ∨ !isSalt salt then none
          else
            match readKey digest key, rest with
            | some key, [] => some (ofSaltedPassword digest iterations (String.ofList salt) key)
            | some serverKey, [stored] =>
                (readKey digest stored).map fun storedKey =>
                  { digest, iterations, salt64 := String.ofList salt, serverKey, storedKey,
                    native := true }
            | _, _ => none
      | _, _ => none
  | _ => none

/-- The text behind the marker of stored hashes. -/
def body? : List Char → Option (List Char)
  | '$' :: 'z' :: '$' :: rest => some rest
  | _ => none

/-- The credential of a stored hash of either layout. -/
def ofHash? (hash : String) : Option Credential :=
  (body? hash.toList).bind fun body => ofFields? (Fields.split '$' body)

end Credential

end IrcSasl
