import IrcSasl.Digest.HashFunction

set_option autoImplicit false

/-!
# Digest algorithms

The digests that SCRAM mechanisms and password hashes can use. Each has a SCRAM mechanism of its
own, and a number that stands for it in stored hashes.
-/

namespace IrcSasl

/-- A digest algorithm. -/
inductive Digest where
  /-- SHA-1. Only there for older clients. -/
  | sha1
  /-- SHA-256. -/
  | sha256
  /-- SHA-512. -/
  | sha512
  deriving DecidableEq, Repr

namespace Digest

instance : Inhabited Digest := ⟨.sha256⟩

/-- Every algorithm, weakest first. -/
def all : List Digest := [.sha1, .sha256, .sha512]

/-- The hash function of an algorithm. -/
def function : Digest → HashFunction
  | .sha1 => .sha1
  | .sha256 => .sha256
  | .sha512 => .sha512

/-- The bytes of a hash. -/
def outputLength : Digest → Nat
  | .sha1 => 20
  | .sha256 => 32
  | .sha512 => 64

/-- The name of the SCRAM mechanism that uses an algorithm. -/
def scramName : Digest → String
  | .sha1 => "SCRAM-SHA-1"
  | .sha256 => "SCRAM-SHA-256"
  | .sha512 => "SCRAM-SHA-512"

/-- The name of an algorithm. -/
def name : Digest → String
  | .sha1 => "SHA-1"
  | .sha256 => "SHA-256"
  | .sha512 => "SHA-512"

/-- The name of an algorithm without its hyphen. -/
def shortName : Digest → String
  | .sha1 => "SHA1"
  | .sha256 => "SHA256"
  | .sha512 => "SHA512"

/-- The name of an algorithm in descriptions of its owner. -/
def label : Digest → String
  | .sha1 => "Sha1"
  | .sha256 => "Sha256"
  | .sha512 => "Sha512"

/-- The number that stands for an algorithm in stored hashes. -/
def prfId : Digest → UInt32
  | .sha1 => 64
  | .sha256 => 65
  | .sha512 => 66

/-- The algorithm that a number in a stored hash stands for. -/
def ofPrfId? (id : UInt32) : Option Digest := all.find? fun digest => digest.prfId = id

/-- The algorithm of an exact name, with or without its hyphen. -/
def ofExactName? (name : String) : Option Digest :=
  all.find? fun digest => name = digest.shortName || name = digest.name

/-- The algorithm of a name in any case, with or without its hyphen. -/
def ofName? (name : String) : Option Digest :=
  ofExactName? (String.ofList (name.toList.map Char.toUpper))

/-- The names of the SCRAM mechanisms that use other algorithms. They cannot succeed against a
credential of this one. -/
def avoidList (digest : Digest) : List String :=
  (all.filter (· ≠ digest)).map scramName

/-- The hash of a message. -/
def hash (digest : Digest) (message : Bytes) : Bytes := digest.function.hash message

/-- The keyed hash of a message. -/
def hmac (digest : Digest) (key message : Bytes) : Bytes := digest.function.hmac key message

/-- A key of digest length derived from a secret. -/
def pbkdf2 (digest : Digest) (iterations : UInt32) (salt secret : Bytes) : Bytes :=
  digest.function.pbkdf2 iterations.toNat salt secret

@[simp] theorem outputLength_function (digest : Digest) :
    digest.function.outputLength = digest.outputLength := by
  cases digest <;> rfl

@[simp] theorem length_hash (digest : Digest) (message : Bytes) :
    (digest.hash message).length = digest.outputLength := by
  simp [hash]

@[simp] theorem length_hmac (digest : Digest) (key message : Bytes) :
    (digest.hmac key message).length = digest.outputLength := by
  simp [hmac]

@[simp] theorem length_pbkdf2 (digest : Digest) (iterations : UInt32) (salt secret : Bytes) :
    (digest.pbkdf2 iterations salt secret).length = digest.outputLength := by
  simp [pbkdf2]

end Digest

end IrcSasl
