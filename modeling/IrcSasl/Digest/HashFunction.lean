import IrcSasl.Digest.Sha1
import IrcSasl.Digest.Sha256
import IrcSasl.Digest.Sha512

set_option autoImplicit false

/-!
# Hashes, keyed hashes and key derivation

SHA-1, SHA-256 and SHA-512 chain a state through message blocks. On that common form this module
builds the hash itself, the keyed hash HMAC and one block of the key derivation PBKDF2. The length
of every result is the output length of the hash, by `HashFunction.length_hash`,
`HashFunction.length_hmac` and `HashFunction.length_pbkdf2`.
-/

namespace IrcSasl.Digest

/-- A hash function that chains a state through the blocks of a padded message. -/
structure HashFunction where
  /-- The chaining state. -/
  State : Type
  /-- The bytes in one block. -/
  blockLength : Nat
  /-- The bytes of the length field that ends the padding. -/
  lengthField : Nat
  /-- The bytes of the result. -/
  outputLength : Nat
  /-- The state before the first block. -/
  initial : State
  /-- Absorbs whole blocks. -/
  absorb : Bytes → State → State
  /-- The bytes of the result. -/
  output : State → Bytes
  length_output : ∀ state, (output state).length = outputLength

/-- The SHA-1 hash function. -/
def HashFunction.sha1 : HashFunction where
  State := Sha1.State
  blockLength := 64
  lengthField := 8
  outputLength := 20
  initial := Sha1.initial
  absorb := fun block state => Sha1.absorbWords (words32 block) state
  output := Sha1.output
  length_output := Sha1.length_output

/-- The SHA-256 hash function. -/
def HashFunction.sha256 : HashFunction where
  State := Sha256.State
  blockLength := 64
  lengthField := 8
  outputLength := 32
  initial := Sha256.initial
  absorb := fun block state => Sha256.absorbWords (words32 block) state
  output := Sha256.output
  length_output := Sha256.length_output

/-- The SHA-512 hash function. -/
def HashFunction.sha512 : HashFunction where
  State := Sha512.State
  blockLength := 128
  lengthField := 16
  outputLength := 64
  initial := Sha512.initial
  absorb := fun block state => Sha512.absorbWords (words64 block) state
  output := Sha512.output
  length_output := Sha512.length_output

namespace HashFunction

/-- The big-endian bytes of a number, in a field of `width` bytes. -/
def bigEndian : Nat → Nat → Bytes
  | 0, _ => []
  | width + 1, number => bigEndian width (number / 256) ++ [UInt8.ofNat number]

/-- What follows a message of `length` bytes: the bit 1, zeros up to the length field of the last
block, and the length in bits. -/
def padding (function : HashFunction) (length : Nat) : Bytes :=
  let used := length + 1 + function.lengthField
  let zeros := (function.blockLength - used % function.blockLength) % function.blockLength
  0x80 :: (List.replicate zeros 0 ++ bigEndian function.lengthField (8 * length))

/-- Ends a message of which `state` has absorbed the first blocks and `rest` is what remains. The
padding is that of the whole message. -/
@[inline] def finish (function : HashFunction) (state : function.State) (rest padding : Bytes) :
    Bytes :=
  function.output (function.absorb (rest ++ padding) state)

/-- The hash of a message. -/
def hash (function : HashFunction) (message : Bytes) : Bytes :=
  function.finish function.initial message (function.padding message.length)

/-- A key of HMAC, in the form in which it is used: the states after the two key blocks. -/
structure Key (function : HashFunction) where
  /-- The state after the key block of the inner hash. -/
  inner : function.State
  /-- The state after the key block of the outer hash. -/
  outer : function.State

/-- A key fills exactly one block: a longer one is hashed first, and zeros fill up the rest. -/
def keyBlock (function : HashFunction) (key : Bytes) : Bytes :=
  Bytes.resize function.blockLength
    (if key.length ≤ function.blockLength then key else function.hash key)

/-- Prepares a key. -/
def key (function : HashFunction) (key : Bytes) : function.Key :=
  let block := function.keyBlock key
  { inner := function.absorb (block.map (· ^^^ 0x36)) function.initial
    outer := function.absorb (block.map (· ^^^ 0x5c)) function.initial }

/-- The keyed hash of a message, given the two paddings that its length calls for. -/
@[inline] def Key.signPadded {function : HashFunction} (key : function.Key)
    (innerPadding outerPadding message : Bytes) : Bytes :=
  function.finish key.outer (function.finish key.inner message innerPadding) outerPadding

/-- The padding of a message that follows a key block. -/
def keyedPadding (function : HashFunction) (length : Nat) : Bytes :=
  function.padding (function.blockLength + length)

/-- The keyed hash of a message. -/
def Key.sign {function : HashFunction} (key : function.Key) (message : Bytes) : Bytes :=
  key.signPadded (function.keyedPadding message.length)
    (function.keyedPadding function.outputLength) message

/-- HMAC of a message under a key. -/
def hmac (function : HashFunction) (key message : Bytes) : Bytes := (function.key key).sign message

/-- Adds `count` further keyed hashes to `sum`, each of the one before it. -/
def strengthen {function : HashFunction} (key : function.Key) (padding : Bytes) :
    Nat → Bytes → Bytes → Bytes
  | 0, _, sum => sum
  | count + 1, last, sum =>
      let next := key.signPadded padding padding last
      strengthen key padding count next (Bytes.xor sum next)

/-- The first block of PBKDF2 with `iterations` keyed hashes. At least one is always made. -/
def pbkdf2 (function : HashFunction) (iterations : Nat) (salt secret : Bytes) : Bytes :=
  let key := function.key secret
  let first := key.sign (salt ++ [0, 0, 0, 1])
  strengthen key (function.keyedPadding function.outputLength) (iterations - 1) first first

@[simp] theorem length_hash (function : HashFunction) (message : Bytes) :
    (function.hash message).length = function.outputLength :=
  function.length_output _

@[simp] theorem length_signPadded {function : HashFunction} (key : function.Key)
    (innerPadding outerPadding message : Bytes) :
    (key.signPadded innerPadding outerPadding message).length = function.outputLength :=
  function.length_output _

@[simp] theorem length_hmac (function : HashFunction) (key message : Bytes) :
    (function.hmac key message).length = function.outputLength :=
  function.length_output _

theorem length_strengthen {function : HashFunction} (key : function.Key) (padding : Bytes)
    (count : Nat) (last sum : Bytes) (width : sum.length = function.outputLength) :
    (strengthen key padding count last sum).length = function.outputLength := by
  induction count generalizing last sum with
  | zero => exact width
  | succ count ih => exact ih _ _ (by simp [Bytes.xor, width])

@[simp] theorem length_pbkdf2 (function : HashFunction) (iterations : Nat) (salt secret : Bytes) :
    (function.pbkdf2 iterations salt secret).length = function.outputLength :=
  length_strengthen _ _ _ _ _ (function.length_output _)

end HashFunction

end IrcSasl.Digest
