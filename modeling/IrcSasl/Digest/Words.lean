import IrcSasl.Bytes

set_option autoImplicit false

/-!
# Big-endian words

The SHA functions work on 32-bit or 64-bit words, which are written into bytes with the most
significant byte first.
-/

namespace IrcSasl.Digest

/-- The four bytes of a word. -/
def bytes32 (word : UInt32) : Bytes :=
  [(word >>> 24).toUInt8, (word >>> 16).toUInt8, (word >>> 8).toUInt8, word.toUInt8]

/-- The eight bytes of a word. -/
def bytes64 (word : UInt64) : Bytes :=
  [(word >>> 56).toUInt8, (word >>> 48).toUInt8, (word >>> 40).toUInt8, (word >>> 32).toUInt8,
   (word >>> 24).toUInt8, (word >>> 16).toUInt8, (word >>> 8).toUInt8, word.toUInt8]

/-- The word with these four bytes. -/
@[inline] def word32 (b3 b2 b1 b0 : UInt8) : UInt32 :=
  b3.toUInt32 <<< 24 ||| b2.toUInt32 <<< 16 ||| b1.toUInt32 <<< 8 ||| b0.toUInt32

/-- The word with these two halves. -/
@[inline] def word64 (high low : UInt32) : UInt64 := high.toUInt64 <<< 32 ||| low.toUInt64

/-- Reads a byte string as 32-bit words; up to three bytes at its end are left out. -/
def words32 : Bytes → List UInt32
  | b3 :: b2 :: b1 :: b0 :: rest => word32 b3 b2 b1 b0 :: words32 rest
  | _ => []

/-- Reads a byte string as 64-bit words; up to seven bytes at its end are left out. -/
def words64 : Bytes → List UInt64
  | b7 :: b6 :: b5 :: b4 :: b3 :: b2 :: b1 :: b0 :: rest =>
      word64 (word32 b7 b6 b5 b4) (word32 b3 b2 b1 b0) :: words64 rest
  | _ => []

/-- Rotation to the right by `count` bits, for `0 < count < 32`. -/
@[inline] def rotateRight32 (word count : UInt32) : UInt32 :=
  word >>> count ||| word <<< (32 - count)

/-- Rotation to the left by `count` bits, for `0 < count < 32`. -/
@[inline] def rotateLeft32 (word count : UInt32) : UInt32 :=
  word <<< count ||| word >>> (32 - count)

/-- Rotation to the right by `count` bits, for `0 < count < 64`. -/
@[inline] def rotateRight64 (word count : UInt64) : UInt64 :=
  word >>> count ||| word <<< (64 - count)

@[simp] theorem length_bytes32 (word : UInt32) : (bytes32 word).length = 4 := rfl

@[simp] theorem length_bytes64 (word : UInt64) : (bytes64 word).length = 8 := rfl

end IrcSasl.Digest
