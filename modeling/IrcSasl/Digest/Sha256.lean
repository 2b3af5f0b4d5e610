import IrcSasl.Digest.Words

set_option autoImplicit false

/-!
# SHA-256

The chaining state is eight words, and so every output has thirty-two bytes
(`Sha256.length_output`). The message schedule is a window of the last sixteen schedule words that
moves on by one word a round.
-/

namespace IrcSasl.Digest.Sha256

/-- The chaining state. -/
structure State where
  a : UInt32
  b : UInt32
  c : UInt32
  d : UInt32
  e : UInt32
  f : UInt32
  g : UInt32
  h : UInt32

/-- Sixteen consecutive words of the message schedule. -/
structure Window where
  w0 : UInt32
  w1 : UInt32
  w2 : UInt32
  w3 : UInt32
  w4 : UInt32
  w5 : UInt32
  w6 : UInt32
  w7 : UInt32
  w8 : UInt32
  w9 : UInt32
  w10 : UInt32
  w11 : UInt32
  w12 : UInt32
  w13 : UInt32
  w14 : UInt32
  w15 : UInt32

/-- The state before the first block. -/
def initial : State where
  a := 0x6a09e667
  b := 0xbb67ae85
  c := 0x3c6ef372
  d := 0xa54ff53a
  e := 0x510e527f
  f := 0x9b05688c
  g := 0x1f83d9ab
  h := 0x5be0cd19

/-- The round constants. -/
def roundConstants : List UInt32 :=
  [0x428a2f98, 0x71374491, 0xb5c0fbcf, 0xe9b5dba5, 0x3956c25b, 0x59f111f1, 0x923f82a4, 0xab1c5ed5,
   0xd807aa98, 0x12835b01, 0x243185be, 0x550c7dc3, 0x72be5d74, 0x80deb1fe, 0x9bdc06a7, 0xc19bf174,
   0xe49b69c1, 0xefbe4786, 0x0fc19dc6, 0x240ca1cc, 0x2de92c6f, 0x4a7484aa, 0x5cb0a9dc, 0x76f988da,
   0x983e5152, 0xa831c66d, 0xb00327c8, 0xbf597fc7, 0xc6e00bf3, 0xd5a79147, 0x06ca6351, 0x14292967,
   0x27b70a85, 0x2e1b2138, 0x4d2c6dfc, 0x53380d13, 0x650a7354, 0x766a0abb, 0x81c2c92e, 0x92722c85,
   0xa2bfe8a1, 0xa81a664b, 0xc24b8b70, 0xc76c51a3, 0xd192e819, 0xd6990624, 0xf40e3585, 0x106aa070,
   0x19a4c116, 0x1e376c08, 0x2748774c, 0x34b0bcb5, 0x391c0cb3, 0x4ed8aa4a, 0x5b9cca4f, 0x682e6ff3,
   0x748f82ee, 0x78a5636f, 0x84c87814, 0x8cc70208, 0x90befffa, 0xa4506ceb, 0xbef9a3f7, 0xc67178f2]

@[inline] def smallSigma0 (x : UInt32) : UInt32 :=
  rotateRight32 x 7 ^^^ rotateRight32 x 18 ^^^ x >>> 3

@[inline] def smallSigma1 (x : UInt32) : UInt32 :=
  rotateRight32 x 17 ^^^ rotateRight32 x 19 ^^^ x >>> 10

@[inline] def bigSigma0 (x : UInt32) : UInt32 :=
  rotateRight32 x 2 ^^^ rotateRight32 x 13 ^^^ rotateRight32 x 22

@[inline] def bigSigma1 (x : UInt32) : UInt32 :=
  rotateRight32 x 6 ^^^ rotateRight32 x 11 ^^^ rotateRight32 x 25

@[inline] def choose (x y z : UInt32) : UInt32 := x &&& y ^^^ (~~~ x) &&& z

@[inline] def majority (x y z : UInt32) : UInt32 := x &&& y ^^^ x &&& z ^^^ y &&& z

/-- Moves the window on: its oldest word leaves and the next schedule word enters. -/
@[inline] def Window.next : Window → Window
  | ⟨w0, w1, w2, w3, w4, w5, w6, w7, w8, w9, w10, w11, w12, w13, w14, w15⟩ =>
      ⟨w1, w2, w3, w4, w5, w6, w7, w8, w9, w10, w11, w12, w13, w14, w15,
       smallSigma1 w14 + w9 + smallSigma0 w1 + w0⟩

/-- One round, with the round's constant and schedule word. -/
@[inline] def State.round (constant word : UInt32) : State → State
  | ⟨a, b, c, d, e, f, g, h⟩ =>
      let t1 := h + bigSigma1 e + choose e f g + constant + word
      let t2 := bigSigma0 a + majority a b c
      ⟨t1 + t2, a, b, c, d + t1, e, f, g⟩

/-- All rounds whose constants are given, in order. -/
def rounds : List UInt32 → Window → State → State
  | [], _, state => state
  | constant :: rest, window, state =>
      rounds rest window.next (state.round constant window.w0)

/-- The wordwise sum, which closes a block. -/
def State.add (s t : State) : State :=
  ⟨s.a + t.a, s.b + t.b, s.c + t.c, s.d + t.d, s.e + t.e, s.f + t.f, s.g + t.g, s.h + t.h⟩

/-- Absorbs words, a block of sixteen at a time; words that do not fill a block are left out. -/
def absorbWords : List UInt32 → State → State
  | w0 :: w1 :: w2 :: w3 :: w4 :: w5 :: w6 :: w7 :: w8 :: w9 :: w10 :: w11 :: w12 :: w13 :: w14 ::
      w15 :: rest, state =>
      absorbWords rest
        (state.add (rounds roundConstants
          ⟨w0, w1, w2, w3, w4, w5, w6, w7, w8, w9, w10, w11, w12, w13, w14, w15⟩ state))
  | _, state => state

/-- The bytes of a state. -/
def output (s : State) : Bytes :=
  bytes32 s.a ++ bytes32 s.b ++ bytes32 s.c ++ bytes32 s.d ++ bytes32 s.e ++ bytes32 s.f ++
    bytes32 s.g ++ bytes32 s.h

@[simp] theorem length_output (s : State) : (output s).length = 32 := by
  simp [output]

end IrcSasl.Digest.Sha256
