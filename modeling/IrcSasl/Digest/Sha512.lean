import IrcSasl.Digest.Words

set_option autoImplicit false

/-!
# SHA-512

The same construction as SHA-256 over 64-bit words, with eighty rounds. Every output has sixty-four
bytes (`Sha512.length_output`).
-/

namespace IrcSasl.Digest.Sha512

/-- The chaining state. -/
structure State where
  a : UInt64
  b : UInt64
  c : UInt64
  d : UInt64
  e : UInt64
  f : UInt64
  g : UInt64
  h : UInt64

/-- Sixteen consecutive words of the message schedule. -/
structure Window where
  w0 : UInt64
  w1 : UInt64
  w2 : UInt64
  w3 : UInt64
  w4 : UInt64
  w5 : UInt64
  w6 : UInt64
  w7 : UInt64
  w8 : UInt64
  w9 : UInt64
  w10 : UInt64
  w11 : UInt64
  w12 : UInt64
  w13 : UInt64
  w14 : UInt64
  w15 : UInt64

/-- The state before the first block. -/
def initial : State where
  a := 0x6a09e667f3bcc908
  b := 0xbb67ae8584caa73b
  c := 0x3c6ef372fe94f82b
  d := 0xa54ff53a5f1d36f1
  e := 0x510e527fade682d1
  f := 0x9b05688c2b3e6c1f
  g := 0x1f83d9abfb41bd6b
  h := 0x5be0cd19137e2179

/-- The round constants. -/
def roundConstants : List UInt64 :=
  [0x428a2f98d728ae22, 0x7137449123ef65cd, 0xb5c0fbcfec4d3b2f, 0xe9b5dba58189dbbc,
   0x3956c25bf348b538, 0x59f111f1b605d019, 0x923f82a4af194f9b, 0xab1c5ed5da6d8118,
   0xd807aa98a3030242, 0x12835b0145706fbe, 0x243185be4ee4b28c, 0x550c7dc3d5ffb4e2,
   0x72be5d74f27b896f, 0x80deb1fe3b1696b1, 0x9bdc06a725c71235, 0xc19bf174cf692694,
   0xe49b69c19ef14ad2, 0xefbe4786384f25e3, 0x0fc19dc68b8cd5b5, 0x240ca1cc77ac9c65,
   0x2de92c6f592b0275, 0x4a7484aa6ea6e483, 0x5cb0a9dcbd41fbd4, 0x76f988da831153b5,
   0x983e5152ee66dfab, 0xa831c66d2db43210, 0xb00327c898fb213f, 0xbf597fc7beef0ee4,
   0xc6e00bf33da88fc2, 0xd5a79147930aa725, 0x06ca6351e003826f, 0x142929670a0e6e70,
   0x27b70a8546d22ffc, 0x2e1b21385c26c926, 0x4d2c6dfc5ac42aed, 0x53380d139d95b3df,
   0x650a73548baf63de, 0x766a0abb3c77b2a8, 0x81c2c92e47edaee6, 0x92722c851482353b,
   0xa2bfe8a14cf10364, 0xa81a664bbc423001, 0xc24b8b70d0f89791, 0xc76c51a30654be30,
   0xd192e819d6ef5218, 0xd69906245565a910, 0xf40e35855771202a, 0x106aa07032bbd1b8,
   0x19a4c116b8d2d0c8, 0x1e376c085141ab53, 0x2748774cdf8eeb99, 0x34b0bcb5e19b48a8,
   0x391c0cb3c5c95a63, 0x4ed8aa4ae3418acb, 0x5b9cca4f7763e373, 0x682e6ff3d6b2b8a3,
   0x748f82ee5defb2fc, 0x78a5636f43172f60, 0x84c87814a1f0ab72, 0x8cc702081a6439ec,
   0x90befffa23631e28, 0xa4506cebde82bde9, 0xbef9a3f7b2c67915, 0xc67178f2e372532b,
   0xca273eceea26619c, 0xd186b8c721c0c207, 0xeada7dd6cde0eb1e, 0xf57d4f7fee6ed178,
   0x06f067aa72176fba, 0x0a637dc5a2c898a6, 0x113f9804bef90dae, 0x1b710b35131c471b,
   0x28db77f523047d84, 0x32caab7b40c72493, 0x3c9ebe0a15c9bebc, 0x431d67c49c100d4c,
   0x4cc5d4becb3e42b6, 0x597f299cfc657e2a, 0x5fcb6fab3ad6faec, 0x6c44198c4a475817]

@[inline] def smallSigma0 (x : UInt64) : UInt64 :=
  rotateRight64 x 1 ^^^ rotateRight64 x 8 ^^^ x >>> 7

@[inline] def smallSigma1 (x : UInt64) : UInt64 :=
  rotateRight64 x 19 ^^^ rotateRight64 x 61 ^^^ x >>> 6

@[inline] def bigSigma0 (x : UInt64) : UInt64 :=
  rotateRight64 x 28 ^^^ rotateRight64 x 34 ^^^ rotateRight64 x 39

@[inline] def bigSigma1 (x : UInt64) : UInt64 :=
  rotateRight64 x 14 ^^^ rotateRight64 x 18 ^^^ rotateRight64 x 41

@[inline] def choose (x y z : UInt64) : UInt64 := x &&& y ^^^ (~~~ x) &&& z

@[inline] def majority (x y z : UInt64) : UInt64 := x &&& y ^^^ x &&& z ^^^ y &&& z

/-- Moves the window on: its oldest word leaves and the next schedule word enters. -/
@[inline] def Window.next : Window → Window
  | ⟨w0, w1, w2, w3, w4, w5, w6, w7, w8, w9, w10, w11, w12, w13, w14, w15⟩ =>
      ⟨w1, w2, w3, w4, w5, w6, w7, w8, w9, w10, w11, w12, w13, w14, w15,
       smallSigma1 w14 + w9 + smallSigma0 w1 + w0⟩

/-- One round, with the round's constant and schedule word. -/
@[inline] def State.round (constant word : UInt64) : State → State
  | ⟨a, b, c, d, e, f, g, h⟩ =>
      let t1 := h + bigSigma1 e + choose e f g + constant + word
      let t2 := bigSigma0 a + majority a b c
      ⟨t1 + t2, a, b, c, d + t1, e, f, g⟩

/-- All rounds whose constants are given, in order. -/
def rounds : List UInt64 → Window → State → State
  | [], _, state => state
  | constant :: rest, window, state =>
      rounds rest window.next (state.round constant window.w0)

/-- The wordwise sum, which closes a block. -/
def State.add (s t : State) : State :=
  ⟨s.a + t.a, s.b + t.b, s.c + t.c, s.d + t.d, s.e + t.e, s.f + t.f, s.g + t.g, s.h + t.h⟩

/-- Absorbs words, a block of sixteen at a time; words that do not fill a block are left out. -/
def absorbWords : List UInt64 → State → State
  | w0 :: w1 :: w2 :: w3 :: w4 :: w5 :: w6 :: w7 :: w8 :: w9 :: w10 :: w11 :: w12 :: w13 :: w14 ::
      w15 :: rest, state =>
      absorbWords rest
        (state.add (rounds roundConstants
          ⟨w0, w1, w2, w3, w4, w5, w6, w7, w8, w9, w10, w11, w12, w13, w14, w15⟩ state))
  | _, state => state

/-- The bytes of a state. -/
def output (s : State) : Bytes :=
  bytes64 s.a ++ bytes64 s.b ++ bytes64 s.c ++ bytes64 s.d ++ bytes64 s.e ++ bytes64 s.f ++
    bytes64 s.g ++ bytes64 s.h

@[simp] theorem length_output (s : State) : (output s).length = 64 := by
  simp [output]

end IrcSasl.Digest.Sha512
