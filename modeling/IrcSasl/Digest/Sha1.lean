import IrcSasl.Digest.Words

set_option autoImplicit false

/-!
# SHA-1

Eighty rounds in four phases of twenty. Each phase mixes with a function and a constant of its own.
Every output has twenty bytes (`Sha1.length_output`). SHA-1 is here for older clients.
-/

namespace IrcSasl.Digest.Sha1

/-- The chaining state. -/
structure State where
  a : UInt32
  b : UInt32
  c : UInt32
  d : UInt32
  e : UInt32

/-- Sixteen consecutive words of the message schedule. -/
structure Window where
  w0 : UInt32
  w1 : UInt32
  w2 : UInt32
  w3 : UInt32
  w4 : UInt32
  w5 : UInt32
  w6 : UInt32
  w7 : UInt32
  w8 : UInt32
  w9 : UInt32
  w10 : UInt32
  w11 : UInt32
  w12 : UInt32
  w13 : UInt32
  w14 : UInt32
  w15 : UInt32

/-- The state before the first block. -/
def initial : State where
  a := 0x67452301
  b := 0xefcdab89
  c := 0x98badcfe
  d := 0x10325476
  e := 0xc3d2e1f0

/-- What a round mixes with. -/
inductive Phase where
  | choose
  | parity
  | majority
  | secondParity

/-- The mixing function of a phase. -/
@[inline] def Phase.mix (phase : Phase) (x y z : UInt32) : UInt32 :=
  match phase with
  | .choose => x &&& y ^^^ (~~~ x) &&& z
  | .parity => x ^^^ y ^^^ z
  | .majority => x &&& y ^^^ x &&& z ^^^ y &&& z
  | .secondParity => x ^^^ y ^^^ z

/-- The round constant of a phase. -/
@[inline] def Phase.constant : Phase → UInt32
  | .choose => 0x5a827999
  | .parity => 0x6ed9eba1
  | .majority => 0x8f1bbcdc
  | .secondParity => 0xca62c1d6

/-- The phase of each round. -/
def phases : List Phase :=
  List.replicate 20 .choose ++ List.replicate 20 .parity ++ List.replicate 20 .majority ++
    List.replicate 20 .secondParity

/-- Moves the window on: its oldest word leaves and the next schedule word enters. -/
@[inline] def Window.next : Window → Window
  | ⟨w0, w1, w2, w3, w4, w5, w6, w7, w8, w9, w10, w11, w12, w13, w14, w15⟩ =>
      ⟨w1, w2, w3, w4, w5, w6, w7, w8, w9, w10, w11, w12, w13, w14, w15,
       rotateLeft32 (w13 ^^^ w8 ^^^ w2 ^^^ w0) 1⟩

/-- One round, with its phase and schedule word. -/
@[inline] def State.round (phase : Phase) (word : UInt32) : State → State
  | ⟨a, b, c, d, e⟩ =>
      ⟨rotateLeft32 a 5 + phase.mix b c d + e + phase.constant + word, a, rotateLeft32 b 30, c, d⟩

/-- All rounds whose phases are given, in order. -/
def rounds : List Phase → Window → State → State
  | [], _, state => state
  | phase :: rest, window, state => rounds rest window.next (state.round phase window.w0)

/-- The wordwise sum, which closes a block. -/
def State.add (s t : State) : State :=
  ⟨s.a + t.a, s.b + t.b, s.c + t.c, s.d + t.d, s.e + t.e⟩

/-- Absorbs words, a block of sixteen at a time; words that do not fill a block are left out. -/
def absorbWords : List UInt32 → State → State
  | w0 :: w1 :: w2 :: w3 :: w4 :: w5 :: w6 :: w7 :: w8 :: w9 :: w10 :: w11 :: w12 :: w13 :: w14 ::
      w15 :: rest, state =>
      absorbWords rest
        (state.add (rounds phases
          ⟨w0, w1, w2, w3, w4, w5, w6, w7, w8, w9, w10, w11, w12, w13, w14, w15⟩ state))
  | _, state => state

/-- The bytes of a state. -/
def output (s : State) : Bytes :=
  bytes32 s.a ++ bytes32 s.b ++ bytes32 s.c ++ bytes32 s.d ++ bytes32 s.e

@[simp] theorem length_output (s : State) : (output s).length = 20 := by
  simp [output]

end IrcSasl.Digest.Sha1
