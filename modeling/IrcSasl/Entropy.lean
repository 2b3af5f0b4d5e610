import IrcSasl.Bytes

set_option autoImplicit false

/-!
# Random bytes

Salts, nonces and secrets are drawn from a source that is fixed in advance: each draw either fails
or gives a stream of bytes, of which as many are used as are wanted. A draw that fails still counts.
`Entropy.length_fill` says that a draw gives exactly the bytes asked for.
-/

namespace IrcSasl

/-- A source of random bytes. -/
structure Entropy where
  /-- What each draw gives: nothing if it fails, else the byte at every place. -/
  source : Nat → Option (Nat → UInt8)
  /-- How many draws were made. -/
  drawn : Nat := 0

namespace Entropy

/-- Draws `length` bytes. -/
def fill (length : Nat) (entropy : Entropy) : Option Bytes × Entropy :=
  ((entropy.source entropy.drawn).map (List.range length).map,
    { entropy with drawn := entropy.drawn + 1 })

/-- The source whose bytes grow by 11 from place to place and by 37 from draw to draw, except for
the draws that fail. -/
def arithmetic (seed : Nat) (failing : List Nat) : Entropy where
  source draw :=
    if draw ∈ failing then none else some fun place => UInt8.ofNat (seed + 37 * draw + 11 * place)

theorem length_fill {length : Nat} {entropy after : Entropy} {bytes : Bytes}
    (drawn : entropy.fill length = (some bytes, after)) : bytes.length = length := by
  simp only [fill, Prod.mk.injEq, Option.map_eq_some_iff] at drawn
  obtain ⟨⟨stream, -, rfl⟩, -⟩ := drawn
  simp

end Entropy

end IrcSasl
