import IrcSasl.Base64
import IrcSasl.Limits

set_option autoImplicit false

/-!
# Cutting messages into frames

A message goes over the wire as its base64 text, cut into frames of at most some width. A message
whose text is empty or exactly fills its last frame is closed by the frame `+`, so that the receiver
knows that nothing more is coming.
-/

namespace IrcSasl.Frame

/-- The frames of a message that have not been taken yet. -/
inductive Encoder where
  /-- All frames were taken. -/
  | finished
  /-- The base64 text `rest` remains, for frames of `width` bytes. -/
  | sending (rest : Bytes) (width : Nat) (positive : 0 < width)

namespace Encoder

/-- The frames of a message. Frames of width zero carry nothing, so there are none of them. -/
def ofMessage (message : Bytes) (width : Nat) : Encoder :=
  if positive : 0 < width then .sending (Base64.encode message) width positive else .finished

/-- Takes the next frame. -/
def next? : Encoder → Option (String × Encoder)
  | .finished => none
  | .sending [] _ _ => some (Limits.emptyMarker, .finished)
  | .sending rest width positive =>
      some (Bytes.asciiText (rest.take width),
        if rest.length < width then .finished else .sending (rest.drop width) width positive)

/-- How many frames remain. A text that exactly fills its last frame needs one more. -/
def remaining : Encoder → Nat
  | .finished => 0
  | .sending rest width _ => rest.length / width + 1

/-- Whether all frames were taken. -/
def isFinished : Encoder → Bool
  | .finished => true
  | .sending .. => false

/-- The bytes that taking frames uses up, which bounds the frames that remain. -/
def measure : Encoder → Nat
  | .finished => 0
  | .sending rest _ _ => rest.length + 1

theorem measure_lt_of_next? {encoder after : Encoder} {frame : String}
    (taken : encoder.next? = some (frame, after)) : after.measure < encoder.measure := by
  match encoder with
  | .finished => simp [next?] at taken
  | .sending [] width positive =>
      simp only [next?, Option.some.injEq, Prod.mk.injEq] at taken
      simp [← taken.2, measure]
  | .sending (byte :: rest) width positive =>
      simp only [next?, Option.some.injEq, Prod.mk.injEq] at taken
      rw [← taken.2]
      split
      · simp [measure]
      · simp only [measure, List.length_drop, List.length_cons]
        omega

/-- All frames that remain, in order. -/
def toList (encoder : Encoder) : List String :=
  match _h : encoder.next? with
  | none => []
  | some (frame, after) => frame :: after.toList
termination_by encoder.measure
decreasing_by exact measure_lt_of_next? _h

end Encoder

/-- The frames in which a message is sent. -/
def ofMessage (message : Bytes) : List String :=
  (Encoder.ofMessage message Limits.frameLength).toList

end IrcSasl.Frame
