import IrcSasl.Base64
import IrcSasl.Limits

set_option autoImplicit false

/-!
# Putting messages together from frames

Frames are buffered until one comes that is shorter than a full frame, which ends the message. The
buffer is bounded. Whatever ends a message, also an error, leaves the buffer empty.
-/

namespace IrcSasl.Frame

/-- Why the frames of a client cannot be put together. -/
inductive FrameError where
  /-- A single frame of `length` bytes is longer than a frame may be. -/
  | oversized (length : Nat)
  /-- The message would be longer than the buffer. -/
  | overflow
  /-- The message is not base64. -/
  | decode (cause : Base64.DecodeError)
  deriving DecidableEq, Repr

/-- The wording of an error. -/
def FrameError.message : FrameError → String
  | .oversized length => s!"frame of {length} bytes is too long"
  | .overflow => "client has exceeded allowed data length"
  | .decode cause => s!"invalid base64: {cause.message}"

/-- The error behind an error. -/
def FrameError.cause? : FrameError → Option Base64.DecodeError
  | .decode cause => some cause
  | _ => none

/-- What a frame did. -/
inductive Decoded where
  /-- The client gave up. -/
  | abort
  /-- More frames are needed. -/
  | incomplete
  /-- A message is complete. -/
  | complete (message : Bytes)
  deriving DecidableEq, Repr

/-- The frames of a message that is not complete yet. -/
structure Decoder where
  /-- The base64 text so far. -/
  buffer : Bytes := []
  /-- The width of a full frame. -/
  width : Nat
  /-- The longest text that is buffered. -/
  limit : Nat
  deriving DecidableEq, Repr

namespace Decoder

/-- Drops what is buffered. -/
def clear (decoder : Decoder) : Decoder := { decoder with buffer := [] }

/-- Ends the message with what is buffered. -/
def decode (decoder : Decoder) : Except FrameError Bytes × Decoder :=
  ((Base64.decode decoder.buffer).mapError .decode, decoder.clear)

/-- Ends the message with what is buffered, as what a frame did. -/
def complete (decoder : Decoder) : Except FrameError Decoded × Decoder :=
  (decoder.decode.1.map .complete, decoder.decode.2)

/-- Adds a frame. The frame `*` gives up and `+` is an empty frame. -/
def add (decoder : Decoder) (frame : Bytes) : Except FrameError Decoded × Decoder :=
  if frame = Bytes.ofString Limits.abortMarker then (.ok .abort, decoder.clear)
  else if frame = Bytes.ofString Limits.emptyMarker then decoder.complete
  else if frame.length > decoder.width then (.error (.oversized frame.length), decoder.clear)
  else if decoder.buffer.length + frame.length > decoder.limit then
    (.error .overflow, decoder.clear)
  else
    let extended := { decoder with buffer := decoder.buffer ++ frame }
    if frame.length < decoder.width then extended.complete else (.ok .incomplete, extended)

end Decoder

end IrcSasl.Frame
