set_option autoImplicit false

/-!
# Well-known values and limits

These are the limits that IRC servers place on `AUTHENTICATE` traffic, the bounds of SCRAM nonces,
and the bounds and defaults of password hashing.
-/

namespace IrcSasl.Limits

/-- What a client sends in place of data to abort authentication. -/
def abortMarker : String := "*"

/-- Stands for an empty field, and ends a message that exactly fills its last frame. -/
def emptyMarker : String := "+"

/-- The longest base64 text of one frame. -/
def frameLength : Nat := 400

/-- The most raw data that fits into one frame. -/
def frameLengthRaw : Nat := 300

/-- The longest base64 text that is buffered as one message. -/
def bufferLength : Nat := 4096

/-- The most raw data that is buffered as one message. -/
def bufferLengthRaw : Nat := 3072

/-- The longest name of a mechanism, in bytes. -/
def mechanismNameLength : Nat := 59

/-- The longest name of an account, in bytes. -/
def accountNameLength : Nat := 50

/-- The seconds between sweeps. A session is destroyed by the second sweep that finds it idle. -/
def sweepSeconds : Nat := 30

/-- The highest iteration count that Cyrus SASL clients process. -/
def cyrusIterations : UInt32 := 0x10000

/-- The length of the server's part of a combined nonce, in base64. -/
def nonceLength : Nat := 64

/-- The raw length of the server's part of a combined nonce. -/
def nonceLengthRaw : Nat := nonceLength / 4 * 3

/-- The shortest acceptable client nonce. -/
def clientNonceMin : Nat := 8

/-- The longest acceptable client nonce. -/
def clientNonceMax : Nat := 512

/-- The lowest iteration count of new hashes. -/
def iterationsMin : UInt32 := 10000

/-- The highest iteration count of new hashes. -/
def iterationsMax : UInt32 := 5000000

/-- The iteration count of new hashes where none is configured. -/
def iterationsDefault : UInt32 := 64000

/-- The shortest salt of new hashes, in bytes. -/
def saltLengthMin : Nat := 8

/-- The longest salt of new hashes, in bytes. -/
def saltLengthMax : Nat := 64

/-- The salt length of new hashes where none is configured. -/
def saltLengthDefault : Nat := 32

end IrcSasl.Limits
