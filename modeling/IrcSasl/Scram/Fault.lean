import IrcSasl.Digest
import IrcSasl.Scram.Attributes

set_option autoImplicit false

/-!
# Faults of SCRAM messages

Every reason for which a SCRAM exchange ends without an attempt on a password, with the wording of
its log line and the token that the client gets to see (RFC 5802, section 7).
-/

namespace IrcSasl.Scram

/-- Why a message is not accepted. -/
inductive Fault where
  /-- The message is empty. -/
  | noData
  /-- The message has a NUL byte. -/
  | nulByte
  /-- The client asks for channel binding. -/
  | channelBinding
  /-- The message does not start with a GS2 header. -/
  | header
  /-- The name that the client wants to act as does not end. -/
  | openAuthzid
  /-- The name that the client wants to act as is too long. -/
  | authzidLength (length : Nat)
  /-- The name that the client wants to act as is no name. -/
  | authzid
  /-- The GS2 header does not end. -/
  | headerEnd
  /-- The message is not an attribute list. -/
  | attributes (cause : AttributeError)
  /-- The client insists on an extension. -/
  | extensions
  /-- An attribute is missing. -/
  | missingAttribute
  /-- The nonce of the client is too short or too long or not printable. -/
  | clientNonce
  /-- The name of the client is too long. -/
  | authcidLength (length : Nat)
  /-- The name of the client is no name. -/
  | authcid
  /-- The client cannot log in. -/
  | authcidRefused
  /-- The client cannot log in as whom it wants to act. -/
  | authzidRefused
  /-- The account that was just found is not there. -/
  | accountMissing
  /-- The account does not allow passwords. -/
  | passwordDisabled (account : String)
  /-- The account has no hash stored. -/
  | notEncrypted (account : String)
  /-- The hash of the account is not one for SCRAM. -/
  | incompatibleHash (account : String)
  /-- The hash of the account was made with another digest than the client uses. -/
  | digestMismatch (server client : Digest)
  /-- The random source failed. -/
  | randomSource
  /-- The account went away during the exchange. -/
  | accountDropped
  /-- The nonce is not the one of this exchange. -/
  | nonceMismatch
  /-- The GS2 header is not the one of this exchange. -/
  | headerMismatch
  /-- The proof is not base64 of the length of the digest. -/
  | malformedProof
  /-- A client that named no account has proved that it knows the password. -/
  | unknownAccount
  /-- The state of the session is not that of a SCRAM exchange. -/
  | foreignState
  deriving DecidableEq, Repr

namespace Fault

/-- Whether a fault is that of the server. -/
def isInternal : Fault → Bool
  | .accountMissing | .randomSource | .unknownAccount | .foreignState => true
  | _ => false

/-- The wording of the log line. -/
def message : Fault → String
  | .noData => "no data received from client"
  | .nulByte => "NUL byte in data received from client"
  | .channelBinding => "channel binding requested but unsupported"
  | .header => "malformed GS2 header"
  | .openAuthzid => "malformed GS2 header (no end to authzid)"
  | .authzidLength length => s!"unacceptable authzid length {length}"
  | .authzid => "invalid authzid"
  | .headerEnd => "malformed GS2 header (bad authzid section)"
  | .attributes cause => cause.message
  | .extensions => "extensions are not supported"
  | .missingAttribute => "required attribute missing"
  | .clientNonce => "client nonce unacceptable"
  | .authcidLength length => s!"unacceptable authcid length {length}"
  | .authcid => "invalid authcid"
  | .authcidRefused => "authcid_can_login failed"
  | .authzidRefused => "authzid_can_login failed"
  | .accountMissing => "resolved account is missing (BUG)"
  | .passwordDisabled account => s!"password authentication disabled for {account}"
  | .notEncrypted account => s!"password of {account} is not encrypted"
  | .incompatibleHash account => s!"hash of {account} is not SCRAM-compatible"
  | .digestMismatch server client =>
      s!"digest mismatch: server({server.name}) != client({client.name})"
  | .randomSource => "random number generator failed (BUG?)"
  | .accountDropped => "account dropped during negotiation"
  | .nonceMismatch => "nonce sent by client doesn't match nonce we sent"
  | .headerMismatch => "GS2 header mismatch"
  | .malformedProof => "ClientProof is malformed"
  | .unknownAccount => "unknown account passed verification (BUG)"
  | .foreignState => "foreign mechanism state (BUG)"

/-- The token that the client gets to see. -/
def token : Fault → String
  | .channelBinding => "channel-binding-not-supported"
  | .authzidLength _ => "authzid-too-long"
  | .authcidLength _ => "authcid-too-long"
  | .authzid | .authcid => "invalid-username-encoding"
  | .extensions => "extensions-not-supported"
  | .clientNonce | .nonceMismatch => "nonce-unacceptable"
  | .digestMismatch _ _ => "digest-algorithm-mismatch"
  | _ => "other-error"

end Fault

end IrcSasl.Scram
