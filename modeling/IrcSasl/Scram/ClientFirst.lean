import IrcSasl.Limits
import IrcSasl.Scram.Fault
import IrcSasl.Text.SaslName
import IrcSasl.Text.SaslPrep

set_option autoImplicit false

/-!
# The first message of a client

The first message is a GS2 header, which says whom the client wants to act as, and an attribute list
with its name and its nonce (RFC 5802, section 7). The header and the list are kept byte for byte:
`ClientFirst.header_append_bare` says that together they are the message.
-/

namespace IrcSasl.Scram

/-- Refuses a message that is empty or has a NUL byte. -/
def checkMessage (message : Bytes) : Except Fault Unit :=
  if message.isEmpty then .error .noData
  else if message.contains 0 then .error .nulByte
  else .ok ()

/-- The prepared name that a `saslname` stands for. -/
def readName (name : Bytes) : Option String :=
  (Text.SaslName.decode? name).bind Text.prepareName

/-- The first message of a client. -/
structure ClientFirst where
  /-- The GS2 header, with its last comma. -/
  header : Bytes
  /-- Whom the client wants to act as. -/
  authzid : Option String
  /-- What follows the header. -/
  bare : Bytes
  /-- Who the client says to be. -/
  authcid : String
  /-- The client's part of the nonce. -/
  nonce : Bytes
  deriving DecidableEq, Repr

namespace ClientFirst

/-- Whom the client wants to act as, and what follows the header, given what follows the channel
binding flag. -/
def splitAuthzid : Bytes → Except Fault (Option String × Bytes)
  | 0x61 :: 0x3D :: rest =>
      let name := rest.takeWhile (· ≠ Attributes.comma)
      match rest.dropWhile (· ≠ Attributes.comma) with
      | [] => .error .openAuthzid
      | _ :: bare =>
          if name.length > Limits.accountNameLength then .error (.authzidLength name.length)
          else
            match readName name with
            | some authzid => .ok (some authzid, bare)
            | none => .error .authzid
  | 0x2C :: bare => .ok (none, bare)
  | _ => .error .headerEnd

/-- Whom the client wants to act as, and what follows the header. The client has to do without
channel binding. -/
def splitHeader : Bytes → Except Fault (Option String × Bytes)
  | 0x6E :: 0x2C :: rest => splitAuthzid rest
  | 0x79 :: 0x2C :: rest => splitAuthzid rest
  | 0x70 :: _ => .error .channelBinding
  | _ => .error .header

/-- Whether a client nonce has an acceptable length and is printable. -/
def isNonce (nonce : Bytes) : Bool :=
  Limits.clientNonceMin ≤ nonce.length && nonce.length ≤ Limits.clientNonceMax &&
    nonce.all fun byte => 0x20 < byte && byte ≠ Attributes.comma && byte < 0x7F

/-- The name and the nonce among the attributes. -/
def readAttributes (attributes : Attributes) : Except Fault (String × Bytes) :=
  if (attributes.get? 0x6D).isSome then .error .extensions
  else
    match attributes.get? 0x6E, attributes.get? 0x72 with
    | some name, some nonce =>
        if !isNonce nonce then .error .clientNonce
        else if name.length > Limits.accountNameLength then .error (.authcidLength name.length)
        else
          match readName name with
          | some authcid => .ok (authcid, nonce)
          | none => .error .authcid
    | _, _ => .error .missingAttribute

/-- Reads the first message of a client. -/
def parse (message : Bytes) : Except Fault ClientFirst :=
  match checkMessage message with
  | .error fault => .error fault
  | .ok () =>
      match splitHeader message with
      | .error fault => .error fault
      | .ok (authzid, bare) =>
          match Attributes.parse bare with
          | .error cause => .error (.attributes cause)
          | .ok attributes =>
              match readAttributes attributes with
              | .error fault => .error fault
              | .ok (authcid, nonce) =>
                  .ok { header := message.take (message.length - bare.length)
                        authzid, bare, authcid, nonce }

theorem splitAuthzid_suffix {rest bare : Bytes} {authzid : Option String}
    (split : splitAuthzid rest = .ok (authzid, bare)) : bare <:+ rest := by
  unfold splitAuthzid at split
  split at split
  · next rest =>
      simp only at split
      split at split
      · cases split
      · next found =>
          split at split
          · cases split
          · split at split
            · cases split
              have drop : bare <:+ rest.dropWhile (· ≠ Attributes.comma) :=
                found ▸ List.suffix_cons _ _
              exact (drop.trans (List.dropWhile_suffix _)).trans
                ((List.suffix_cons _ _).trans (List.suffix_cons _ _))
            · cases split
  · cases split
    exact List.suffix_cons _ _
  · cases split

theorem splitHeader_suffix {message bare : Bytes} {authzid : Option String}
    (split : splitHeader message = .ok (authzid, bare)) : bare <:+ message := by
  unfold splitHeader at split
  split at split
  · exact (splitAuthzid_suffix split).trans
      ((List.suffix_cons _ _).trans (List.suffix_cons _ _))
  · exact (splitAuthzid_suffix split).trans
      ((List.suffix_cons _ _).trans (List.suffix_cons _ _))
  · cases split
  · cases split

/-- The header and what follows it are the message. -/
theorem header_append_bare {message : Bytes} {first : ClientFirst}
    (parsed : parse message = .ok first) : first.header ++ first.bare = message := by
  unfold parse at parsed
  split at parsed
  · cases parsed
  · split at parsed
    · cases parsed
    · next split =>
        obtain ⟨header, rfl⟩ := splitHeader_suffix split
        split at parsed
        · cases parsed
        · split at parsed
          · cases parsed
          · cases parsed
            simp

end ClientFirst

end IrcSasl.Scram
