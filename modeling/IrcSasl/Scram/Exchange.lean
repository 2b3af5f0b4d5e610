import IrcSasl.Account
import IrcSasl.Scram.ClientFirst
import IrcSasl.Scram.Server

set_option autoImplicit false

/-!
# A SCRAM exchange

What the server keeps between the first message of a client and its last, and how it checks the
proof in the final one. The client signs the messages exchanged so far, which are kept byte for
byte.
-/

namespace IrcSasl.Scram

/-- An exchange after the first message of the client. -/
structure Exchange where
  /-- The credential of the account, or a made-up one. -/
  credential : Credential
  /-- The account, or nothing if there is none of that name. -/
  account : Option AccountId
  /-- The client's first message without its header. -/
  clientFirst : Bytes
  /-- The answer to it. -/
  serverFirst : String
  /-- The header of the client's first message in base64. -/
  header64 : String
  /-- The nonce of the client followed by that of the server. -/
  nonce : String
  /-- Whether the client has proved that it knows the password. -/
  complete : Bool
  deriving DecidableEq, Repr

namespace Exchange

/-- The exchange that a first message begins, given the server's raw part of the nonce. -/
def start (first : ClientFirst) (credential : Credential) (account : Option AccountId)
    (serverNonce : Bytes) : Exchange :=
  let nonce := Bytes.asciiText first.nonce ++ Base64.encodeText serverNonce
  { credential, account
    clientFirst := first.bare
    serverFirst := s!"r={nonce},s={credential.salt64},i={credential.iterations}"
    header64 := Base64.encodeText first.header
    nonce
    complete := false }

/-- The messages that both sides sign. -/
def authMessage (exchange : Exchange) : Bytes :=
  exchange.clientFirst ++ Bytes.ofString "," ++ Bytes.ofString exchange.serverFirst ++
    Bytes.ofString ",c=" ++ Bytes.ofString exchange.header64 ++
    Bytes.ofString ",r=" ++ Bytes.ofString exchange.nonce

/-- The digest of an exchange. -/
def digest (exchange : Exchange) : Digest := exchange.credential.digest

/-- The signature that the client hides its key with. -/
def clientSignature (exchange : Exchange) : Bytes :=
  exchange.digest.hmac exchange.credential.storedKey exchange.authMessage

/-- The signature by which the server proves that it knows the credential. -/
def serverSignature (exchange : Exchange) : Bytes :=
  exchange.digest.hmac exchange.credential.serverKey exchange.authMessage

/-- Whether a proof shows that the client knows the password. -/
def accepts (exchange : Exchange) (proof : Bytes) : Bool :=
  exchange.digest.hash (Bytes.xor proof exchange.clientSignature) = exchange.credential.storedKey

/-- The proof in the attributes of a final message. -/
def proofOf (exchange : Exchange) (attributes : Attributes) : Except Fault Bytes :=
  if (attributes.get? 0x6D).isSome then .error .extensions
  else
    match attributes.get? 0x63, attributes.get? 0x70, attributes.get? 0x72 with
    | some header, some proof, some nonce =>
        if nonce ≠ Bytes.ofString exchange.nonce then .error .nonceMismatch
        else if header ≠ Bytes.ofString exchange.header64 then .error .headerMismatch
        else
          match Base64.decode? proof with
          | some proof =>
              if proof.length = exchange.digest.outputLength then .ok proof
              else .error .malformedProof
          | none => .error .malformedProof
    | _, _, _ => .error .missingAttribute

/-- The proof in a final message. -/
def readProof (exchange : Exchange) (message : Bytes) : Except Fault Bytes :=
  match Attributes.parse message with
  | .error cause => .error (.attributes cause)
  | .ok attributes => exchange.proofOf attributes

end Exchange

end IrcSasl.Scram
