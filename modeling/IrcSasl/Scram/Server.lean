import IrcSasl.Credential
import IrcSasl.Entropy
import IrcSasl.Text.Casemap

set_option autoImplicit false

/-!
# The server side of SCRAM

One server authenticates with one digest. A client that names an account that there is not is shown
a made-up credential, derived from the name and a secret of the server, so that it fails at the
proof just as with a wrong password. Made-up salts and iteration counts look like those of new
hashes.
-/

namespace IrcSasl.Scram

/-- The server side of SCRAM for one digest. -/
structure Server where
  /-- The digest. -/
  digest : Digest
  /-- The secret that credentials are made up from. -/
  mockKey : Bytes
  /-- The iteration count of made-up credentials. -/
  mockIterations : UInt32
  /-- The salt length of made-up credentials. -/
  mockSaltLength : Nat
  deriving DecidableEq, Repr

namespace Server

/-- A server with a new secret. -/
def create (digest : Digest) (iterations : UInt32) (saltLength : Nat) (entropy : Entropy) :
    Except CredentialError Server × Entropy :=
  match entropy.fill digest.outputLength with
  | (none, entropy) => (.error .random, entropy)
  | (some mockKey, entropy) =>
      (.ok { digest, mockKey, mockIterations := iterations, mockSaltLength := saltLength }, entropy)

/-- One block of a made-up salt. The number of a block is one byte and starts over after 256
blocks. -/
def mockSaltBlock (server : Server) (name : Bytes) (index : Nat) : Bytes :=
  server.digest.hmac server.mockKey (Bytes.ofString "salt" ++ UInt8.ofNat index :: name)

/-- A made-up salt: as many blocks as it takes, cut to length. -/
def mockSalt (server : Server) (name : Bytes) : Bytes :=
  let width := server.digest.outputLength
  ((List.range ((server.mockSaltLength + width - 1) / width)).flatMap
    (server.mockSaltBlock name)).take server.mockSaltLength

/-- The made-up credential of a name. Names that differ only in case have the same one. -/
def mockCredential (server : Server) (name : String) : Credential :=
  let folded := Bytes.ofString (Text.Casemap.fold default name)
  Credential.ofSaltedPassword server.digest server.mockIterations
    (Base64.encodeText (server.mockSalt folded))
    (server.digest.hmac server.mockKey (Bytes.ofString "key" ++ folded))

/-- The description of a server, which keeps its secret to itself. -/
def describe (server : Server) : String :=
  s!"Scram \x7b digest: {server.digest.label}, mock_iterations: {server.mockIterations}, " ++
    s!"mock_salt_len: {server.mockSaltLength}, .. \x7d"

end Server

end IrcSasl.Scram
