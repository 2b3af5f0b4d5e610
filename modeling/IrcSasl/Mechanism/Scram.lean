import IrcSasl.Context

set_option autoImplicit false

/-!
# The SCRAM mechanism

An exchange has three messages of the client. The first names the account and is answered with salt,
iteration count and nonce; the second carries the proof and is answered with the server's signature;
the third acknowledges that, and a hash of the legacy layout is then upgraded.
-/

namespace IrcSasl.Scram

variable {D C : Type}

/-- The data that tells a client why its message is not accepted. -/
def errorReply (token : String) : Bytes := Bytes.ofString ("e=" ++ token)

/-- Refuses a message and tells the client why. -/
def refuse (ctx : Context D C) (fault : Fault) : Step × Context D C :=
  (.refused (errorReply fault.token), ctx.noteScram (.fault fault))

/-- Refuses an acknowledgement without telling the client why. -/
def refuseQuietly (ctx : Context D C) (fault : Fault) : Step × Context D C :=
  (.refused [], ctx.noteScram (.fault fault))

variable [AccountDirectory D]

/-- Whether the account of an exchange is still there. A made-up credential needs none. -/
def accountRemains (accounts : D) (exchange : Exchange) : Bool :=
  match exchange.account with
  | some id => (AccountDirectory.findById accounts id).isSome
  | none => true

/-- Handles the message that carries the proof. -/
def clientFinal (ctx : Context D C) (exchange : Exchange) (message : Bytes) :
    Step × Context D C :=
  match checkMessage message with
  | .error fault => refuse ctx fault
  | .ok () =>
      if !accountRemains ctx.accounts exchange then refuse ctx .accountDropped
      else
        match exchange.readProof message with
        | .error fault => refuse ctx fault
        | .ok proof =>
            if exchange.accepts proof then
              (.more (Bytes.ofString ("v=" ++ Base64.encodeText exchange.serverSignature)),
                (ctx.noteScram .authenticated).setState (.scram { exchange with complete := true }))
            else (.failure (errorReply "invalid-proof"), ctx.noteScram .proofMismatch)

/-- The exchange after the stored hash was given the native layout. -/
def Exchange.upgraded (exchange : Exchange) : Exchange :=
  { exchange with credential := { exchange.credential with native := true } }

/-- Handles the acknowledgement. What is stored for the account may be enough to act as the client,
so it is replaced by the keys derived from it. -/
def acknowledge (ctx : Context D C) (exchange : Exchange) : Step × Context D C :=
  if !accountRemains ctx.accounts exchange then refuseQuietly ctx .accountDropped
  else
    match exchange.account with
    | none => refuseQuietly ctx .unknownAccount
    | some id =>
        if exchange.credential.native then (.success, ctx)
        else
          match (ctx.noteScram .converting).rewriteCredential id exchange.upgraded.credential with
          | (.ok true, ctx) =>
              (.success, (ctx.noteScram .converted).setState (.scram exchange.upgraded))
          | (.ok false, ctx) => refuseQuietly ctx .accountDropped
          | (.error cause, ctx) => (.success, ctx.noteScram (.conversionFailed cause))

variable [CredentialStore C]

namespace Server

/-- The credential of an account that was resolved. If it was made with another digest, the client
is told which mechanisms it can use instead. -/
def storedCredential (server : Server) (ctx : Context D C) (id : AccountId) :
    Except Fault Credential × Context D C :=
  match AccountDirectory.findById ctx.accounts id with
  | none => (.error .accountMissing, ctx)
  | some account =>
      if account.noPassword then (.error (.passwordDisabled account.name), ctx)
      else if !account.crypt then (.error (.notEncrypted account.name), ctx)
      else
        match account.password.bind (CredentialStore.extract ctx.credentials) with
        | none => (.error (.incompatibleHash account.name), ctx)
        | some credential =>
            if credential.digest ≠ server.digest then
              (.error (.digestMismatch credential.digest server.digest),
                ctx.recalcMechlist id credential.digest.avoidList)
            else (.ok credential, ctx)

/-- The credential for a first message: that of the account, with its identifier, or a made-up
one. -/
def credentialFor (server : Server) (ctx : Context D C) (first : ClientFirst) :
    Except Fault (Credential × Option AccountId) × Context D C :=
  match AccountDirectory.findByName ctx.accounts first.authcid with
  | none =>
      (.ok (server.mockCredential first.authcid, none),
        ctx.noteScram (.mockCredential first.authcid))
  | some _ =>
      match ctx.resolveAuthcid first.authcid with
      | (none, ctx) => (.error .authcidRefused, ctx)
      | (some id, ctx) =>
          match ctx.resolveOptionalAuthzid first.authzid with
          | (false, ctx) => (.error .authzidRefused, ctx)
          | (true, ctx) =>
              match server.storedCredential ctx id with
              | (.error fault, ctx) => (.error fault, ctx)
              | (.ok credential, ctx) => (.ok (credential, some id), ctx)

/-- Handles the first message. -/
def clientFirst (server : Server) (ctx : Context D C) (message : Bytes) : Step × Context D C :=
  match ClientFirst.parse message with
  | .error fault => refuse ctx fault
  | .ok first =>
      match server.credentialFor (ctx.noteScram (.parsed first.authcid first.authzid)) first with
      | (.error fault, ctx) => refuse ctx fault
      | (.ok (credential, account), ctx) =>
          match ctx.draw Limits.nonceLengthRaw with
          | (none, ctx) => refuse ctx .randomSource
          | (some serverNonce, ctx) =>
              let exchange := Exchange.start first credential account serverNonce
              (.more (Bytes.ofString exchange.serverFirst), ctx.setState (.scram exchange))

/-- Handles a message. -/
def step (server : Server) (ctx : Context D C) (message : Bytes) : Step × Context D C :=
  match ctx.session.state with
  | none => server.clientFirst ctx message
  | some (.scram exchange) =>
      if exchange.complete then acknowledge ctx exchange else clientFinal ctx exchange message
  | some _ => refuse ctx .foreignState

end Server

end IrcSasl.Scram
