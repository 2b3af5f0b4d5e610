import IrcSasl.Registry

set_option autoImplicit false

/-!
# Sessions

A session is the negotiation of one client, from its first frame until it has arrived on the network
or gone away. It holds what is known about the client, the mechanism in use with what the mechanism
keeps, and a login that waits for the client.
-/

namespace IrcSasl

/-- What is known about a client. -/
structure SessionInfo where
  /-- The identifier of the session, usually that of the user. -/
  uid : String
  /-- The server that the client is connected to. -/
  server : String
  /-- The host of the client, once known. -/
  host : Option String := none
  /-- The address of the client, once known. -/
  ip : Option String := none
  /-- The fingerprint of the client's certificate, if it has one. -/
  certfp : Option String := none
  /-- Whether the connection of the client is known to be secure. -/
  secure : Bool := false
  deriving DecidableEq, Repr

namespace SessionInfo

/-- Who the client is to the log. -/
def source (info : SessionInfo) : String :=
  "SASL/" ++ info.uid ++ ":" ++ info.host.getD "?" ++ "[" ++ info.ip.getD "?" ++ "]:" ++ info.server

/-- Under what name the client appears before it is on the network. -/
def sourceName (info : SessionInfo) (hideServerNames : Bool) : String :=
  if hideServerNames || info.server.isEmpty then "Unknown user (via SASL)"
  else s!"Unknown user on {info.server} (via SASL)"

/-- The description of a client. -/
def describe (info : SessionInfo) : String :=
  "SessionInfo \x7b uid: " ++ Text.quote info.uid ++ ", server: " ++ Text.quote info.server ++
    ", host: " ++ Text.quoteOption info.host ++ ", ip: " ++ Text.quoteOption info.ip ++
    ", certfp: " ++ Text.quoteOption info.certfp ++ s!", secure: {info.secure} \x7d"

end SessionInfo

/-- The description of an identity. -/
def Identity.describe (identity : Identity) : String :=
  "Identity \x7b name: " ++ Text.quote identity.name ++ s!", id: {identity.id.describe} \x7d"

/-- A login that waits for its client. -/
structure PendingLogin where
  /-- The account that the client will be logged into. -/
  account : Identity
  /-- The mechanism that the client has authenticated with. -/
  mechanism : String
  deriving DecidableEq, Repr

/-- The description of a login that waits for its client. -/
def PendingLogin.describe (pending : PendingLogin) : String :=
  "PendingLogin \x7b account: " ++ pending.account.describe ++ ", mechanism: " ++
    Text.quote pending.mechanism ++ " \x7d"

/-- The description of something that may be missing. -/
def describeOption {α : Type} (describe : α → String) : Option α → String
  | none => "None"
  | some value => "Some(" ++ describe value ++ ")"

/-- The negotiation of one client. -/
structure Session where
  /-- What is known about the client. -/
  info : SessionInfo
  /-- The mechanism in use. -/
  mechanism : Option Registration := none
  /-- What the mechanism keeps. -/
  state : Option MechanismState := none
  /-- The frames of a message that is not complete yet. -/
  decoder : Frame.Decoder := { width := Limits.frameLength, limit := Limits.bufferLength }
  /-- Who the client is. -/
  authc : Option Identity := none
  /-- Whom the client acts as. -/
  authz : Option Identity := none
  /-- The login that waits for the client. -/
  pending : Option PendingLogin := none
  /-- Whether the log has to tell if that login never happens. -/
  needLog : Bool := false
  /-- Whether the next sweep destroys the session. -/
  marked : Bool := false
  deriving DecidableEq, Repr

namespace Session

/-- The name of the mechanism in use. -/
def mechanismName (session : Session) : Option String := session.mechanism.map Registration.name

/-- Stops using the mechanism, which releases what it keeps and what is buffered. -/
def finishMechanism (session : Session) (env : Environment) : Session × Environment :=
  ({ session with mechanism := none, state := none, decoder := session.decoder.clear },
    match session.mechanism.map Registration.mechanism with
    | some (.scripted script) => env.report (.finished script.name session.state.isSome)
    | _ => env)

/-- The description of a session. -/
def describe (session : Session) : String :=
  "Session \x7b info: " ++ session.info.describe ++
    ", mechanism: " ++ Text.quoteOption session.mechanismName ++
    ", authc: " ++ describeOption Identity.describe session.authc ++
    ", authz: " ++ describeOption Identity.describe session.authz ++
    ", pending: " ++ describeOption PendingLogin.describe session.pending ++
    s!", marked: {session.marked}, .. \x7d"

end Session

/-! ## All sessions -/

/-- The sessions by their identifiers. -/
abbrev SessionStore := Table String Session

namespace SessionStore

/-- The session of an identifier, which begins if there is none yet. -/
def findOrCreate (store : SessionStore) (id server : String) (env : Environment) :
    Session × SessionStore × Environment :=
  match store.find? id with
  | some session => (session, store, env)
  | none =>
      let session : Session := { info := { uid := id, server } }
      (session, store.insert id session, env.note (.sessionCreated id server))

/-- Destroys a session and tells whether there was one. -/
def destroy (store : SessionStore) (id : String) (env : Environment) :
    Bool × SessionStore × Environment :=
  match store.find? id with
  | none => (false, store, env)
  | some session =>
      let env :=
        match session.needLog, session.pending with
        | true, some pending => env.note (.loginExpired session.info.source pending.account.name)
        | _, _ => env
      (true, store.erase id, (session.finishMechanism env).2)

/-- Destroys sessions, each after an event of its own. -/
def destroyAll (event : String → Log.Event) :
    List String → SessionStore → Environment → SessionStore × Environment
  | [], store, env => (store, env)
  | id :: rest, store, env =>
      let (_, store, env) := store.destroy id (env.note (event id))
      destroyAll event rest store env

/-- The sessions that satisfy a test. -/
def idsWhere (store : SessionStore) (test : Session → Bool) : List String :=
  (store.filter fun _ session => test session).keys

/-- Destroys the sessions that the previous sweep has marked and marks all others. Tells how many
were destroyed. -/
def sweep (store : SessionStore) (env : Environment) : Nat × SessionStore × Environment :=
  let stale := store.idsWhere Session.marked
  let marked := store.mapValues fun session => { session with marked := true }
  let (store, env) := destroyAll .sessionStale stale marked env
  (stale.length, store, env)

/-- The sessions that use a mechanism. -/
def boundTo (store : SessionStore) (mechanism : String) : List String :=
  store.idsWhere fun session => session.mechanismName = some mechanism

end SessionStore

end IrcSasl
