import IrcSasl.Engine.Basic
import IrcSasl.Frame.Encoder
import IrcSasl.Mechanism.Script

set_option autoImplicit false

/-!
# Handling frames

One frame belongs to one session. Data of a client is put together to messages, each message is a
step of the session's mechanism, and what the step comes to decides what is sent and what becomes of
the session.
-/

namespace IrcSasl.Engine

variable {D C : Type}

/-- Stops using the mechanism of a session and forgets its identities. -/
def resetSession (engine : Engine D C) (session : Session) : Engine D C :=
  let (session, env) := session.finishMechanism engine.env
  { engine with env }.putSession { session with authc := none, authz := none }

/-- Ends the negotiation of a session, which goes on only if a login waits for its client. -/
def resetOrDestroy (engine : Engine D C) (session : Session) : Engine D C :=
  match session.pending with
  | some _ => engine.resetSession session
  | none => engine.destroySession session.info.uid

/-- The negotiation has failed. -/
def fail (engine : Engine D C) (session : Session) : List Outbound × Engine D C :=
  ([.outcome session.info.uid .failure], engine.resetOrDestroy session)

/-- The negotiation has failed, and the session ends with it. -/
def abort (engine : Engine D C) (session : Session) : List Outbound × Engine D C :=
  ([.outcome session.info.uid .failure], engine.destroySession session.info.uid)

/-- The frames with a reply for the client, of which there are none for an empty reply. -/
def replyFrames (id : String) (reply : Bytes) : List Outbound :=
  if reply.isEmpty then [] else (Frame.ofMessage reply).map (.serverData id)

variable [AccountDirectory D]

/-- Counts a failed attempt against the account that the client said to be. -/
def penalize (engine : Engine D C) (session : Session) (mechanism : String) : Engine D C :=
  match session.authc with
  | none => engine
  | some authc =>
      match AccountDirectory.findById engine.accounts authc.id with
      | none => engine
      | some _ =>
          let engine :=
            engine.note (.client session.info.source (.badPassword mechanism authc.name))
          { engine with accounts := AccountDirectory.badPassword engine.accounts authc.id }

/-- Whether an authenticated client may log in as whom it acts, with the events to note. -/
def authorize (engine : Engine D C) (user : String) (source target : Account) :
    Bool × List Log.Event :=
  match AccountDirectory.admission engine.accounts source with
  | .deny reason => (false, [.loginDenied user source.name reason])
  | .allow =>
      if target.id = source.id then (true, [])
      else if !AccountDirectory.canImpersonate engine.accounts source target then
        (false, [.impersonateDenied user source.name target.name])
      else
        match AccountDirectory.admission engine.accounts target with
        | .deny reason => (false, [.loginDenied user target.name reason])
        | .allow => (true, [.impersonateAllowed user source.name target.name])

/-- Notes events in order. -/
def noteAll (engine : Engine D C) (events : List Log.Event) : Engine D C :=
  events.foldl note engine

/-- Decides whom an authenticated client is logged in as, if anybody. A client that acts as nobody
else acts as itself. -/
def loginTarget (engine : Engine D C) (session : Session) :
    Option Identity × Session × Engine D C :=
  match session.authc with
  | none => (none, session, engine)
  | some authc =>
      match AccountDirectory.findById engine.accounts authc.id with
      | none => (none, session, engine)
      | some source =>
          let target :=
            match session.authz with
            | some authz => AccountDirectory.findById engine.accounts authz.id
            | none => some source
          match target with
          | none => (none, session, engine)
          | some target =>
              let session := { session with authz := session.authz.or (some authc) }
              let user := session.info.sourceName engine.options.hideServerNames
              let (allowed, events) := engine.authorize user source target
              (if allowed then some target.identity else none,
                session, (engine.putSession session).noteAll events)

/-- Logs a user into an account. -/
def applyLogin (engine : Engine D C) (uid : String) (account : Identity) (mechanism : String) :
    Engine D C :=
  match AccountDirectory.login engine.accounts uid account.id with
  | (true, accounts) => { engine with accounts }.note (.login uid mechanism account.name)
  | (false, accounts) => { engine with accounts }.note (.loginVanished uid account.name)

/-- The client has authenticated. It is logged in at once if it is on the network; else the login
waits for it. -/
def succeed (engine : Engine D C) (session : Session) (mechanism : String) :
    List Outbound × Engine D C :=
  match engine.loginTarget session with
  | (none, session, engine) => engine.fail session
  | (some target, session, engine) =>
      let id := session.info.uid
      ([.login id target.name, .outcome id .success],
        if AccountDirectory.userOnline engine.accounts id then
          (engine.destroySession id).applyLogin id target mechanism
        else
          let (session, env) := session.finishMechanism engine.env
          { engine with env }.putSession
            { session with needLog := true, pending := some ⟨target, mechanism⟩ })

variable [CredentialStore C]

/-- What a mechanism has at hand in a session of this engine. -/
def context (engine : Engine D C) (session : Session) : Context D C where
  session := session
  accounts := engine.accounts
  credentials := engine.credentials
  registry := engine.registry
  env := engine.env

/-- Takes over what a step has changed. -/
def adopt (engine : Engine D C) (ctx : Context D C) : Engine D C :=
  { engine with accounts := ctx.accounts, env := ctx.env }.putSession ctx.session

/-- What becomes of a session after a step. -/
def conclude (engine : Engine D C) (session : Session) (mechanism : String) :
    Step → List Outbound × Engine D C
  | .more data => ((Frame.ofMessage data).map (.serverData session.info.uid), engine)
  | .success => engine.succeed session mechanism
  | .failure reply =>
      let (frames, engine) := (engine.penalize session mechanism).fail session
      (replyFrames session.info.uid reply ++ frames, engine)
  | .refused reply =>
      let (frames, engine) := engine.fail session
      (replyFrames session.info.uid reply ++ frames, engine)

/-- Runs the mechanism of a session on a message, or starts it if there is none. -/
def run (engine : Engine D C) (session : Session) (message : Option Bytes) :
    List Outbound × Engine D C :=
  match session.mechanism with
  | none => (engine.note (.client session.info.source .missingMechanism)).abort session
  | some registration =>
      let (step, ctx) :=
        match message with
        | none => registration.start (engine.context session)
        | some message => registration.step (engine.context session) message
      let (frames, after) := (engine.adopt ctx).conclude ctx.session registration.name step
      ((ctx.mechlist.map (.mechanismList session.info.uid)).toList ++ frames, after)

/-- The client asks for a mechanism. -/
def startAuth (engine : Engine D C) (session : Session) (name : String)
    (certfp : Option String) : List Outbound × Engine D C :=
  let session :=
    match certfp with
    | some certfp =>
        { session with info := { session.info with certfp := some certfp, secure := true } }
    | none => session
  let engine := engine.putSession session
  let source := session.info.source
  if Limits.mechanismNameLength < name.utf8ByteSize then
    (engine.note (.client source .mechanismNameTooLong)).abort session
  else
    match session.mechanism with
    | some current => (engine.note (.client source (.mechanismBusy current.name))).abort session
    | none =>
        match engine.registry.find? name with
        | none =>
            ([.mechanismList session.info.uid engine.registry.mechlist],
              engine.note (.client source (.unknownMechanism name)))
        | some registration =>
            let session := { session with mechanism := some registration }
            (engine.putSession session).run session none

/-- The client sends a frame of data. -/
def clientData (engine : Engine D C) (session : Session) (data : String) :
    List Outbound × Engine D C :=
  let source := session.info.source
  match session.mechanism with
  | none => (engine.note (.client source .dataWithoutMechanism)).abort session
  | some _ =>
      let (decoded, decoder) := session.decoder.add (Bytes.ofString data)
      let session := { session with decoder }
      let engine := engine.putSession session
      match decoded with
      | .ok .incomplete => ([], engine)
      | .ok (.complete message) => engine.run session (some message)
      | .ok .abort => (engine.note (.client source .aborted)).abort session
      | .error cause => (engine.note (.client source (.frame cause))).abort session

/-- Adds what is known about the connection of a client. Host and address do not change once they
are known, and a secure connection stays secure. -/
def hostInfo (session : Session) (host ip : String) (secure : Bool) : Session :=
  let info := session.info
  let info := if info.host.isNone then { info with host := some host, ip := some ip } else info
  { session with info := { info with secure := info.secure || secure } }

/-- The session that a frame belongs to, no longer marked for the next sweep. Only some frames begin
a session. -/
def sessionFor (engine : Engine D C) (server : String) (frame : Inbound) :
    Option (Session × Engine D C) :=
  let found :=
    match frame with
    | .hostInfo id _ _ _ | .startAuth id _ _ =>
        some (engine.sessions.findOrCreate id server engine.env)
    | .clientData id _ | .done id =>
        (engine.sessions.find? id).map fun session => (session, engine.sessions, engine.env)
  found.map fun (session, sessions, env) =>
    let session := { session with marked := false }
    (session, { engine with sessions, env }.putSession session)

/-- Handles a frame that the uplink has sent for a server. -/
def handle (engine : Engine D C) (server : String) (frame : Inbound) :
    List Outbound × Engine D C :=
  match engine.sessionFor server frame with
  | none => ([], engine.note (.sessionUnknown frame.session))
  | some (session, engine) =>
      match frame with
      | .hostInfo _ host ip secure => ([], engine.putSession (hostInfo session host ip secure))
      | .startAuth _ mechanism certfp => engine.startAuth session mechanism certfp
      | .clientData _ data => engine.clientData session data
      | .done _ => ([], engine.resetOrDestroy session)

/-- Handles frames in order. -/
def handleAll (engine : Engine D C) (server : String) :
    List Inbound → List Outbound × Engine D C
  | [] => ([], engine)
  | frame :: rest =>
      let (first, engine) := engine.handle server frame
      let (others, engine) := engine.handleAll server rest
      (first ++ others, engine)

/-- Handles a message of a client, cut into frames as clients do. -/
def receive (engine : Engine D C) (server session : String) (message : Bytes) :
    List Outbound × Engine D C :=
  engine.handleAll server ((Frame.ofMessage message).map (.clientData session))

/-- A client arrives on the network: a login that waits for it is applied, and its session ends. -/
def userIntroduced (engine : Engine D C) (uid : String) : List Outbound × Engine D C :=
  match engine.sessions.find? uid with
  | none => ([], engine)
  | some session =>
      let engine :=
        (engine.putSession { session with needLog := false, pending := none }).destroySession uid
      match session.pending with
      | none => ([], engine)
      | some pending =>
          match AccountDirectory.findById engine.accounts pending.account.id with
          | none =>
              ([.notice uid s!"Account {pending.account.name} dropped, login cancelled"], engine)
          | some _ => ([], engine.applyLogin uid pending.account pending.mechanism)

end IrcSasl.Engine
