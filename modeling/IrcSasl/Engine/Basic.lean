import IrcSasl.Account.Directory
import IrcSasl.Config
import IrcSasl.Context

set_option autoImplicit false

/-!
# The negotiation engine

The engine owns every session and the registry of mechanisms. Frames come in from the uplink, and
each operation gives the frames to send to it, in order. This module holds the frames, the state of
the engine, and the operations on its registry.
-/

namespace IrcSasl

/-- A frame from the uplink. Each belongs to a session. -/
inductive Inbound where
  /-- What is known about the connection of the client. -/
  | hostInfo (session host ip : String) (secure : Bool)
  /-- The client asks for a mechanism; its certificate is told if the uplink knows one. -/
  | startAuth (session mechanism : String) (certfp : Option String)
  /-- One frame of base64 data of the client. -/
  | clientData (session data : String)
  /-- The client has stopped authenticating. -/
  | done (session : String)
  deriving DecidableEq, Repr

/-- The session that a frame belongs to. -/
def Inbound.session : Inbound → String
  | .hostInfo session _ _ _ => session
  | .startAuth session _ _ => session
  | .clientData session _ => session
  | .done session => session

/-- How a negotiation ended. -/
inductive Outcome where
  /-- The client is authenticated. -/
  | success
  /-- The client is not authenticated. -/
  | failure
  deriving DecidableEq, Repr

/-- A frame to the uplink. -/
inductive Outbound where
  /-- The mechanisms for one client. -/
  | mechanismList (session mechanisms : String)
  /-- The mechanisms, for the whole network. -/
  | networkMechanismList (mechanisms : String)
  /-- One frame of base64 data for the client. -/
  | serverData (session chunk : String)
  /-- How the negotiation ended. -/
  | outcome (session : String) (outcome : Outcome)
  /-- Which account the client logs into. -/
  | login (session account : String)
  /-- A notice for the client. -/
  | notice (session text : String)
  deriving DecidableEq, Repr

/-- The negotiation engine. -/
structure Engine (D C : Type) where
  /-- The options. -/
  options : Options
  /-- The account directory. -/
  accounts : D
  /-- The credential store. -/
  credentials : C
  /-- The registered mechanisms. -/
  registry : Registry := {}
  /-- The sessions. -/
  sessions : SessionStore := .empty
  /-- Whether the uplink has finished its burst. -/
  connected : Bool := false
  /-- What lies around. -/
  env : Environment

namespace Engine

variable {D C : Type}

/-- An engine without mechanisms, with options that are in range. -/
def create (options : Options) (accounts : D) (credentials : C) (entropy : Entropy) :
    Except ConfigError (Engine D C) :=
  match options.validate with
  | .ok () => .ok { options, accounts, credentials, env := { entropy } }
  | .error error => .error error

/-- Notes an event. -/
def note (engine : Engine D C) (event : Log.Event) : Engine D C :=
  { engine with env := engine.env.note event }

/-- Puts a session into the store. -/
def putSession (engine : Engine D C) (session : Session) : Engine D C :=
  { engine with sessions := engine.sessions.insert session.info.uid session }

/-- Destroys a session. -/
def destroySession (engine : Engine D C) (id : String) : Engine D C :=
  let (_, sessions, env) := engine.sessions.destroy id engine.env
  { engine with sessions, env }

/-! ## Mechanisms -/

/-- The announcement of the mechanisms to the network. -/
def announcement (engine : Engine D C) : Outbound :=
  .networkMechanismList engine.registry.mechlist

/-- Announces the mechanisms if the network is there to hear it. -/
def publish (engine : Engine D C) : List Outbound :=
  if engine.connected then [engine.announcement] else []

/-- The uplink has finished its burst: the mechanisms are announced. -/
def serverEob (engine : Engine D C) : List Outbound × Engine D C :=
  ([engine.announcement], { engine with connected := true })

/-- Removes a mechanism and tells whether there was one. Sessions that use it are destroyed
before. -/
def remove (engine : Engine D C) (name : String) : Bool × Engine D C :=
  match engine.registry.find? name with
  | none => (false, engine)
  | some _ =>
      let (sessions, env) := SessionStore.destroyAll (fun id => .sessionUnbound id name)
        (engine.sessions.boundTo name) engine.sessions engine.env
      let (_, registry, env) := engine.registry.unregister name env
      (true, { engine with sessions, registry, env })

/-- Adds a mechanism to the registry and tells whether it was added. -/
def add (engine : Engine D C) (mechanism : Mechanism) : Bool × Engine D C :=
  let (added, registry, env) := engine.registry.register mechanism engine.env
  (added, { engine with registry, env })

/-- Registers a mechanism, unless its name is taken or too long. -/
def register (engine : Engine D C) (mechanism : Mechanism) : List Outbound × Engine D C :=
  match engine.add mechanism with
  | (true, engine) => (engine.publish, engine)
  | (false, engine) => ([], engine)

/-- Unregisters a mechanism. Sessions that use it are destroyed before. -/
def unregister (engine : Engine D C) (name : String) : List Outbound × Engine D C :=
  match engine.remove name with
  | (true, engine) => (engine.publish, engine)
  | (false, engine) => ([], engine)

/-- Makes a SCRAM server with a new secret. -/
def createScram (engine : Engine D C) (digest : Digest) (iterations : UInt32)
    (saltLength : Nat) : Except CredentialError Scram.Server × Engine D C :=
  let (server, entropy) := Scram.Server.create digest iterations saltLength engine.env.entropy
  (server, { engine with env := { engine.env with entropy } })

/-- Registers the SCRAM mechanism of a digest, if it is not registered yet. Tells whether it was
added. -/
def ensureScram (engine : Engine D C) (options : HashOptions) :
    Except CredentialError Bool × Engine D C :=
  match engine.registry.find? options.digest.scramName with
  | some _ => (.ok false, engine)
  | none =>
      match engine.createScram options.digest options.iterations options.saltLength with
      | (.error error, engine) => (.error error, engine)
      | (.ok server, engine) =>
          let (added, engine) := engine.add (.scram server)
          (.ok added, engine)

/-- Goes through digests: registers the SCRAM mechanism of the configured one and removes those of
the others. Tells whether anything has changed, now or before. Stops where the mechanism cannot be
made. -/
def configureDigests (options : HashOptions) :
    List Digest → Bool → Engine D C → Except CredentialError Bool × Engine D C
  | [], changed, engine => (.ok changed, engine)
  | digest :: rest, changed, engine =>
      if digest ≠ options.digest then
        let (removed, engine) := engine.remove digest.scramName
        configureDigests options rest (changed || removed) engine
      else
        match engine.ensureScram options with
        | (.error error, engine) => (.error error, engine)
        | (.ok added, engine) => configureDigests options rest (changed || added) engine

/-- Offers the SCRAM mechanism of the configured digest and no other. -/
def configureScram (engine : Engine D C) (options : HashOptions) :
    Except CredentialError (List Outbound) × Engine D C :=
  let engine :=
    if options.exceedsCyrusLimit then engine.note (.cyrusLimitExceeded options.iterations)
    else engine
  match configureDigests options Digest.all false engine with
  | (.error error, engine) => (.error error, engine)
  | (.ok changed, engine) => (.ok (if changed then engine.publish else []), engine)

/-- Destroys the sessions that have been idle since the previous sweep and marks the others. Tells
how many were destroyed. -/
def sweep (engine : Engine D C) : Nat × Engine D C :=
  let (destroyed, sessions, env) := engine.sessions.sweep engine.env
  (destroyed, { engine with sessions, env })

/-- The description of an engine, given that of its directory. -/
def describe (engine : Engine D C) (directory : String) : String :=
  "Engine \x7b options: " ++ engine.options.describe ++ ", accounts: " ++ directory ++
    ", registry: " ++ engine.registry.describe ++ s!", sessions: {engine.sessions.size}" ++
    s!", connected: {engine.connected}, .. \x7d"

end Engine

end IrcSasl
