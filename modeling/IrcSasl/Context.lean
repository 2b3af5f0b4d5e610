import IrcSasl.Account.Directory
import IrcSasl.Credential.Store
import IrcSasl.Session

set_option autoImplicit false

/-!
# The services of a step

What a mechanism has at hand while it handles one message: the session, the directory, the
credential store, the registry, and what lies around. Resolving an identity looks the account up and
checks that it may be logged into, and the session remembers it.
-/

namespace IrcSasl

/-- What a mechanism has at hand. -/
structure Context (D C : Type) where
  /-- The session. -/
  session : Session
  /-- The account directory. -/
  accounts : D
  /-- The credential store. -/
  credentials : C
  /-- The registered mechanisms. -/
  registry : Registry
  /-- The list of mechanisms to send to the client first, if there is one. -/
  mechlist : Option String := none
  /-- What lies around. -/
  env : Environment

namespace Context

variable {D C : Type}

/-- Who the client is to the log. -/
def source (ctx : Context D C) : String := ctx.session.info.source

/-- Notes something about the negotiation. -/
def note (ctx : Context D C) (note : Log.ClientNote) : Context D C :=
  { ctx with env := ctx.env.note (.client ctx.source note) }

/-- Notes something about a SCRAM exchange. -/
def noteScram (ctx : Context D C) (note : Log.ScramNote) : Context D C :=
  { ctx with env := ctx.env.note (.scram ctx.source note) }

/-- Adds a report of a scripted mechanism. -/
def report (ctx : Context D C) (report : Script.Report) : Context D C :=
  { ctx with env := ctx.env.report report }

/-- Draws random bytes. -/
def draw (ctx : Context D C) (length : Nat) : Option Bytes × Context D C :=
  let (bytes, env) := ctx.env.draw length
  (bytes, { ctx with env })

/-- Replaces what the mechanism keeps in the session. -/
def setState (ctx : Context D C) (state : MechanismState) : Context D C :=
  { ctx with session := { ctx.session with state := some state } }

/-- Remembers who the client is. -/
def setAuthc (ctx : Context D C) (identity : Identity) : Context D C :=
  { ctx with session := { ctx.session with authc := some identity } }

/-- Remembers whom the client acts as. -/
def setAuthz (ctx : Context D C) (identity : Identity) : Context D C :=
  { ctx with session := { ctx.session with authz := some identity } }

variable [AccountDirectory D]

/-- The account of a name, if it may be logged into. An account that is `other` has been checked as
the other identity before. -/
def canLogin (ctx : Context D C) (name : String) (other : Option AccountId) :
    Option Identity × Context D C :=
  match AccountDirectory.findByName ctx.accounts name with
  | none => (none, ctx)
  | some account =>
      if other = some account.id then (some account.identity, ctx)
      else
        match AccountDirectory.admission ctx.accounts account with
        | .allow => (some account.identity, ctx)
        | .deny reason => (none, ctx.note (.loginRefused account.name reason))

/-- Resolves who the client is. -/
def resolveAuthcid (ctx : Context D C) (name : String) : Option AccountId × Context D C :=
  match ctx.canLogin name (ctx.session.authz.map Identity.id) with
  | (none, ctx) => (none, ctx)
  | (some identity, ctx) => (some identity.id, ctx.setAuthc identity)

/-- Resolves whom the client acts as, once it is known who it is. -/
def resolveAuthzid (ctx : Context D C) (name : String) : Option AccountId × Context D C :=
  match ctx.session.authc with
  | none => (none, ctx.note .authzidFirst)
  | some authc =>
      match ctx.canLogin name (some authc.id) with
      | (none, ctx) => (none, ctx)
      | (some identity, ctx) => (some identity.id, ctx.setAuthz identity)

/-- Resolves whom the client acts as, if it acts as anybody else, and tells whether it can. -/
def resolveOptionalAuthzid (ctx : Context D C) : Option String → Bool × Context D C
  | none => (true, ctx)
  | some name =>
      match ctx.resolveAuthzid name with
      | (none, ctx) => (false, ctx)
      | (some _, ctx) => (true, ctx)

/-- Has the mechanisms that suit an account sent to the client, without those to avoid. -/
def recalcMechlist (ctx : Context D C) (id : AccountId) (avoid : List String) : Context D C :=
  { ctx with
    mechlist := some <|
      match AccountDirectory.findById ctx.accounts id with
      | some account => ctx.registry.mechlistFor account avoid
      | none => ctx.registry.mechlist }

/-- Stores a credential for an account, in the native layout. Tells whether there is such an
account. -/
def rewriteCredential (ctx : Context D C) (id : AccountId) (credential : Credential) :
    Except CredentialError Bool × Context D C :=
  let (outcome, accounts) := AccountDirectory.rewrite ctx.accounts id credential
  (outcome, { ctx with accounts })

end Context

end IrcSasl
