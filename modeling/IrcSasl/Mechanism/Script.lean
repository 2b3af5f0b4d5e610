import IrcSasl.Mechanism.External
import IrcSasl.Mechanism.Plain
import IrcSasl.Mechanism.Scram

set_option autoImplicit false

/-!
# Scripted mechanisms

Runs the actions of a script. A step ends at the first action that ends it; if there is none, the
message is refused.
-/

namespace IrcSasl

namespace Script

variable {D C : Type} [AccountDirectory D] [CredentialStore C]

/-- Runs an action that does not end the step. -/
def act (ctx : Context D C) : Action → Context D C
  | .authcid name =>
      let (id, ctx) := ctx.resolveAuthcid name
      ctx.report (.authcid id)
  | .authzid name =>
      let (id, ctx) := ctx.resolveAuthzid name
      ctx.report (.authzid id)
  | .identities => ctx.report (.identities ctx.session.authc ctx.session.authz)
  | .setText text => ctx.setState (.text text)
  | .setNumber number => ctx.setState (.number number)
  | .appendText text =>
      match ctx.session.state with
      | some (.text before) => ctx.setState (.text (before ++ text))
      | _ => ctx
  | .state =>
      match ctx.session.state with
      | some (.text text) => ctx.report (.state true (some text) none)
      | some (.number number) => ctx.report (.state true none (some number))
      | some (.scram _) => ctx.report (.state true none none)
      | none => ctx.report (.state false none none)
  | .recalc id avoid => ctx.recalcMechlist id avoid
  | .info => ctx.report (.source ctx.source)
  | .find name =>
      ctx.report (.found ((AccountDirectory.findByName ctx.accounts name).map Account.id))
  | .rewrite id hash =>
      match CredentialStore.extract ctx.credentials hash with
      | none => ctx.report (.rewritten none)
      | some credential =>
          let (outcome, ctx) := ctx.rewriteCredential id credential
          ctx.report (.rewritten (some outcome))
  | _ => ctx

/-- Runs actions. -/
def run (inner : Scram.Server) (data : Bytes) :
    List Action → Context D C → Step × Context D C
  | [], ctx => (.refused [], ctx)
  | .echo :: _, ctx => (.more data, ctx)
  | .reply bytes :: _, ctx => (.more bytes, ctx)
  | .failure bytes :: _, ctx => (.failure bytes, ctx)
  | .refuse bytes :: _, ctx => (.refused bytes, ctx)
  | .success :: _, ctx => (.success, ctx)
  | .scram :: _, ctx => inner.step ctx data
  | action :: rest, ctx => run inner data rest (act ctx action)

/-- Handles a message as the mechanism of a registration. -/
def step (script : Script) (serial : Nat) (ctx : Context D C) (data : Bytes) :
    Step × Context D C :=
  let round := (ctx.env.rounds.find? serial).getD 0
  let actions := (script.steps[round]?.or script.steps.getLast?).getD []
  run script.inner data actions
    { ctx with env := { ctx.env with rounds := ctx.env.rounds.insert serial (round + 1) } }

end Script

namespace Registration

variable {D C : Type} [AccountDirectory D] [CredentialStore C]

/-- What a mechanism does when a client selects it. -/
def start (registration : Registration) (ctx : Context D C) : Step × Context D C :=
  match registration.mechanism with
  | .external => External.start ctx
  | .scripted script => Script.run script.inner [] script.start ctx
  | _ => (.more [], ctx)

/-- What a mechanism does at a complete message. -/
def step (registration : Registration) (ctx : Context D C) (message : Bytes) :
    Step × Context D C :=
  match registration.mechanism with
  | .plain => Plain.step ctx message
  | .external => External.step ctx message
  | .scram server => server.step ctx message
  | .scripted script => script.step registration.serial ctx message
  | .inert _ => (.refused [], ctx)

end Registration

end IrcSasl
