import IrcSasl.Proofs.Engine.Reply
import IrcSasl.Proofs.Scram.Transcript
import Mathlib.Logic.Relation

set_option autoImplicit false

/-!
# What a step of a mechanism does to its surroundings

A step, whatever its mechanism, does nothing to the directory but replace stored hashes, and writes
nothing to the log but notes about its negotiation (`Registration.works_turn`). The notes of PLAIN
and EXTERNAL are routine, and so are those of SCRAM unless something other than the client is at
fault, which `Scram.Alarm` lists.
-/

namespace IrcSasl

/-! ## The log -/

/-- Whether an event is a note about a negotiation. -/
def Log.Event.IsNote : Log.Event → Prop
  | .client _ _ | .scram _ _ => True
  | _ => False

/-- Whether an event is routine: it is no error, and no login whose account is not there. -/
def Log.Event.isRoutine : Log.Event → Bool
  | .loginVanished _ _ => false
  | event => event.level ≠ .error

theorem Log.Event.level_of_isRoutine {event : Log.Event} (routine : event.isRoutine = true) :
    event.level ≠ .error := by
  cases event with
  | loginVanished uid account => cases routine
  | _ => exact of_decide_eq_true routine

theorem Log.Event.isRoutine_fault (source : String) {fault : Scram.Fault}
    (outside : fault.isInternal = false) : (scram source (.fault fault)).isRoutine = true := by
  simp [isRoutine, level, ScramNote.level, outside]

/-- The log of one environment is that of another one with events of a kind behind it. -/
def Environment.Logs (kind : Log.Event → Prop) (before after : Environment) : Prop :=
  ∃ events, after.log = before.log ++ events ∧ ∀ event ∈ events, kind event

namespace Environment.Logs

variable {kind : Log.Event → Prop} {before middle after : Environment}

theorem of_same (same : after.log = before.log) : before.Logs kind after :=
  ⟨[], by rw [same, List.append_nil], fun _ absurd => by cases absurd⟩

theorem refl (env : Environment) : env.Logs kind env := of_same rfl

theorem trans (early : before.Logs kind middle) (late : middle.Logs kind after) :
    before.Logs kind after := by
  obtain ⟨first, same, firstKind⟩ := early
  obtain ⟨second, rest, secondKind⟩ := late
  refine ⟨first ++ second, by rw [rest, same, List.append_assoc], ?_⟩
  intro event member
  rcases List.mem_append.mp member with early | late
  · exact firstKind event early
  · exact secondKind event late

theorem mono {other : Log.Event → Prop} (logs : before.Logs kind after)
    (allowed : ∀ event, kind event → other event) : before.Logs other after := by
  obtain ⟨events, same, kinds⟩ := logs
  exact ⟨events, same, fun event member => allowed event (kinds event member)⟩

theorem note (env : Environment) {event : Log.Event} (allowed : kind event) :
    env.Logs kind (env.note event) := by
  refine ⟨[event], rfl, ?_⟩
  intro other member
  rw [List.mem_singleton.mp member]
  exact allowed

end Environment.Logs

variable {D C : Type} [AccountDirectory D]

/-- What SCRAM reports beside routine, with what is the matter then. -/
inductive Scram.Alarm (ctx : Context D C) : Log.Event → Prop where
  /-- An account is found by a name, but not by its identifier. -/
  | accountMissing {source name : String} {account : Account}
      (known : AccountDirectory.findByName ctx.accounts name = some account)
      (gone : AccountDirectory.findById ctx.accounts account.id = none) :
      Alarm ctx (.scram source (.fault .accountMissing))
  /-- There are no random bytes. -/
  | randomSource {source : String} (failed : (ctx.env.draw Limits.nonceLengthRaw).1 = none) :
      Alarm ctx (.scram source (.fault .randomSource))
  /-- A client that has named nobody has proved that it knows the password. -/
  | unknownAccount {source : String} {exchange : Exchange}
      (kept : ctx.session.state = some (.scram exchange)) (complete : exchange.complete = true)
      (nobody : exchange.account = none) : Alarm ctx (.scram source (.fault .unknownAccount))
  /-- The credential of an account cannot be written in the native layout. -/
  | conversionFailed {source : String} {exchange : Exchange} {id : AccountId}
      {cause : CredentialError} (kept : ctx.session.state = some (.scram exchange))
      (complete : exchange.complete = true) (somebody : exchange.account = some id)
      (failed : exchange.upgraded.credential.encode = .error cause) :
      Alarm ctx (.scram source (.conversionFailed cause))
  /-- The session keeps something that is no exchange. -/
  | foreignState {source : String} {state : MechanismState}
      (kept : ctx.session.state = some state) (foreign : ∀ exchange, state ≠ .scram exchange) :
      Alarm ctx (.scram source (.fault .foreignState))

theorem Scram.Alarm.isNote {ctx : Context D C} {event : Log.Event} (alarm : Alarm ctx event) :
    event.IsNote := by
  cases alarm <;> trivial

section Notes

variable {kind : Log.Event → Prop}
  (routine : ∀ event, event.IsNote → event.isRoutine = true → kind event)

include routine

namespace Context

theorem logs_canLogin (ctx : Context D C) (name : String) (other : Option AccountId) :
    ctx.env.Logs kind (ctx.canLogin name other).2.env := by
  unfold canLogin
  split
  · exact .refl ctx.env
  · split
    · exact .refl ctx.env
    · split
      · exact .refl ctx.env
      · exact .note _ (routine _ trivial rfl)

theorem logs_resolveAuthcid (ctx : Context D C) (name : String) :
    ctx.env.Logs kind (ctx.resolveAuthcid name).2.env := by
  have logs := logs_canLogin routine ctx name (ctx.session.authz.map Identity.id)
  unfold resolveAuthcid
  split
  · next after entered =>
      rw [entered] at logs
      exact logs
  · next identity after entered =>
      rw [entered] at logs
      exact logs

theorem logs_resolveAuthzid (ctx : Context D C) (name : String) :
    ctx.env.Logs kind (ctx.resolveAuthzid name).2.env := by
  unfold resolveAuthzid
  split
  · exact .note _ (routine _ trivial rfl)
  · next authc _ =>
      have logs := logs_canLogin routine ctx name (some authc.id)
      split
      · next after entered =>
          rw [entered] at logs
          exact logs
      · next identity after entered =>
          rw [entered] at logs
          exact logs

theorem logs_resolveOptionalAuthzid (ctx : Context D C) (name : Option String) :
    ctx.env.Logs kind (ctx.resolveOptionalAuthzid name).2.env := by
  cases name with
  | none => exact .refl ctx.env
  | some name =>
      have logs := logs_resolveAuthzid routine ctx name
      simp only [resolveOptionalAuthzid]
      split
      · next after resolved =>
          rw [resolved] at logs
          exact logs
      · next id after resolved =>
          rw [resolved] at logs
          exact logs

end Context

/-! ### PLAIN and EXTERNAL -/

omit [AccountDirectory D] in
theorem External.logs_start (ctx : Context D C) :
    ctx.env.Logs kind (External.start ctx).2.env := by
  unfold External.start
  split
  · exact .note _ (routine _ trivial rfl)
  · exact .refl ctx.env

theorem External.logs_step (ctx : Context D C) (data : Bytes) :
    ctx.env.Logs kind (External.step ctx data).2.env := by
  unfold External.step
  split
  · exact .note _ (routine _ trivial rfl)
  · next authzid _ =>
      split
      · exact .refl ctx.env
      · split
        · exact .note _ (routine _ trivial rfl)
        · next owner _ =>
            have first := Context.logs_resolveAuthcid routine ctx owner.name
            split
            · next middle resolved =>
                rw [resolved] at first
                exact first.trans (.note _ (routine _ trivial rfl))
            · next id middle resolved =>
                rw [resolved] at first
                have second := Context.logs_resolveOptionalAuthzid routine middle
                  (if authzid.isEmpty then none else some authzid)
                split
                · next after refused =>
                    rw [refused] at second
                    exact (first.trans second).trans (.note _ (routine _ trivial rfl))
                · next after allowed =>
                    rw [allowed] at second
                    exact first.trans second

theorem Plain.logs_step [CredentialStore C] (ctx : Context D C) (data : Bytes) :
    ctx.env.Logs kind (Plain.step ctx data).2.env := by
  unfold Plain.step
  split
  · exact .note _ (routine _ trivial rfl)
  · next message _ =>
      have first := Context.logs_resolveAuthcid routine ctx message.authcid
      split
      · next middle resolved =>
          rw [resolved] at first
          exact first.trans (.note _ (routine _ trivial rfl))
      · next id middle resolved =>
          rw [resolved] at first
          have second := Context.logs_resolveOptionalAuthzid routine middle message.otherName
          split
          · next after refused =>
              rw [refused] at second
              exact (first.trans second).trans (.note _ (routine _ trivial rfl))
          · next after allowed =>
              rw [allowed] at second
              have both := first.trans second
              split
              · exact both
              · split
                · exact both.trans (.note _ (routine _ trivial rfl))
                · split
                  · exact both
                  · exact both

/-! ### SCRAM -/

namespace Scram

omit [AccountDirectory D] in
theorem logs_refuse (ctx : Context D C) {fault : Fault} (outside : fault.isInternal = false) :
    ctx.env.Logs kind (refuse ctx fault).2.env :=
  .note _ (routine _ trivial (Log.Event.isRoutine_fault _ outside))

theorem logs_clientFinal (ctx : Context D C) (exchange : Exchange) (message : Bytes) :
    ctx.env.Logs kind (clientFinal ctx exchange message).2.env := by
  unfold clientFinal
  split
  · next unclean => exact logs_refuse routine ctx (isInternal_of_checkMessage unclean)
  · split
    · exact logs_refuse routine ctx rfl
    · split
      · next unread => exact logs_refuse routine ctx (Exchange.isInternal_of_readProof unread)
      · split
        · exact .note _ (routine _ trivial rfl)
        · exact .note _ (routine _ trivial rfl)

theorem logs_acknowledge (ctx : Context D C) (exchange : Exchange)
    (unknown : exchange.account = none → ∀ source, kind (.scram source (.fault .unknownAccount)))
    (failed : ∀ id cause, exchange.account = some id →
      exchange.upgraded.credential.encode = .error cause →
      ∀ source, kind (.scram source (.conversionFailed cause))) :
    ctx.env.Logs kind (acknowledge ctx exchange).2.env := by
  unfold acknowledge
  split
  · exact .note _ (routine _ trivial rfl)
  · split
    · next nobody => exact .note _ (unknown nobody _)
    · next id somebody =>
        split
        · exact .refl ctx.env
        · have converting : ctx.env.Logs kind (ctx.noteScram .converting).env :=
            .note _ (routine _ trivial rfl)
          split
          · next after rewritten =>
              obtain ⟨-, rfl⟩ := Prod.mk.inj rewritten
              exact converting.trans (.note _ (routine _ trivial rfl))
          · next after rewritten =>
              obtain ⟨-, rfl⟩ := Prod.mk.inj rewritten
              exact converting.trans (.note _ (routine _ trivial rfl))
          · next cause after rewritten =>
              obtain ⟨outcome, rfl⟩ := Prod.mk.inj rewritten
              refine converting.trans (.note _ (failed id cause somebody ?_ _))
              split at outcome
              · next encoded =>
                  cases outcome
                  exact encoded
              · cases outcome

variable [CredentialStore C]

namespace Server

omit routine in
/-- That there is no credential is the fault of the server only if the account is not there. -/
theorem fault_storedCredential {server : Server} {ctx after : Context D C} {id : AccountId}
    {fault : Fault} (refused : server.storedCredential ctx id = (.error fault, after)) :
    fault.isInternal = false ∨ fault = .accountMissing ∧
      AccountDirectory.findById ctx.accounts id = none := by
  unfold storedCredential at refused
  grind [Fault.isInternal]

omit routine in
theorem fault_credentialFor {server : Server} {ctx after : Context D C} {first : ClientFirst}
    {fault : Fault} (refused : server.credentialFor ctx first = (.error fault, after)) :
    fault.isInternal = false ∨ fault = .accountMissing ∧ ∃ account,
      AccountDirectory.findByName ctx.accounts first.authcid = some account ∧
      AccountDirectory.findById ctx.accounts account.id = none := by
  unfold credentialFor at refused
  split at refused
  · cases refused
  · obtain ⟨id, middle, resolved, near, outcome⟩ := ctx.resolveAuthcid_cases first.authcid
    simp only [resolved] at refused
    rcases outcome with rfl | ⟨account, known, rfl, -⟩
    · cases refused
      exact .inl rfl
    · obtain ⟨allowed, acting, resolvedOther, nearOther, -⟩ :=
        middle.resolveOptionalAuthzid_cases first.authzid
      simp only [resolvedOther] at refused
      cases allowed with
      | false =>
          cases refused
          exact .inl rfl
      | true =>
          simp only at refused
          split at refused
          · next missing =>
              cases refused
              refine (fault_storedCredential missing).imp id ?_
              rintro ⟨rfl, gone⟩
              rw [nearOther.accounts, near.accounts] at gone
              exact ⟨rfl, account, known, gone⟩
          · cases refused

omit routine in
@[simp] theorem env_storedCredential (server : Server) (ctx : Context D C) (id : AccountId) :
    (server.storedCredential ctx id).2.env = ctx.env := by
  unfold storedCredential
  grind [Context.recalcMechlist]

theorem logs_credentialFor (server : Server) (ctx : Context D C) (first : ClientFirst) :
    ctx.env.Logs kind (server.credentialFor ctx first).2.env := by
  unfold credentialFor
  split
  · exact .note _ (routine _ trivial rfl)
  · have named := Context.logs_resolveAuthcid routine ctx first.authcid
    split
    · next middle resolved =>
        rw [resolved] at named
        exact named
    · next id middle resolved =>
        rw [resolved] at named
        have acting := Context.logs_resolveOptionalAuthzid routine middle first.authzid
        split
        · next after refused =>
            rw [refused] at acting
            exact named.trans acting
        · next after allowed =>
            rw [allowed] at acting
            have looked := server.env_storedCredential after id
            split
            · next fault final missing =>
                rw [missing] at looked
                exact (named.trans acting).trans (.of_same (congrArg Environment.log looked))
            · next credential final found =>
                rw [found] at looked
                exact (named.trans acting).trans (.of_same (congrArg Environment.log looked))

theorem logs_clientFirst (server : Server) (ctx : Context D C) (message : Bytes)
    (alarms : ∀ event, Alarm ctx event → kind event) :
    ctx.env.Logs kind (server.clientFirst ctx message).2.env := by
  cases parsed : ClientFirst.parse message with
  | error fault =>
      rw [clientFirst_of_malformed server ctx parsed]
      exact logs_refuse routine ctx (ClientFirst.isInternal_of_parse parsed)
  | ok first =>
      have noted : ctx.env.Logs kind
          (ctx.noteScram (.parsed first.authcid first.authzid)).env :=
        .note _ (routine _ trivial rfl)
      have credited := noted.trans (logs_credentialFor routine server
        (ctx.noteScram (.parsed first.authcid first.authzid)) first)
      obtain ⟨outcome, middle, chosen, -, -, cases⟩ :=
        server.credentialFor_cases (ctx.noteScram (.parsed first.authcid first.authzid)) first
      rw [chosen] at credited
      rcases cases with ⟨fault, rfl⟩ | ⟨credential, account, rfl, near, -⟩
      · rw [clientFirst_of_fault parsed chosen]
        rcases fault_credentialFor chosen with outside | ⟨rfl, account, known, gone⟩
        · exact credited.trans (logs_refuse routine middle outside)
        · exact credited.trans (.note _ (alarms _ (.accountMissing known gone)))
      · cases drawn : (middle.env.entropy.fill Limits.nonceLengthRaw).1 with
        | none =>
            rw [clientFirst_of_undrawn parsed chosen drawn]
            have entropy : middle.env.entropy = ctx.env.entropy := near.entropy
            rw [entropy] at drawn
            exact credited.trans (.note _ (alarms _ (.randomSource drawn)))
        | some serverNonce =>
            rw [clientFirst_of_drawn parsed chosen drawn]
            exact credited.trans (.of_same rfl)

theorem logs_step (server : Server) (ctx : Context D C) (message : Bytes)
    (alarms : ∀ event, Alarm ctx event → kind event) :
    ctx.env.Logs kind (server.step ctx message).2.env := by
  unfold step
  split
  · exact logs_clientFirst routine server ctx message alarms
  · next exchange kept =>
      split
      · next complete =>
          exact logs_acknowledge routine ctx exchange
            (fun nobody _ => alarms _ (.unknownAccount kept complete nobody))
            fun _ _ somebody failed _ => alarms _ (.conversionFailed kept complete somebody failed)
      · exact logs_clientFinal routine ctx exchange message
  · next state other kept =>
      exact .note _ (alarms _ (.foreignState kept other))

end Server

end Scram

end Notes

/-! ## The directory -/

/-- One directory has come from another one by replacing stored hashes. -/
def Rehashed : D → D → Prop :=
  Relation.ReflTransGen fun before after =>
    ∃ id hash, after = (AccountDirectory.setPassword before id hash).2

theorem Rehashed.refl (accounts : D) : Rehashed accounts accounts := Relation.ReflTransGen.refl

theorem Rehashed.of_same {before after : D} (same : after = before) : Rehashed before after := by
  rw [same]
  exact .refl before

theorem Rehashed.rewrite (accounts : D) (id : AccountId) (credential : Credential) :
    Rehashed accounts (AccountDirectory.rewrite accounts id credential).2 := by
  unfold AccountDirectory.rewrite
  cases credential.encode with
  | error cause => exact .refl accounts
  | ok hash => exact Relation.ReflTransGen.single ⟨id, hash, rfl⟩

/-! ## Steps -/

namespace Context

/-- A step may lie between two contexts: hashes were replaced, and notes were written. -/
structure Works (before after : Context D C) : Prop where
  accounts : Rehashed before.accounts after.accounts
  log : before.env.Logs Log.Event.IsNote after.env

theorem Works.trans {first second third : Context D C} (early : first.Works second)
    (late : second.Works third) : first.Works third :=
  ⟨Relation.ReflTransGen.trans early.accounts late.accounts, early.log.trans late.log⟩

/-- What neither touches the directory nor writes to the log may lie in a step. -/
theorem Works.of_same {before after : Context D C} (accounts : after.accounts = before.accounts)
    (log : after.env.log = before.env.log) : before.Works after :=
  ⟨.of_same accounts, .of_same log⟩

theorem Works.refl (ctx : Context D C) : ctx.Works ctx := .of_same rfl rfl

theorem works_rewriteCredential (ctx : Context D C) (id : AccountId) (credential : Credential) :
    ctx.Works (ctx.rewriteCredential id credential).2 := ⟨.rewrite _ _ _, .refl _⟩

/-- To rewrite a credential that has a text is to store that text. -/
theorem accounts_rewriteCredential (ctx : Context D C) (id : AccountId)
    {credential : Credential} {hash : String} (encoded : credential.encode = .ok hash) :
    (ctx.rewriteCredential id credential).2.accounts =
      (AccountDirectory.setPassword ctx.accounts id hash).2 := by
  simp only [rewriteCredential, AccountDirectory.rewrite, encoded]

/-- To rewrite a credential is to store its text, or to do nothing if it has none. -/
theorem accounts_rewriteCredential_cases (ctx : Context D C) (id : AccountId)
    (credential : Credential) :
    (ctx.rewriteCredential id credential).2.accounts = ctx.accounts ∨
      ∃ hash, credential.encode = .ok hash ∧ (ctx.rewriteCredential id credential).2.accounts =
        (AccountDirectory.setPassword ctx.accounts id hash).2 := by
  cases encoded : credential.encode with
  | error cause =>
      refine .inl ?_
      simp only [rewriteCredential, AccountDirectory.rewrite, encoded]
  | ok hash => exact .inr ⟨hash, rfl, ctx.accounts_rewriteCredential id encoded⟩

theorem works_resolveAuthcid (ctx : Context D C) (name : String) :
    ctx.Works (ctx.resolveAuthcid name).2 := by
  obtain ⟨id, after, resolved, near, -⟩ := ctx.resolveAuthcid_cases name
  refine ⟨.of_same ?_, logs_resolveAuthcid (fun _ note _ => note) ctx name⟩
  rw [resolved]
  exact near.accounts

theorem works_resolveAuthzid (ctx : Context D C) (name : String) :
    ctx.Works (ctx.resolveAuthzid name).2 := by
  obtain ⟨id, after, resolved, near, -⟩ := ctx.resolveAuthzid_cases name
  refine ⟨.of_same ?_, logs_resolveAuthzid (fun _ note _ => note) ctx name⟩
  rw [resolved]
  exact near.accounts

end Context

theorem External.works_start (ctx : Context D C) : ctx.Works (External.start ctx).2 := by
  refine ⟨.of_same ?_, External.logs_start (fun _ note _ => note) ctx⟩
  unfold External.start
  split <;> rfl

theorem External.works_step (ctx : Context D C) (data : Bytes) :
    ctx.Works (External.step ctx data).2 := by
  obtain ⟨step, after, done, near, -⟩ := External.step_cases ctx data
  refine ⟨.of_same ?_, External.logs_step (fun _ note _ => note) ctx data⟩
  rw [done]
  exact near.accounts

variable [CredentialStore C]

theorem Scram.Server.works_step (server : Server) (ctx : Context D C) (message : Bytes) :
    ctx.Works (server.step ctx message).2 := by
  refine ⟨?_, logs_step (fun _ note _ => note) server ctx message fun _ alarm => alarm.isNote⟩
  rcases accounts_step server ctx message with same | ⟨id, credential, rewritten⟩
  · exact .of_same same
  · rw [rewritten]
    exact .rewrite ctx.accounts id credential

theorem Plain.works_step (ctx : Context D C) (data : Bytes) :
    ctx.Works (Plain.step ctx data).2 := by
  obtain ⟨step, after, done, near, -⟩ := Plain.step_cases ctx data
  refine ⟨.of_same ?_, Plain.logs_step (fun _ note _ => note) ctx data⟩
  rw [done]
  exact near.accounts

namespace Script

theorem works_act (ctx : Context D C) (action : Action) : ctx.Works (act ctx action) := by
  cases action with
  | authcid name => exact (ctx.works_resolveAuthcid name).trans (.of_same rfl rfl)
  | authzid name => exact (ctx.works_resolveAuthzid name).trans (.of_same rfl rfl)
  | appendText text =>
      simp only [act]
      split
      · exact .of_same rfl rfl
      · exact .refl ctx
  | state =>
      simp only [act]
      split <;> exact .of_same rfl rfl
  | rewrite id hash =>
      simp only [act]
      split
      · exact .of_same rfl rfl
      · next credential _ =>
          exact (ctx.works_rewriteCredential id credential).trans (.of_same rfl rfl)
  | _ => exact .of_same rfl rfl

theorem works_run (inner : Scram.Server) (data : Bytes) (actions : List Action)
    (ctx : Context D C) : ctx.Works (run inner data actions ctx).2 := by
  fun_induction run inner data actions ctx with
  | case7 => exact inner.works_step _ data
  | case8 =>
      rename_i following
      exact (works_act _ _).trans following
  | _ => exact .refl _

theorem works_step (script : Script) (serial : Nat) (ctx : Context D C) (data : Bytes) :
    ctx.Works (script.step serial ctx data).2 := by
  refine Context.Works.trans ?_ (works_run script.inner data _ _)
  exact .of_same rfl rfl

end Script

/-- A turn of a mechanism replaces stored hashes at most, and writes notes at most. -/
theorem Registration.works_turn (registration : Registration) (ctx : Context D C)
    (message : Option Bytes) : ctx.Works (registration.turn ctx message).2 := by
  cases message with
  | none =>
      simp only [turn, start]
      split
      · exact External.works_start ctx
      · exact Script.works_run _ _ _ ctx
      · exact .refl ctx
  | some message =>
      simp only [turn, step]
      split
      · exact Plain.works_step ctx message
      · exact External.works_step ctx message
      · exact Scram.Server.works_step _ ctx message
      · exact Script.works_step _ _ ctx message
      · exact .refl ctx

end IrcSasl
