import IrcSasl.Mechanism.Script
import IrcSasl.Proofs.Mechanism.Identities

set_option autoImplicit false

/-!
# What a step of a mechanism can do

For each standard mechanism one theorem says everything that a step can come to. Every step, also
that of a script, keeps the session but for its identities and what the mechanism keeps
(`Registration.keeps_step`), and only the acknowledgement of SCRAM and scripts touch the accounts.
-/

namespace IrcSasl

variable {D C : Type} [AccountDirectory D]

/-! ## PLAIN and EXTERNAL -/

namespace Plain

variable [CredentialStore C]

/-- A message of PLAIN is refused, or it identifies the client and its password is right or
wrong. -/
theorem step_cases (ctx : Context D C) (data : Bytes) :
    ∃ step after, Plain.step ctx data = (step, after) ∧ ctx.Near after ∧
      (step = .refused [] ∨ ∃ message source, parse data = some message ∧
        Identified ctx.accounts message.authcid message.otherName ctx.session.authz source
          after.session ∧ (step = .success ∨ step = .failure [])) := by
  unfold Plain.step
  split
  · exact ⟨_, _, rfl, ctx.near_note _, .inl rfl⟩
  · next message parsed =>
      obtain ⟨id, first, resolved, near, outcome⟩ :=
        ctx.identify_cases message.authcid message.otherName
      simp only [resolved]
      rcases outcome with rfl | ⟨source, allowed, second, rfl, resolvedOther, both, outcome⟩
      · exact ⟨_, _, rfl, near.trans (first.near_note _), .inl rfl⟩
      · simp only [resolvedOther]
        rcases outcome with rfl | identified
        · exact ⟨_, _, rfl, both.trans (second.near_note _), .inl rfl⟩
        · cases allowed with
          | false => exact ⟨_, _, rfl, both.trans (second.near_note _), .inl rfl⟩
          | true =>
              simp only
              split
              · exact ⟨_, _, rfl, both, .inl rfl⟩
              · split
                · exact ⟨_, _, rfl, both.trans (second.near_note _), .inl rfl⟩
                · split
                  · exact ⟨_, _, rfl, both, .inr ⟨message, source, parsed, identified, .inl rfl⟩⟩
                  · exact ⟨_, _, rfl, both, .inr ⟨message, source, parsed, identified, .inr rfl⟩⟩

end Plain

namespace External

/-- Whom the client wants to act as other than itself. -/
def otherName (authzid : String) : Option String := if authzid.isEmpty then none else some authzid

/-- A message of EXTERNAL is refused, or it identifies the client as whoever its certificate belongs
to. -/
theorem step_cases (ctx : Context D C) (data : Bytes) :
    ∃ step after, External.step ctx data = (step, after) ∧ ctx.Near after ∧
      (step = .refused [] ∨ ∃ authzid certfp owner source, parse data = some authzid ∧
        ctx.session.info.certfp = some certfp ∧
        AccountDirectory.findByCertfp ctx.accounts certfp = some owner ∧
        Identified ctx.accounts owner.name (otherName authzid) ctx.session.authz source
          after.session ∧ step = .success) := by
  unfold External.step
  split
  · exact ⟨_, _, rfl, ctx.near_note _, .inl rfl⟩
  · next authzid parsed =>
      split
      · exact ⟨_, _, rfl, .refl ctx, .inl rfl⟩
      · next certfp presented =>
          split
          · exact ⟨_, _, rfl, ctx.near_note _, .inl rfl⟩
          · next owner owned =>
              obtain ⟨id, first, resolved, near, outcome⟩ :=
                ctx.identify_cases owner.name (otherName authzid)
              simp only [resolved]
              rcases outcome with rfl | ⟨source, allowed, second, rfl, resolvedOther, both, outcome⟩
              · exact ⟨_, _, rfl, near.trans (first.near_note _), .inl rfl⟩
              · simp only [otherName] at resolvedOther
                simp only [resolvedOther]
                rcases outcome with rfl | identified
                · exact ⟨_, _, rfl, both.trans (second.near_note _), .inl rfl⟩
                · cases allowed with
                  | false => exact ⟨_, _, rfl, both.trans (second.near_note _), .inl rfl⟩
                  | true =>
                      exact ⟨_, _, rfl, both, .inr ⟨authzid, certfp, owner, source, parsed,
                        presented, owned, identified, rfl⟩⟩

end External

/-! ## SCRAM -/

namespace Scram

omit [AccountDirectory D] in
theorem keeps_refuse (ctx : Context D C) (fault : Fault) : ctx.Keeps (refuse ctx fault).2 :=
  (ctx.near_noteScram _).keeps

section

variable [CredentialStore C]

/-- How a server has come by the credential for a first message, given the identities before it: the
credential is made up, and the identities stay, or it is that of the account that the client says to
be. -/
inductive Credited (server : Server) (accounts : D) (credentials : C) (first : ClientFirst)
    (authc authz : Option Identity) (credential : Credential) (account : Option AccountId)
    (after : Session) : Prop where
  | mock (unknown : AccountDirectory.findByName accounts first.authcid = none)
      (made : credential = server.mockCredential first.authcid) (nobody : account = none)
      (sameAuthc : after.authc = authc) (sameAuthz : after.authz = authz)
  | stored {source owner : Account} {hash : String}
      (identified : Identified accounts first.authcid first.authzid authz source after)
      (somebody : account = some source.id)
      (found : AccountDirectory.findById accounts source.id = some owner)
      (allowed : owner.noPassword = false) (hashed : owner.crypt = true)
      (password : owner.password = some hash)
      (extracted : CredentialStore.extract credentials hash = some credential)
      (digest : credential.digest = server.digest)

namespace Server

/-- The credential of an account is only given out if the account can use SCRAM with it. -/
theorem storedCredential_cases (server : Server) (ctx : Context D C) (id : AccountId) :
    ∃ outcome after, server.storedCredential ctx id = (outcome, after) ∧ ctx.Keeps after ∧
      after.accounts = ctx.accounts ∧
      ((∃ fault, outcome = .error fault) ∨ ∃ credential account hash, outcome = .ok credential ∧
        after = ctx ∧ AccountDirectory.findById ctx.accounts id = some account ∧
        account.noPassword = false ∧ account.crypt = true ∧ account.password = some hash ∧
        CredentialStore.extract ctx.credentials hash = some credential ∧
        credential.digest = server.digest) := by
  unfold storedCredential
  split
  · exact ⟨_, ctx, rfl, .refl ctx, rfl, .inl ⟨_, rfl⟩⟩
  · next account found =>
      split
      · exact ⟨_, ctx, rfl, .refl ctx, rfl, .inl ⟨_, rfl⟩⟩
      · next allowed =>
          split
          · exact ⟨_, ctx, rfl, .refl ctx, rfl, .inl ⟨_, rfl⟩⟩
          · next hashed =>
              split
              · exact ⟨_, ctx, rfl, .refl ctx, rfl, .inl ⟨_, rfl⟩⟩
              · next credential extracted =>
                  split
                  · exact ⟨_, _, rfl, ctx.keeps_recalcMechlist _ _, rfl, .inl ⟨_, rfl⟩⟩
                  · next digest =>
                      obtain ⟨hash, password, extracted⟩ := Option.bind_eq_some_iff.mp extracted
                      refine ⟨_, ctx, rfl, .refl ctx, rfl,
                        .inr ⟨credential, account, hash, rfl, rfl, found, ?_, ?_, password,
                          extracted, ?_⟩⟩
                      · simpa using allowed
                      · simpa using hashed
                      · simpa using digest

/-- A credential for a first message has come about in one of two ways, or there is none. -/
theorem credentialFor_cases (server : Server) (ctx : Context D C) (first : ClientFirst) :
    ∃ outcome after, server.credentialFor ctx first = (outcome, after) ∧ ctx.Keeps after ∧
      after.accounts = ctx.accounts ∧
      ((∃ fault, outcome = .error fault) ∨ ∃ credential account,
        outcome = .ok (credential, account) ∧ ctx.Near after ∧
        Credited server ctx.accounts ctx.credentials first ctx.session.authc ctx.session.authz
          credential account after.session) := by
  unfold credentialFor
  split
  · next unknown =>
      have near := ctx.near_noteScram (.mockCredential first.authcid)
      exact ⟨_, _, rfl, near.keeps, near.accounts,
        .inr ⟨_, _, rfl, near, .mock unknown rfl rfl rfl rfl⟩⟩
  · obtain ⟨id, middle, resolved, near, outcome⟩ := ctx.identify_cases first.authcid first.authzid
    simp only [resolved]
    rcases outcome with rfl | ⟨source, allowed, after, rfl, resolvedOther, both, outcome⟩
    · exact ⟨_, _, rfl, near.keeps, near.accounts, .inl ⟨_, rfl⟩⟩
    · simp only [resolvedOther]
      rcases outcome with rfl | identified
      · exact ⟨_, _, rfl, both.keeps, both.accounts, .inl ⟨_, rfl⟩⟩
      · cases allowed with
        | false => exact ⟨_, _, rfl, both.keeps, both.accounts, .inl ⟨_, rfl⟩⟩
        | true =>
            obtain ⟨outcome, final, looked, kept, same, cases⟩ :=
              server.storedCredential_cases after source.id
            simp only [looked]
            rcases cases with ⟨fault, rfl⟩ | ⟨credential, account, hash, rfl, rfl, found,
              noPassword, crypt, password, extracted, digest⟩
            · exact ⟨_, _, rfl, both.keeps.trans kept, same.trans both.accounts, .inl ⟨_, rfl⟩⟩
            · rw [both.accounts] at found
              rw [both.credentials] at extracted
              exact ⟨_, _, rfl, both.keeps, both.accounts, .inr ⟨_, _, rfl, both,
                .stored identified rfl found noPassword crypt password extracted digest⟩⟩

/-- A message that is no first message is refused. -/
theorem clientFirst_of_malformed (server : Server) (ctx : Context D C) {message : Bytes}
    {fault : Fault} (malformed : ClientFirst.parse message = .error fault) :
    server.clientFirst ctx message = refuse ctx fault := by
  simp only [clientFirst, malformed]

section

variable {server : Server} {ctx middle : Context D C} {message : Bytes} {first : ClientFirst}
  (parsed : ClientFirst.parse message = .ok first)

include parsed

/-- A first message that there is no credential for is refused. -/
theorem clientFirst_of_fault {fault : Fault}
    (credited : server.credentialFor (ctx.noteScram (.parsed first.authcid first.authzid)) first =
      (.error fault, middle)) :
    server.clientFirst ctx message = refuse middle fault := by
  simp only [clientFirst, parsed, credited]

variable {credential : Credential} {account : Option AccountId}
  (credited : server.credentialFor (ctx.noteScram (.parsed first.authcid first.authzid)) first =
    (.ok (credential, account), middle))

include credited

/-- A first message that there is a credential for is refused without random bytes. -/
theorem clientFirst_of_undrawn
    (drawn : (middle.env.entropy.fill Limits.nonceLengthRaw).1 = none) :
    server.clientFirst ctx message =
      refuse (middle.draw Limits.nonceLengthRaw).2 .randomSource := by
  have drawn : (middle.draw Limits.nonceLengthRaw).1 = none := drawn
  simp only [clientFirst, parsed, credited]
  rw [show middle.draw Limits.nonceLengthRaw =
    (none, (middle.draw Limits.nonceLengthRaw).2) from Prod.ext drawn rfl]

/-- A first message that there is a credential for opens an exchange with the next random bytes. -/
theorem clientFirst_of_drawn {serverNonce : Bytes}
    (drawn : (middle.env.entropy.fill Limits.nonceLengthRaw).1 = some serverNonce) :
    let exchange := Exchange.start first credential account serverNonce
    server.clientFirst ctx message = (.more (Bytes.ofString exchange.serverFirst),
      (middle.draw Limits.nonceLengthRaw).2.setState (.scram exchange)) := by
  have drawn : (middle.draw Limits.nonceLengthRaw).1 = some serverNonce := drawn
  simp only [clientFirst, parsed, credited]
  rw [show middle.draw Limits.nonceLengthRaw =
    (some serverNonce, (middle.draw Limits.nonceLengthRaw).2) from Prod.ext drawn rfl]

end

/-- The first message is refused, or it opens an exchange with the next random bytes. -/
theorem clientFirst_cases (server : Server) (ctx : Context D C) (message : Bytes) :
    ∃ step after, server.clientFirst ctx message = (step, after) ∧ ctx.Keeps after ∧
      after.accounts = ctx.accounts ∧
      ((∃ reply, step = .refused reply) ∨ ∃ first credential account serverNonce,
        ClientFirst.parse message = .ok first ∧
        (ctx.env.draw Limits.nonceLengthRaw).1 = some serverNonce ∧
        Credited server ctx.accounts ctx.credentials first ctx.session.authc ctx.session.authz
          credential account after.session ∧
        after.session.state =
          some (.scram (Exchange.start first credential account serverNonce)) ∧
        after.mechlist = ctx.mechlist ∧
        step = .more (Bytes.ofString
          (Exchange.start first credential account serverNonce).serverFirst)) := by
  cases parsed : ClientFirst.parse message with
  | error fault =>
      rw [clientFirst_of_malformed server ctx parsed]
      exact ⟨_, _, rfl, keeps_refuse ctx _, rfl, .inl ⟨_, rfl⟩⟩
  | ok first =>
      have noted := ctx.near_noteScram (.parsed first.authcid first.authzid)
      obtain ⟨outcome, middle, chosen, kept, accounts, cases⟩ :=
        server.credentialFor_cases (ctx.noteScram (.parsed first.authcid first.authzid)) first
      have kept : ctx.Keeps middle := noted.keeps.trans kept
      rcases cases with ⟨fault, rfl⟩ | ⟨credential, account, rfl, near, credited⟩
      · rw [clientFirst_of_fault parsed chosen]
        exact ⟨_, _, rfl, kept.trans (keeps_refuse middle _), accounts, .inl ⟨_, rfl⟩⟩
      · have near : ctx.Near middle := noted.trans near
        cases drawn : (middle.env.entropy.fill Limits.nonceLengthRaw).1 with
        | none =>
            rw [clientFirst_of_undrawn parsed chosen drawn]
            exact ⟨_, _, rfl, (kept.trans (middle.keeps_draw _)).trans (keeps_refuse _ _), accounts,
              .inl ⟨_, rfl⟩⟩
        | some serverNonce =>
            rw [clientFirst_of_drawn parsed chosen drawn]
            refine ⟨_, _, rfl,
              (kept.trans (middle.keeps_draw _)).trans (Context.keeps_setState _ _), accounts,
              .inr ⟨first, credential, account, serverNonce, rfl, ?_, ?_, rfl, near.mechlist,
                rfl⟩⟩
            · have entropy : middle.env.entropy = ctx.env.entropy := near.entropy
              rw [← drawn]
              simp only [Environment.draw, entropy]
            · cases credited with
              | mock unknown made nobody authc authz =>
                  exact .mock unknown made nobody authc authz
              | stored identified somebody found allowed hashed password extracted digest =>
                  have same := identified.authc
                  exact .stored ⟨identified.known, same, identified.authz, identified.admitted⟩
                    somebody found allowed hashed password extracted digest

end Server

end

/-- The final message is refused, or its proof decides. It resolves nobody. -/
theorem clientFinal_cases (ctx : Context D C) (exchange : Exchange) (message : Bytes) :
    ∃ step after, clientFinal ctx exchange message = (step, after) ∧ ctx.Keeps after ∧
      after.accounts = ctx.accounts ∧ after.session.authc = ctx.session.authc ∧
      after.session.authz = ctx.session.authz ∧ after.mechlist = ctx.mechlist ∧
      ((∃ reply, step = .refused reply) ∨ ∃ proof, exchange.readProof message = .ok proof ∧
        (exchange.accepts proof = true ∧
            after.session.state = some (.scram { exchange with complete := true }) ∧
            step = .more (Bytes.ofString ("v=" ++ Base64.encodeText exchange.serverSignature)) ∨
          exchange.accepts proof = false ∧ step = .failure (errorReply "invalid-proof"))) := by
  unfold clientFinal
  split
  · exact ⟨_, _, rfl, keeps_refuse ctx _, rfl, rfl, rfl, rfl, .inl ⟨_, rfl⟩⟩
  · split
    · exact ⟨_, _, rfl, keeps_refuse ctx _, rfl, rfl, rfl, rfl, .inl ⟨_, rfl⟩⟩
    · split
      · exact ⟨_, _, rfl, keeps_refuse ctx _, rfl, rfl, rfl, rfl, .inl ⟨_, rfl⟩⟩
      · next proof read =>
          split
          · next accepted =>
              exact ⟨_, _, rfl, ⟨rfl, rfl, rfl⟩, rfl, rfl, rfl, rfl,
                .inr ⟨proof, read, .inl ⟨accepted, rfl, rfl⟩⟩⟩
          · next rejected =>
              exact ⟨_, _, rfl, ⟨rfl, rfl, rfl⟩, rfl, rfl, rfl, rfl,
                .inr ⟨proof, read, .inr ⟨by simpa using rejected, rfl⟩⟩⟩

/-- The acknowledgement is refused or concludes the exchange of an account that is still there. Its
credential may have been rewritten. -/
theorem acknowledge_cases (ctx : Context D C) (exchange : Exchange) :
    ∃ step after, acknowledge ctx exchange = (step, after) ∧ ctx.Keeps after ∧
      after.session.authc = ctx.session.authc ∧ after.session.authz = ctx.session.authz ∧
      after.mechlist = ctx.mechlist ∧
      (after.accounts = ctx.accounts ∨ ∃ id credential,
        after.accounts = (AccountDirectory.rewrite ctx.accounts id credential).2) ∧
      (step = .refused [] ∨ step = .success ∧ ∃ id, exchange.account = some id ∧
        (AccountDirectory.findById ctx.accounts id).isSome) := by
  unfold acknowledge
  split
  · exact ⟨_, _, rfl, ⟨rfl, rfl, rfl⟩, rfl, rfl, rfl, .inl rfl, .inl rfl⟩
  · next remains =>
      split
      · exact ⟨_, _, rfl, ⟨rfl, rfl, rfl⟩, rfl, rfl, rfl, .inl rfl, .inl rfl⟩
      · next id named =>
          have live : (AccountDirectory.findById ctx.accounts id).isSome := by
            simpa [accountRemains, named, Option.isSome_iff_ne_none] using remains
          split
          · exact ⟨_, _, rfl, .refl ctx, rfl, rfl, rfl, .inl rfl, .inr ⟨rfl, id, named, live⟩⟩
          · have accounts : ((ctx.noteScram .converting).rewriteCredential id
                exchange.upgraded.credential).2.accounts =
                (AccountDirectory.rewrite ctx.accounts id exchange.upgraded.credential).2 := rfl
            have kept := (ctx.near_noteScram .converting).keeps.trans
              (Context.keeps_rewriteCredential (ctx.noteScram .converting) id
                exchange.upgraded.credential)
            generalize rewritten : (ctx.noteScram .converting).rewriteCredential id
              exchange.upgraded.credential = outcome at accounts kept
            have same : outcome.2.session = ctx.session ∧ outcome.2.mechlist = ctx.mechlist := by
              rw [← rewritten]
              exact ⟨rfl, rfl⟩
            obtain ⟨result, after⟩ := outcome
            obtain ⟨session, mechlist⟩ := same
            simp only at accounts kept session mechlist
            have authc : after.session.authc = ctx.session.authc := congrArg Session.authc session
            have authz : after.session.authz = ctx.session.authz := congrArg Session.authz session
            split
            · next rest found =>
                cases found
                exact ⟨_, _, rfl, kept.trans ⟨rfl, rfl, rfl⟩, authc, authz, mechlist,
                  .inr ⟨_, _, accounts⟩, .inr ⟨rfl, id, named, live⟩⟩
            · next rest found =>
                cases found
                exact ⟨_, _, rfl, kept.trans ⟨rfl, rfl, rfl⟩, authc, authz, mechlist,
                  .inr ⟨_, _, accounts⟩, .inl rfl⟩
            · next cause rest found =>
                cases found
                exact ⟨_, _, rfl, kept.trans ⟨rfl, rfl, rfl⟩, authc, authz, mechlist,
                  .inr ⟨_, _, accounts⟩, .inr ⟨rfl, id, named, live⟩⟩

/-- A message for an exchange that waits for its proof is a final one. -/
theorem Server.step_of_waits [CredentialStore C] (server : Server) {ctx : Context D C}
    {exchange : Exchange} (waits : ctx.session.state = some (.scram exchange))
    (unproved : exchange.complete = false) (message : Bytes) :
    server.step ctx message = clientFinal ctx exchange message := by
  simp only [step, waits, unproved, Bool.false_eq_true, if_false]

/-- Only the acknowledgement touches the accounts, and only to rewrite a credential. -/
theorem accounts_step [CredentialStore C] (server : Server) (ctx : Context D C) (message : Bytes) :
    (server.step ctx message).2.accounts = ctx.accounts ∨ ∃ id credential,
      (server.step ctx message).2.accounts =
        (AccountDirectory.rewrite ctx.accounts id credential).2 := by
  unfold Server.step
  split
  · obtain ⟨step, after, stepped, -, accounts, -⟩ := server.clientFirst_cases ctx message
    rw [stepped]
    exact .inl accounts
  · next exchange _ =>
      split
      · obtain ⟨step, after, stepped, -, -, -, -, accounts, -⟩ := acknowledge_cases ctx exchange
        rw [stepped]
        exact accounts
      · obtain ⟨step, after, stepped, -, accounts, -⟩ := clientFinal_cases ctx exchange message
        rw [stepped]
        exact .inl accounts
  · exact .inl rfl

theorem keeps_step [CredentialStore C] (server : Server) (ctx : Context D C) (message : Bytes) :
    ctx.Keeps (server.step ctx message).2 := by
  unfold Server.step
  split
  · obtain ⟨step, after, stepped, kept, -⟩ := server.clientFirst_cases ctx message
    rw [stepped]
    exact kept
  · next exchange _ =>
      split
      · obtain ⟨step, after, stepped, kept, -⟩ := acknowledge_cases ctx exchange
        rw [stepped]
        exact kept
      · obtain ⟨step, after, stepped, kept, -⟩ := clientFinal_cases ctx exchange message
        rw [stepped]
        exact kept
  · exact keeps_refuse ctx _

end Scram

/-! ## Every mechanism -/

variable [CredentialStore C]

namespace Script

theorem keeps_act (ctx : Context D C) (action : Action) : ctx.Keeps (act ctx action) := by
  cases action with
  | authcid name =>
      obtain ⟨id, after, resolved, near, -⟩ := ctx.resolveAuthcid_cases name
      simp only [act, resolved]
      exact (near.trans (after.near_report _)).keeps
  | authzid name =>
      obtain ⟨id, after, resolved, near, -⟩ := ctx.resolveAuthzid_cases name
      simp only [act, resolved]
      exact (near.trans (after.near_report _)).keeps
  | appendText text =>
      simp only [act]
      split
      · exact ctx.keeps_setState _
      · exact .refl ctx
  | state =>
      simp only [act]
      split <;> exact (ctx.near_report _).keeps
  | rewrite id hash =>
      simp only [act]
      split
      · exact (ctx.near_report _).keeps
      · next credential _ =>
          exact (ctx.keeps_rewriteCredential id credential).trans (Context.near_report _ _).keeps
  | setText text => exact ctx.keeps_setState _
  | setNumber number => exact ctx.keeps_setState _
  | recalc id avoid => exact ctx.keeps_recalcMechlist id avoid
  | identities => exact (ctx.near_report _).keeps
  | info => exact (ctx.near_report _).keeps
  | find name => exact (ctx.near_report _).keeps
  | _ => exact .refl ctx

theorem keeps_run (inner : Scram.Server) (data : Bytes) (actions : List Action)
    (ctx : Context D C) : ctx.Keeps (run inner data actions ctx).2 := by
  fun_induction run inner data actions ctx with
  | case1 => exact .refl _
  | case2 => exact .refl _
  | case3 => exact .refl _
  | case4 => exact .refl _
  | case5 => exact .refl _
  | case6 => exact .refl _
  | case7 => exact Scram.keeps_step _ _ _
  | case8 =>
      rename_i following
      exact (keeps_act _ _).trans following

theorem keeps_step (script : Script) (serial : Nat) (ctx : Context D C) (data : Bytes) :
    ctx.Keeps (script.step serial ctx data).2 := by
  refine Context.Keeps.trans ?_ (keeps_run script.inner data _ _)
  exact ⟨rfl, rfl, rfl⟩

end Script

namespace Registration

/-- A registration of a SCRAM server does what the server does. -/
theorem step_of_scram {registration : Registration} {server : Scram.Server}
    (scram : registration.mechanism = .scram server) (ctx : Context D C) (message : Bytes) :
    registration.step ctx message = server.step ctx message := by
  rw [step, scram]

/-- Starting a mechanism keeps the session but for its identities and what the mechanism keeps. -/
theorem keeps_start (registration : Registration) (ctx : Context D C) :
    ctx.Keeps (registration.start ctx).2 := by
  unfold start
  split
  · unfold External.start
    split
    · exact (ctx.near_note _).keeps
    · exact .refl ctx
  · exact Script.keeps_run _ _ _ _
  · exact .refl ctx

/-- A step keeps the session but for its identities and what the mechanism keeps. -/
theorem keeps_step (registration : Registration) (ctx : Context D C) (message : Bytes) :
    ctx.Keeps (registration.step ctx message).2 := by
  unfold step
  split
  · obtain ⟨step, after, stepped, near, -⟩ := Plain.step_cases ctx message
    rw [stepped]
    exact near.keeps
  · obtain ⟨step, after, stepped, near, -⟩ := External.step_cases ctx message
    rw [stepped]
    exact near.keeps
  · exact Scram.keeps_step _ _ _
  · exact Script.keeps_step _ _ _ _
  · exact .refl ctx

end Registration

end IrcSasl
