import IrcSasl.Proofs.Account.Operations
import IrcSasl.Proofs.Engine.Run
import IrcSasl.Proofs.Mechanism.Effects

set_option autoImplicit false

/-!
# What mechanisms store

PLAIN and EXTERNAL leave the directory alone, and so does SCRAM up to the acknowledgement of an
exchange. What is stored then is the credential that the proof was checked against, if its hash had
the legacy layout (`Registration.stores_turn`), and nothing is stored unless the client has
authenticated (`Registration.accounts_turn_of_unsuccessful`).
-/

namespace IrcSasl

variable {D C : Type}

/-- What the acknowledgement of an exchange stores: the credential that the proof was checked
against, if its hash had the legacy layout. -/
structure Scram.Exchange.Stores (exchange : Scram.Exchange) (id : AccountId) (hash : String) :
    Prop where
  account : exchange.account = some id
  legacy : exchange.credential.native = false
  encoded : exchange.credential.encode = .ok hash

section

variable [AccountDirectory D]

theorem Scram.stores_acknowledge (ctx : Context D C) (exchange : Exchange) :
    (acknowledge ctx exchange).2.accounts = ctx.accounts ∨
      ∃ id hash, exchange.Stores id hash ∧ (acknowledge ctx exchange).2.accounts =
        (AccountDirectory.setPassword ctx.accounts id hash).2 := by
  unfold acknowledge
  split
  · exact .inl rfl
  · split
    · exact .inl rfl
    · next id named =>
        split
        · exact .inl rfl
        · next legacy =>
            have legacy : exchange.credential.native = false := by simpa using legacy
            have stored : ((ctx.noteScram .converting).rewriteCredential id
                exchange.upgraded.credential).2.accounts = ctx.accounts ∨
                ∃ named hash, exchange.Stores named hash ∧
                  ((ctx.noteScram .converting).rewriteCredential id
                    exchange.upgraded.credential).2.accounts =
                    (AccountDirectory.setPassword ctx.accounts named hash).2 := by
              rcases (ctx.noteScram .converting).accounts_rewriteCredential_cases id
                exchange.upgraded.credential with same | ⟨hash, encoded, accounts⟩
              · exact .inl same
              · exact .inr ⟨id, hash, ⟨named, legacy, encoded⟩, accounts⟩
            split
            all_goals
              next found =>
                rw [found] at stored
                exact stored

variable [CredentialStore C]

namespace Registration

variable {registration : Registration}
  (standard : registration.mechanism.isStandard = true) (ctx : Context D C)
  (message : Option Bytes)

include standard

/-- PLAIN, EXTERNAL and SCRAM leave the directory alone but at an acknowledgement. -/
theorem acknowledges_of_turn :
    (registration.turn ctx message).2.accounts = ctx.accounts ∨
      ∃ server exchange, message.isSome ∧ registration.mechanism = .scram server ∧
        ctx.session.state = some (.scram exchange) ∧ exchange.complete = true ∧
        registration.turn ctx message = Scram.acknowledge ctx exchange := by
  cases message with
  | none =>
      refine .inl ?_
      change (registration.start ctx).2.accounts = ctx.accounts
      unfold start
      split
      · unfold External.start
        split <;> rfl
      · next script scripted =>
          rw [scripted] at standard
          cases standard
      · rfl
  | some message =>
      have stepped : registration.turn ctx (some message) = registration.step ctx message := rfl
      rw [stepped]
      unfold step
      split
      · obtain ⟨step, after, done, near, -⟩ := Plain.step_cases ctx message
        rw [done]
        exact .inl near.accounts
      · obtain ⟨step, after, done, near, -⟩ := External.step_cases ctx message
        rw [done]
        exact .inl near.accounts
      · next server scram =>
          unfold Scram.Server.step
          split
          · obtain ⟨step, after, done, -, accounts, -⟩ := server.clientFirst_cases ctx message
            rw [done]
            exact .inl accounts
          · next exchange held =>
              split
              · next complete => exact .inr ⟨server, exchange, rfl, scram, held, complete, rfl⟩
              · obtain ⟨step, after, done, -, accounts, -⟩ :=
                  Scram.clientFinal_cases ctx exchange message
                rw [done]
                exact .inl accounts
          · exact .inl rfl
      · next script scripted =>
          rw [scripted] at standard
          cases standard
      · exact .inl rfl

/-- The only hashes that PLAIN, EXTERNAL and SCRAM replace are those of acknowledged exchanges. -/
theorem stores_turn :
    (registration.turn ctx message).2.accounts = ctx.accounts ∨
      ∃ server exchange id hash, message.isSome ∧ registration.mechanism = .scram server ∧
        ctx.session.state = some (.scram exchange) ∧ exchange.complete = true ∧
        exchange.Stores id hash ∧ (registration.turn ctx message).2.accounts =
          (AccountDirectory.setPassword ctx.accounts id hash).2 := by
  rcases acknowledges_of_turn standard ctx message with
    same | ⟨server, exchange, arrived, scram, held, complete, done⟩
  · exact .inl same
  · rw [done]
    rcases Scram.stores_acknowledge ctx exchange with same | ⟨id, hash, stores, made⟩
    · exact .inl same
    · exact .inr ⟨server, exchange, id, hash, arrived, scram, held, complete, stores, made⟩

end Registration

end

/-! ## Directories in memory -/

/-- A hash that is not stored changes nothing. -/
theorem MemoryDirectory.setPassword_of_unknown {directory : MemoryDirectory} {id : AccountId}
    {hash : String} (unknown : (directory.setPassword id hash).1 = false) :
    (directory.setPassword id hash).2 = directory := by
  unfold setPassword at unknown ⊢
  cases found : directory.accounts.find? id with
  | none => rfl
  | some account =>
      rw [found] at unknown
      cases unknown

/-- A credential that finds no account to be stored for changes nothing. -/
theorem Context.accounts_of_unknown (ctx : Context MemoryDirectory C) (id : AccountId)
    (credential : Credential) (unknown : (ctx.rewriteCredential id credential).1 = .ok false) :
    (ctx.rewriteCredential id credential).2.accounts = ctx.accounts := by
  unfold Context.rewriteCredential AccountDirectory.rewrite at unknown ⊢
  cases encoded : credential.encode with
  | error cause => rfl
  | ok hash =>
      rw [encoded] at unknown
      exact MemoryDirectory.setPassword_of_unknown (Except.ok.inj unknown)

/-- An acknowledgement that is refused has stored nothing. -/
theorem Scram.accounts_of_refused {ctx after : Context MemoryDirectory C}
    {exchange : Exchange} {reply : Bytes}
    (refused : acknowledge ctx exchange = (.refused reply, after)) :
    after.accounts = ctx.accounts := by
  unfold acknowledge at refused
  split at refused
  · cases refused
    rfl
  · split at refused
    · cases refused
      rfl
    · next id named =>
        split at refused
        · cases refused
        · have unknown := (ctx.noteScram .converting).accounts_of_unknown id
            exchange.upgraded.credential
          split at refused
          · cases refused
          · next found =>
              rw [found] at unknown
              cases refused
              exact unknown rfl
          · cases refused

/-- PLAIN, EXTERNAL and SCRAM change the directory only where they succeed. -/
theorem Registration.accounts_turn_of_unsuccessful [CredentialStore C]
    {registration : Registration} (standard : registration.mechanism.isStandard = true)
    {ctx after : Context MemoryDirectory C} {message : Option Bytes} {step : Step}
    (turned : registration.turn ctx message = (step, after)) (unsuccessful : step ≠ .success) :
    after.accounts = ctx.accounts := by
  rcases acknowledges_of_turn standard ctx message with same | ⟨server, exchange, -, -, -, -, done⟩
  · rw [turned] at same
    exact same
  · rw [turned] at done
    obtain ⟨other, left, acknowledged, -, -, -, -, -, cases⟩ := Scram.acknowledge_cases ctx exchange
    cases done.trans acknowledged
    rcases cases with rfl | ⟨success, -⟩
    · exact Scram.accounts_of_refused acknowledged
    · exact absurd success unsuccessful

end IrcSasl
