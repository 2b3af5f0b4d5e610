import IrcSasl.Account.Memory
import IrcSasl.Proofs.Engine.Run

set_option autoImplicit false

/-!
# Steps in parallel contexts

Negotiations of different clients share one directory. PLAIN, EXTERNAL and SCRAM read neither the
counts of failed attempts nor the log, so in contexts that differ in nothing else they come to the
same (`Registration.parallel_turn`), as long as no random bytes are drawn.
-/

namespace IrcSasl

/-! ## Counts of failed attempts -/

namespace MemoryDirectory

/-- Two directories differ at most in the counts of failed attempts. -/
def Recounted (first second : MemoryDirectory) : Prop :=
  second = { first with badPasswords := second.badPasswords }

namespace Recounted

theorem refl (directory : MemoryDirectory) : Recounted directory directory := rfl

theorem symm {first second : MemoryDirectory} (recounted : Recounted first second) :
    Recounted second first := by
  unfold Recounted at *
  rw [recounted]

theorem trans {first second third : MemoryDirectory} (early : Recounted first second)
    (late : Recounted second third) : Recounted first third := by
  unfold Recounted at *
  rw [late, early]

theorem badPassword (directory : MemoryDirectory) (id : AccountId) :
    Recounted directory (directory.badPassword id) := by
  unfold Recounted MemoryDirectory.badPassword
  split <;> rfl

section

variable {first second : MemoryDirectory} (recounted : Recounted first second)

include recounted

theorem findByName (name : String) :
    AccountDirectory.findByName second name = AccountDirectory.findByName first name := by
  rw [recounted]
  rfl

theorem findById (id : AccountId) :
    AccountDirectory.findById second id = AccountDirectory.findById first id := by
  rw [recounted]
  rfl

theorem findByCertfp (certfp : String) :
    AccountDirectory.findByCertfp second certfp = AccountDirectory.findByCertfp first certfp := by
  rw [recounted]
  rfl

theorem admission (account : Account) :
    AccountDirectory.admission second account = AccountDirectory.admission first account := by
  rw [recounted]
  rfl

theorem setPassword (id : AccountId) (hash : String) :
    (second.setPassword id hash).1 = (first.setPassword id hash).1 ∧
      Recounted (first.setPassword id hash).2 (second.setPassword id hash).2 := by
  have same : second.accounts = first.accounts := by rw [recounted]
  unfold MemoryDirectory.setPassword
  rw [same]
  cases first.accounts.find? id with
  | none => exact ⟨rfl, recounted⟩
  | some account =>
      refine ⟨rfl, ?_⟩
      unfold Recounted at recounted ⊢
      rw [recounted]

theorem rewrite (id : AccountId) (credential : Credential) :
    (AccountDirectory.rewrite second id credential).1 =
        (AccountDirectory.rewrite first id credential).1 ∧
      Recounted (AccountDirectory.rewrite first id credential).2
        (AccountDirectory.rewrite second id credential).2 := by
  unfold AccountDirectory.rewrite
  cases credential.encode with
  | error cause => exact ⟨rfl, recounted⟩
  | ok hash =>
      obtain ⟨known, after⟩ := recounted.setPassword id hash
      exact ⟨congrArg Except.ok known, after⟩

end

end Recounted

end MemoryDirectory

/-! ## Services -/

namespace Context

variable {C : Type}

/-- Two contexts that differ in nothing that a step of PLAIN, EXTERNAL or SCRAM reads before it
draws random bytes. -/
structure Parallel (first second : Context MemoryDirectory C) : Prop where
  session : second.session = first.session
  accounts : first.accounts.Recounted second.accounts
  credentials : second.credentials = first.credentials
  registry : second.registry = first.registry
  mechlist : second.mechlist = first.mechlist

/-- What is come to in parallel contexts is the same, and leaves them parallel. -/
def Agree {α : Type} (first second : α × Context MemoryDirectory C) : Prop :=
  ∃ value left right, first = (value, left) ∧ second = (value, right) ∧ Parallel left right

theorem Agree.of_parallel {α : Type} (value : α) {first second : Context MemoryDirectory C}
    (parallel : first.Parallel second) : Agree (value, first) (value, second) :=
  ⟨value, first, second, rfl, rfl, parallel⟩

namespace Parallel

variable {first second : Context MemoryDirectory C} (parallel : first.Parallel second)

include parallel

theorem note (one other : Log.ClientNote) : (first.note one).Parallel (second.note other) :=
  ⟨parallel.session, parallel.accounts, parallel.credentials, parallel.registry, parallel.mechlist⟩

theorem noteScram (one other : Log.ScramNote) :
    (first.noteScram one).Parallel (second.noteScram other) :=
  ⟨parallel.session, parallel.accounts, parallel.credentials, parallel.registry, parallel.mechlist⟩

theorem setState (state : MechanismState) :
    (first.setState state).Parallel (second.setState state) := by
  refine ⟨?_, parallel.accounts, parallel.credentials, parallel.registry, parallel.mechlist⟩
  unfold Context.setState
  rw [parallel.session]

theorem setAuthc (identity : Identity) :
    (first.setAuthc identity).Parallel (second.setAuthc identity) := by
  refine ⟨?_, parallel.accounts, parallel.credentials, parallel.registry, parallel.mechlist⟩
  unfold Context.setAuthc
  rw [parallel.session]

theorem setAuthz (identity : Identity) :
    (first.setAuthz identity).Parallel (second.setAuthz identity) := by
  refine ⟨?_, parallel.accounts, parallel.credentials, parallel.registry, parallel.mechlist⟩
  unfold Context.setAuthz
  rw [parallel.session]

theorem recalcMechlist (id : AccountId) (avoid : List String) :
    (first.recalcMechlist id avoid).Parallel (second.recalcMechlist id avoid) := by
  refine ⟨parallel.session, parallel.accounts, parallel.credentials, parallel.registry, ?_⟩
  unfold Context.recalcMechlist
  simp only [parallel.accounts.findById, parallel.registry]

theorem rewriteCredential (id : AccountId) (credential : Credential) :
    Agree (first.rewriteCredential id credential) (second.rewriteCredential id credential) := by
  obtain ⟨outcome, after⟩ := parallel.accounts.rewrite id credential
  refine ⟨_, _, _, rfl, Prod.ext outcome rfl, ?_⟩
  exact ⟨parallel.session, after, parallel.credentials, parallel.registry, parallel.mechlist⟩

theorem canLogin (name : String) (other : Option AccountId) :
    Agree (first.canLogin name other) (second.canLogin name other) := by
  unfold Context.canLogin
  rw [parallel.accounts.findByName]
  cases AccountDirectory.findByName first.accounts name with
  | none => exact .of_parallel none parallel
  | some account =>
      simp only [parallel.accounts.admission]
      split
      · exact .of_parallel _ parallel
      · cases AccountDirectory.admission first.accounts account with
        | allow => exact .of_parallel _ parallel
        | deny reason => exact .of_parallel none (parallel.note _ _)

theorem resolveAuthcid (name : String) :
    Agree (first.resolveAuthcid name) (second.resolveAuthcid name) := by
  obtain ⟨found, left, right, one, other, after⟩ :=
    parallel.canLogin name (first.session.authz.map Identity.id)
  unfold Context.resolveAuthcid
  rw [parallel.session, one, other]
  cases found with
  | none => exact .of_parallel none after
  | some identity => exact .of_parallel _ (after.setAuthc identity)

theorem resolveAuthzid (name : String) :
    Agree (first.resolveAuthzid name) (second.resolveAuthzid name) := by
  unfold Context.resolveAuthzid
  rw [parallel.session]
  cases first.session.authc with
  | none => exact .of_parallel none (parallel.note _ _)
  | some authc =>
      obtain ⟨found, left, right, one, other, after⟩ := parallel.canLogin name (some authc.id)
      simp only [one, other]
      cases found with
      | none => exact .of_parallel none after
      | some identity => exact .of_parallel _ (after.setAuthz identity)

theorem resolveOptionalAuthzid (name : Option String) :
    Agree (first.resolveOptionalAuthzid name) (second.resolveOptionalAuthzid name) := by
  cases name with
  | none => exact .of_parallel true parallel
  | some name =>
      obtain ⟨found, left, right, one, other, after⟩ := parallel.resolveAuthzid name
      unfold Context.resolveOptionalAuthzid
      simp only [one, other]
      cases found with
      | none => exact .of_parallel false after
      | some id => exact .of_parallel true after

end Parallel

end Context

open Context (Agree Parallel)

variable {C : Type} {first second : Context MemoryDirectory C}

/-! ## PLAIN and EXTERNAL -/

theorem Plain.parallel_step [CredentialStore C] (parallel : first.Parallel second) (data : Bytes) :
    Agree (Plain.step first data) (Plain.step second data) := by
  unfold step
  cases parse data with
  | none => exact .of_parallel _ (parallel.note _ _)
  | some message =>
      obtain ⟨found, left, right, one, other, known⟩ := parallel.resolveAuthcid message.authcid
      simp only [one, other]
      cases found with
      | none => exact .of_parallel _ (known.note _ _)
      | some id =>
          obtain ⟨allowed, left, right, one, other, acting⟩ :=
            known.resolveOptionalAuthzid message.otherName
          simp only [one, other]
          cases allowed with
          | false => exact .of_parallel _ (acting.note _ _)
          | true =>
              simp only [acting.accounts.findById, acting.credentials]
              cases AccountDirectory.findById left.accounts id with
              | none => exact .of_parallel _ acting
              | some account =>
                  simp only
                  split
                  · exact .of_parallel _ (acting.note _ _)
                  · split
                    · exact .of_parallel _ acting
                    · exact .of_parallel _ acting

namespace External

theorem parallel_start (parallel : first.Parallel second) :
    Agree (External.start first) (External.start second) := by
  unfold start
  rw [parallel.session]
  cases first.session.info.certfp with
  | none => exact .of_parallel _ (parallel.note _ _)
  | some certfp => exact .of_parallel _ parallel

theorem parallel_step (parallel : first.Parallel second) (data : Bytes) :
    Agree (External.step first data) (External.step second data) := by
  unfold step
  cases parse data with
  | none => exact .of_parallel _ (parallel.note _ _)
  | some authzid =>
      simp only [parallel.session]
      cases first.session.info.certfp with
      | none => exact .of_parallel _ parallel
      | some certfp =>
          simp only [parallel.accounts.findByCertfp]
          cases AccountDirectory.findByCertfp first.accounts certfp with
          | none => exact .of_parallel _ (parallel.note _ _)
          | some account =>
              obtain ⟨found, left, right, one, other, known⟩ :=
                parallel.resolveAuthcid account.name
              simp only [one, other]
              cases found with
              | none => exact .of_parallel _ (known.note _ _)
              | some id =>
                  obtain ⟨allowed, left, right, one, other, acting⟩ :=
                    known.resolveOptionalAuthzid (if authzid.isEmpty then none else some authzid)
                  simp only [one, other]
                  cases allowed with
                  | false => exact .of_parallel _ (acting.note _ _)
                  | true => exact .of_parallel _ acting

end External

/-! ## SCRAM -/

namespace Scram

theorem parallel_refuse (parallel : first.Parallel second) (fault : Fault) :
    Agree (refuse first fault) (refuse second fault) :=
  .of_parallel _ (parallel.noteScram _ _)

theorem parallel_refuseQuietly (parallel : first.Parallel second) (fault : Fault) :
    Agree (refuseQuietly first fault) (refuseQuietly second fault) :=
  .of_parallel _ (parallel.noteScram _ _)

theorem accountRemains_of_recounted {accounts others : MemoryDirectory}
    (recounted : accounts.Recounted others) (exchange : Exchange) :
    accountRemains others exchange = accountRemains accounts exchange := by
  unfold accountRemains
  simp only [recounted.findById]

theorem parallel_clientFinal (parallel : first.Parallel second) (exchange : Exchange)
    (message : Bytes) :
    Agree (clientFinal first exchange message) (clientFinal second exchange message) := by
  unfold clientFinal
  simp only [accountRemains_of_recounted parallel.accounts]
  cases checkMessage message with
  | error fault => exact parallel_refuse parallel fault
  | ok _ =>
      simp only
      split
      · exact parallel_refuse parallel _
      · cases exchange.readProof message with
        | error fault => exact parallel_refuse parallel fault
        | ok proof =>
            simp only
            split
            · exact .of_parallel _ ((parallel.noteScram _ _).setState _)
            · exact .of_parallel _ (parallel.noteScram _ _)

theorem parallel_acknowledge (parallel : first.Parallel second) (exchange : Exchange) :
    Agree (acknowledge first exchange) (acknowledge second exchange) := by
  unfold acknowledge
  simp only [accountRemains_of_recounted parallel.accounts]
  split
  · exact parallel_refuseQuietly parallel _
  · cases exchange.account with
    | none => exact parallel_refuseQuietly parallel _
    | some id =>
        simp only
        split
        · exact .of_parallel _ parallel
        · obtain ⟨outcome, left, right, one, other, after⟩ :=
            (parallel.noteScram .converting .converting).rewriteCredential id
              exchange.upgraded.credential
          simp only [one, other]
          match outcome with
          | .ok true => exact .of_parallel _ ((after.noteScram _ _).setState _)
          | .ok false => exact parallel_refuseQuietly after _
          | .error cause => exact .of_parallel _ (after.noteScram _ _)

variable [CredentialStore C]

namespace Server

theorem parallel_storedCredential (server : Server) (parallel : first.Parallel second)
    (id : AccountId) :
    Agree (server.storedCredential first id) (server.storedCredential second id) := by
  unfold storedCredential
  simp only [parallel.accounts.findById, parallel.credentials]
  cases AccountDirectory.findById first.accounts id with
  | none => exact .of_parallel _ parallel
  | some account =>
      simp only
      split
      · exact .of_parallel _ parallel
      · split
        · exact .of_parallel _ parallel
        · cases account.password.bind (CredentialStore.extract first.credentials) with
          | none => exact .of_parallel _ parallel
          | some credential =>
              simp only
              split
              · exact .of_parallel _ (parallel.recalcMechlist _ _)
              · exact .of_parallel _ parallel

theorem parallel_credentialFor (server : Server) (parallel : first.Parallel second)
    (opening : ClientFirst) :
    Agree (server.credentialFor first opening) (server.credentialFor second opening) := by
  unfold credentialFor
  simp only [parallel.accounts.findByName]
  cases AccountDirectory.findByName first.accounts opening.authcid with
  | none => exact .of_parallel _ (parallel.noteScram _ _)
  | some account =>
      obtain ⟨found, left, right, one, other, known⟩ := parallel.resolveAuthcid opening.authcid
      simp only [one, other]
      cases found with
      | none => exact .of_parallel _ known
      | some id =>
          obtain ⟨allowed, left, right, one, other, acting⟩ :=
            known.resolveOptionalAuthzid opening.authzid
          simp only [one, other]
          cases allowed with
          | false => exact .of_parallel _ acting
          | true =>
              obtain ⟨stored, left, right, one, other, after⟩ :=
                server.parallel_storedCredential acting id
              simp only [one, other]
              cases stored with
              | error fault => exact .of_parallel _ after
              | ok credential => exact .of_parallel _ after

/-- A first message that no random bytes are drawn for is refused. -/
theorem parallel_clientFirst (server : Server) (parallel : first.Parallel second) (message : Bytes)
    (undrawn : (server.clientFirst first message).2.env.entropy.drawn =
      first.env.entropy.drawn) :
    Agree (server.clientFirst first message) (server.clientFirst second message) := by
  cases parsed : ClientFirst.parse message with
  | error fault =>
      rw [clientFirst_of_malformed server first parsed,
        clientFirst_of_malformed server second parsed]
      exact parallel_refuse parallel fault
  | ok opening =>
      obtain ⟨outcome, left, right, one, other, after⟩ := server.parallel_credentialFor
        (parallel.noteScram (.parsed opening.authcid opening.authzid)
          (.parsed opening.authcid opening.authzid)) opening
      cases outcome with
      | error fault =>
          rw [clientFirst_of_fault parsed one, clientFirst_of_fault parsed other]
          exact parallel_refuse after fault
      | ok credited =>
          obtain ⟨credential, account⟩ := credited
          obtain ⟨outcome, middle, chosen, -, -, cases⟩ := server.credentialFor_cases
            (first.noteScram (.parsed opening.authcid opening.authzid)) opening
          cases one.symm.trans chosen
          have near : left.env.entropy = first.env.entropy := by
            rcases cases with ⟨fault, absurd⟩ | ⟨_, _, -, near, -⟩
            · cases absurd
            · exact near.entropy
          have drawn : (server.clientFirst first message).2.env.entropy.drawn =
              first.env.entropy.drawn + 1 := by
            rw [← near]
            cases given : (left.env.entropy.fill Limits.nonceLengthRaw).1 with
            | none => rw [clientFirst_of_undrawn parsed one given]; rfl
            | some serverNonce => rw [clientFirst_of_drawn parsed one given]; rfl
          omega

theorem parallel_step (server : Server) (parallel : first.Parallel second) (message : Bytes)
    (undrawn : (server.step first message).2.env.entropy.drawn = first.env.entropy.drawn) :
    Agree (server.step first message) (server.step second message) := by
  unfold step at undrawn ⊢
  rw [parallel.session]
  split at undrawn
  · exact server.parallel_clientFirst parallel message undrawn
  · next exchange _ =>
      split
      · exact parallel_acknowledge parallel exchange
      · exact parallel_clientFinal parallel exchange message
  · exact parallel_refuse parallel _

end Server

end Scram

variable [CredentialStore C]

namespace Registration

variable {registration : Registration}
  (standard : registration.mechanism.isStandard = true) {message : Option Bytes}

include standard

/-- In parallel contexts PLAIN, EXTERNAL and SCRAM come to the same, unless one draws random bytes.
-/
theorem parallel_turn (parallel : first.Parallel second)
    (undrawn : (registration.turn first message).2.env.entropy.drawn = first.env.entropy.drawn) :
    Agree (registration.turn first message) (registration.turn second message) := by
  cases message with
  | none =>
      change Agree (registration.start first) (registration.start second)
      unfold start
      split
      · exact External.parallel_start parallel
      · next script scripted =>
          rw [scripted] at standard
          cases standard
      · exact .of_parallel _ parallel
  | some message =>
      change Agree (registration.step first message) (registration.step second message)
      change (registration.step first message).2.env.entropy.drawn = _ at undrawn
      unfold step at undrawn ⊢
      split at undrawn
      · exact Plain.parallel_step parallel message
      · exact External.parallel_step parallel message
      · next server _ => exact server.parallel_step parallel message undrawn
      · next script scripted =>
          rw [scripted] at standard
          cases standard
      · exact .of_parallel _ parallel

end Registration

end IrcSasl
