import IrcSasl.Proofs.Account.Operations
import IrcSasl.Proofs.Credential
import IrcSasl.Proofs.Mechanism.Effects
import IrcSasl.Proofs.Scram.Soundness

set_option autoImplicit false

/-!
# Upgrades of stored hashes

When a client has authenticated by SCRAM against a hash of the legacy layout, the keys are written
back in the native layout. What is written is what the first message of the exchange has found, so
it agrees with the hash that it replaces exactly if that one still agrees with the first one
(`hash_after_scram`).
-/

namespace IrcSasl

open PasswordHasher (Agree)

variable {D C : Type} [AccountDirectory D]

namespace Scram

/-- An acknowledgement that succeeds has left a hash of the native layout as it is, and has replaced
one of the legacy layout by the credential of the exchange. -/
theorem accounts_of_acknowledge {ctx after : Context D C} {exchange : Exchange}
    (done : acknowledge ctx exchange = (.success, after)) :
    ∃ id, exchange.account = some id ∧ (AccountDirectory.findById ctx.accounts id).isSome ∧
      (exchange.credential.native = true → after.accounts = ctx.accounts) ∧
      (exchange.credential.native = false → ∀ hash, exchange.credential.encode = .ok hash →
        after.accounts = (AccountDirectory.setPassword ctx.accounts id hash).2) := by
  unfold acknowledge at done
  split at done
  · cases done
  · next remains =>
      split at done
      · cases done
      · next id named =>
          have live : (AccountDirectory.findById ctx.accounts id).isSome := by
            simpa [accountRemains, named, Option.isSome_iff_ne_none] using remains
          refine ⟨id, named, live, ?_⟩
          split at done
          · next native =>
              cases done
              exact ⟨fun _ => rfl, fun legacy => absurd (native.symm.trans legacy) (by decide)⟩
          · next legacy =>
              refine ⟨fun native => absurd native legacy, ?_⟩
              intro _ hash encoded
              have accounts : ((ctx.noteScram .converting).rewriteCredential id
                  exchange.upgraded.credential).2.accounts =
                  (AccountDirectory.setPassword ctx.accounts id hash).2 :=
                (ctx.noteScram .converting).accounts_rewriteCredential id encoded
              split at done
              · next written result =>
                  cases done
                  rw [result] at accounts
                  exact accounts
              · cases done
              · next written result =>
                  cases done
                  rw [result] at accounts
                  exact accounts

variable [CredentialStore C]

/-- SCRAM only succeeds at the acknowledgement of an exchange that two messages went through. -/
theorem acknowledged_of_success {server : Server} {id : String} {dialogue : Dialogue D C}
    {session : Session} {engine : Engine D C} {bytes : Bytes} {after : Context D C}
    (progress : Progress id (.scram server) dialogue session)
    (stepped : server.step (engine.context session) bytes = (.success, after)) :
    ∃ first second opening serverNonce exchange, dialogue.messages = [first, second] ∧
      Opened server id dialogue.leftAuthc dialogue.leftAuthz first opening serverNonce exchange
        session ∧
      acknowledge (engine.context session) { exchange with complete := true } =
        (.success, after) := by
  have kept : (engine.context session).session.state = session.state := rfl
  simp only [Server.step, kept] at stepped
  cases progress with
  | silent said state authc authz =>
      rw [state] at stepped
      obtain ⟨step, result, done, -, -, outcome⟩ :=
        server.clientFirst_cases (engine.context session) bytes
      simp only [done] at stepped
      rcases outcome with ⟨reply, rfl⟩ | ⟨_, _, _, _, _, _, _, _, _, rfl⟩
      · cases stepped
      · cases stepped
  | opened scram said state opened =>
      rw [state] at stepped
      simp only [opened.incomplete, Bool.false_eq_true, if_false] at stepped
      obtain ⟨step, result, done, -, -, -, -, -, outcome⟩ :=
        clientFinal_cases (engine.context session) _ bytes
      rw [done] at stepped
      rcases outcome with ⟨reply, rfl⟩ | ⟨proof, read, ⟨accepted, state, rfl⟩ | ⟨rejected, rfl⟩⟩
      · cases stepped
      · cases stepped
      · cases stepped
  | proved scram said state opened proved =>
      cases scram
      rw [state] at stepped
      simp only [if_true] at stepped
      exact ⟨_, _, _, _, _, said, opened, stepped⟩

end Scram

/-! ## The stored hash -/

/-- A login changes no stored hash, nor does its absence. -/
theorem password_of_success {accounts : MemoryDirectory} {entropy : Entropy} {session : Session}
    {mechanism : String} (id : AccountId) :
    ((Reply.ofStep accounts entropy session mechanism .success).accounts.find? id).map
      Account.password = (accounts.find? id).map Account.password := by
  rcases Reply.accounts_ofStep_success accounts entropy session mechanism with same |
    ⟨uid, account, same⟩
  · rw [same]
  · rw [same]
    exact MemoryDirectory.password_login accounts uid account id

/-- A client that has authenticated by SCRAM leaves the accounts as they are if its first message
has found a hash of the native layout, and otherwise leaves its own account with what that message
has found, now in the native layout. So a hash that was stored between the first message and the
acknowledgement is kept, as far as passwords and keys go, only if it agrees with the first one. -/
theorem hash_after_scram {observed : Observed MemoryDirectory PasswordHasher}
    (reachable : observed.Reachable) (uplink : String) (inbound : Inbound) {session : Session}
    {registration : Registration} {server : Scram.Server}
    (found : observed.engine.sessions.find? inbound.session = some session)
    (selected : session.mechanism = some registration)
    (scram : registration.mechanism = .scram server)
    {after : Context MemoryDirectory PasswordHasher}
    (succeeded : observed.engine.decision? inbound = some (.success, after)) :
    ∃ first second id owner present opened credential,
      (observed.dialogue inbound.session).messages = [first, second] ∧
      first.engine.accounts.find? id = some owner ∧ owner.password = some opened ∧
      Credential.ofHash? opened = some credential ∧
      observed.engine.accounts.find? id = some present ∧
      (credential.native = true → after.accounts = observed.engine.accounts) ∧
      (credential.native = false → ∃ written,
        after.accounts = (observed.engine.accounts.setPassword id written).2 ∧
        ((observed.engine.handle uplink inbound).2.accounts.find? id).map Account.password =
          some (some written) ∧
        Credential.ofHash? written = some { credential with native := true } ∧
        Agree written opened ∧
        ∀ stored, present.password = some stored →
          (Agree written stored ↔ Agree opened stored)) := by
  obtain ⟨entered, fed, busy, third, decided⟩ := reachable.faithful.decided uplink succeeded
  cases found.symm.trans decided.found
  cases selected.symm.trans decided.selected
  have progress := decided.progress
  have stepped := decided.stepped
  unfold Registration.step at stepped
  simp only [scram] at stepped progress
  have quiet : after.mechlist = none := by
    cases Scram.verdict_of_step (.refl observed.engine) progress stepped with
    | success quiet => exact quiet
  obtain ⟨first, second, opening, serverNonce, exchange, said, opened, acknowledged⟩ :=
    Scram.acknowledged_of_success progress stepped
  obtain ⟨id, named, live, native, legacy⟩ := Scram.accounts_of_acknowledge acknowledged
  have named : exchange.account = some id := named
  obtain ⟨present, foundPresent⟩ := Option.isSome_iff_exists.mp live
  cases opened.credited with
  | mock unknown made nobody =>
      -- A credential that was made up belongs to nobody, and nobody is acknowledged.
      rw [named] at nobody
      cases nobody
  | @stored source owner hash identified somebody foundOwner allowed hashed password extracted =>
      have own : source.id = id := Option.some.inj (somebody.symm.trans named)
      rw [own] at foundOwner
      have read : Credential.ofHash? hash = some exchange.credential := extracted
      refine ⟨first, second, id, owner, present, hash, exchange.credential, said, foundOwner,
        password, read, foundPresent, native, ?_⟩
      intro layout
      obtain ⟨written, encoded, reread⟩ := (Credential.storable_of_ofHash? read).upgrade
      have accounts : after.accounts = (observed.engine.accounts.setPassword id written).2 :=
        legacy layout written encoded
      -- What is written depends on the first message alone, whatever has been stored since.
      have agrees : Agree written hash := .of_layout read reread
      refine ⟨written, accounts, ?_, reread, agrees, ?_⟩
      · rw [(decided.gives quiet).accounts, password_of_success, accounts,
          MemoryDirectory.find?_setPassword, if_pos rfl]
        have foundPresent : observed.engine.accounts.find? id = some present := foundPresent
        rw [foundPresent]
        rfl
      · intro stored _
        exact ⟨agrees.symm.trans, agrees.trans⟩

/-! ## A password change that is lost -/

/-- A hash of `pencil` of the legacy layout. -/
def pencilHash : String := "$z$64$1$c2FsdHNhbHQ=$MSNFsnJ8vatSjBVvrzZe5c0sVBk="

/-- A hash of `eraser` of the legacy layout. -/
def eraserHash : String := "$z$64$1$c2FsdHNhbHQ=$M9Mue7Y655Av49l1uhxJcmuxkVE="

/-- The account has a legacy hash of `pencil`, with which its client authenticates. Before the
client acknowledges that, the password becomes `eraser`. -/
def eraserRun : Observed MemoryDirectory PasswordHasher :=
  (Observed.opening pencilEngine).run <|
    .directory (fun directory => (directory.setPassword ⟨1⟩ pencilHash).2) :: pencilEvents ++
      [.directory fun directory => (directory.setPassword ⟨1⟩ eraserHash).2]

set_option maxRecDepth 100000 in
/-- The acknowledgement brings `pencil` back. -/
theorem hash_after_scram_eraser :
    (eraserRun.engine.accounts.find? ⟨1⟩).map Account.password = some (some eraserHash) ∧
    PasswordHasher.verify (Bytes.ofString "eraser") eraserHash = true ∧
    .login "U1" "alice" ∈ (eraserRun.engine.handle "hub" (.clientData "U1" "+")).1 ∧
    ∃ written, ((eraserRun.engine.handle "hub" (.clientData "U1" "+")).2.accounts.find? ⟨1⟩).map
        Account.password = some (some written) ∧
      Agree written pencilHash ∧ ¬Agree written eraserHash ∧
      PasswordHasher.verify (Bytes.ofString "pencil") written = true ∧
      PasswordHasher.verify (Bytes.ofString "eraser") written = false := by
  have created : Engine.create {} pencilAccounts ⟨{}⟩ (.arithmetic 0 []) = .ok pencilEngine := rfl
  have reachable : eraserRun.Reachable := .of_all created rfl
  obtain ⟨busy, success, stored, emitted, only, said⟩ :
      (eraserRun.engine.sessions.find? "U1").bind Session.mechanism =
        some ⟨0, .scram pencilServer⟩ ∧
      (eraserRun.engine.decision? (.clientData "U1" "+")).map Prod.fst = some .success ∧
      (eraserRun.engine.accounts.find? ⟨1⟩).map Account.password = some (some eraserHash) ∧
      .login "U1" "alice" ∈ (eraserRun.engine.handle "hub" (.clientData "U1" "+")).1 ∧
      eraserRun.engine.accounts.accounts.keys = [⟨1⟩] ∧
      ((eraserRun.dialogue "U1").messages.head?.bind fun first =>
        (first.engine.accounts.find? ⟨1⟩).bind Account.password) = some pencilHash := by
    decide +kernel
  have verified : PasswordHasher.verify (Bytes.ofString "eraser") eraserHash = true ∧
      PasswordHasher.verify (Bytes.ofString "pencil") pencilHash = true ∧
      PasswordHasher.verify (Bytes.ofString "eraser") pencilHash = false := by decide +kernel
  have layout : (Credential.ofHash? pencilHash).map Credential.native = some false := by
    decide +kernel
  obtain ⟨session, found, selected⟩ := Option.bind_eq_some_iff.mp busy
  obtain ⟨⟨_, after⟩, decided, rfl⟩ := Option.map_eq_some_iff.mp success
  obtain ⟨first, second, id, owner, present, opened, credential, messages, foundOwner, password,
    read, foundPresent, -, upgrade⟩ :=
    hash_after_scram reachable "hub" (.clientData "U1" "+") found selected rfl decided
  have named : id = ⟨1⟩ := by
    have member : (id, present) ∈ eraserRun.engine.accounts.accounts.entries :=
      (Table.lookup_eq_some_iff eraserRun.engine.accounts.accounts.distinct).mp foundPresent
    have key : id ∈ eraserRun.engine.accounts.accounts.keys := List.mem_map_of_mem member
    rwa [only, List.mem_singleton] at key
  subst named
  have opening : opened = pencilHash := by
    have messages : (eraserRun.dialogue "U1").messages = [first, second] := messages
    simpa [messages, foundOwner, password] using said
  subst opening
  have legacy : credential.native = false := by simpa [read] using layout
  obtain ⟨written, -, rewritten, -, agrees, -⟩ := upgrade legacy
  have revoked : PasswordHasher.verify (Bytes.ofString "eraser") written = false :=
    (agrees.verify _).trans verified.2.2
  refine ⟨stored, verified.1, emitted, written, rewritten, agrees, ?_,
    (agrees.verify _).trans verified.2.1, revoked⟩
  intro kept
  have accepted := (kept.verify _).trans verified.1
  rw [revoked] at accepted
  cases accepted

end IrcSasl
