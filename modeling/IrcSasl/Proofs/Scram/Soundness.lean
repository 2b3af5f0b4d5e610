import IrcSasl.Account.Memory
import IrcSasl.Proofs.Engine.Turns
import IrcSasl.Proofs.Scram.Transcript

set_option autoImplicit false

/-!
# Soundness of SCRAM

Nobody is logged in by SCRAM who has not proved to know the key of an account, with messages of one
and the same negotiation.
-/

namespace IrcSasl

variable {D C : Type} [AccountDirectory D] [CredentialStore C]

namespace Scram

/-- The first two messages of a client have shown that it knows the key of an account. -/
structure Vouched (server : Server) (id : String) (first second : Message D C)
    (transcript : Transcript) (source : Account) : Prop where
  parsed : ClientFirst.parse first.bytes = .ok transcript.opening
  spelled : transcript.opening.header ++ transcript.opening.bare = first.bytes
  known : AccountDirectory.findByName first.engine.accounts transcript.opening.authcid = some source
  stored : ∃ owner hash, AccountDirectory.findById first.engine.accounts source.id = some owner ∧
    owner.noPassword = false ∧ owner.crypt = true ∧ owner.password = some hash ∧
    CredentialStore.extract first.engine.credentials hash = some transcript.credential
  digest : transcript.credential.digest = server.digest
  drawn : (first.engine.env.entropy.fill 48).1 = some transcript.serverNonce
  width : transcript.serverNonce.length = 48
  challenged : first.answer = (Frame.ofMessage transcript.challenge).map (.serverData id)
  final : ∃ attributes proof64 proof, Attributes.parse second.bytes = .ok attributes ∧
    attributes.get? 0x72 = some transcript.nonce ∧
    attributes.get? 0x63 = some (Base64.encode transcript.opening.header) ∧
    attributes.get? 0x70 = some proof64 ∧ Base64.decode? proof64 = some proof ∧
    proof.length = server.digest.outputLength ∧ transcript.Accepts proof

/-- An exchange that was opened for an account and answered a proof has vouched for the client. -/
theorem vouched_of_proved {server : Server} {id : String} {authc authz : Option Identity}
    {first second : Message D C} {opening : ClientFirst} {serverNonce proof : Bytes}
    {exchange : Exchange} {session : Session} {account : AccountId}
    (opened : Opened server id authc authz first opening serverNonce exchange session)
    (proved : Proved id second exchange proof) (named : exchange.account = some account) :
    ∃ source, Vouched server id first second ⟨opening, serverNonce, exchange.credential⟩ source ∧
      session.authc = some source.identity ∧ account = source.id := by
  have printable := ClientFirst.isNonce_of_parse opened.parsed
  have started := opened.started
  obtain ⟨attributes, listed, read⟩ := Exchange.readProof_eq_ok_iff.mp proved.read
  obtain ⟨-, header, nonce, proof64, written, decoded, length⟩ := Exchange.proofOf_eq_ok_iff.mp read
  have accepted := proved.accepted
  have challenged := opened.answered
  cases opened.credited with
  | mock unknown made nobody sameAuthc sameAuthz =>
      rw [nobody] at named
      cases named
  | @stored source owner hash identified somebody found allowed hashed password extracted digest =>
      have digest' : exchange.digest = server.digest := digest
      rw [digest'] at length
      rw [started, Exchange.ofString_header64] at header
      rw [started, Exchange.ofString_nonce _ _ _ printable] at nonce
      rw [started, Exchange.accepts_start _ _ _ printable] at accepted
      rw [started, Exchange.ofString_serverFirst _ _ _ printable] at challenged
      refine ⟨source, ?_, identified.authc, ?_⟩
      · refine ⟨opened.parsed, ClientFirst.header_append_bare opened.parsed, identified.known,
          ⟨owner, hash, found, allowed, hashed, password, extracted⟩, digest, opened.drawn, ?_,
          challenged, ⟨attributes, proof64, proof, listed, nonce, header, written, decoded, length,
            accepted⟩⟩
        exact Entropy.length_fill (Prod.ext opened.drawn rfl)
      · rw [somebody] at named
        exact (Option.some.inj named).symm

end Scram

/-- Whoever is logged in by SCRAM has sent three messages since it asked for the mechanism, of which
the first two have vouched for it, and is still who it was then. -/
theorem login_of_scram {observed : Observed D C} (reachable : observed.Reachable)
    {uplink id name : String} {inbound : Inbound} {session : Session} {registration : Registration}
    {server : Scram.Server} (found : observed.engine.sessions.find? id = some session)
    (selected : session.mechanism = some registration)
    (scram : registration.mechanism = .scram server)
    (emitted : .login id name ∈ (observed.engine.handle uplink inbound).1) :
    ∃ first second third transcript source after,
      ((observed.perform (.frame uplink inbound)).dialogue id).messages = [first, second, third] ∧
      Scram.Vouched server id first second transcript source ∧
      session.authc = some source.identity ∧
      observed.engine.decision? inbound = some (.success, after) ∧
      (AccountDirectory.findById observed.engine.accounts source.id).isSome ∧
      (AccountDirectory.findById after.accounts source.id).isSome := by
  have faithful := reachable.faithful
  obtain ⟨own, after, target, success, chosen, -⟩ := Engine.login_decided faithful.sound emitted
  subst own
  obtain ⟨entered, fed, busy, third, decided⟩ := faithful.decided uplink success
  cases found.symm.trans decided.found
  cases selected.symm.trans decided.selected
  have progress := decided.progress
  have stepped := decided.stepped
  unfold Registration.step at stepped
  simp only [scram] at stepped progress
  cases Scram.verdict_of_step (.refl observed.engine) progress stepped with
  | @success first second opening serverNonce proof exchange account quiet sameAuthc sameAuthz said
      opened proved named live =>
      obtain ⟨source, vouched, authc, rfl⟩ := Scram.vouched_of_proved opened proved named
      have stillLive : (AccountDirectory.findById after.accounts source.id).isSome := by
        unfold Session.granted granted at chosen
        rw [sameAuthc, authc] at chosen
        simp only [Option.map_some, Option.bind_some, Option.bind_eq_some_iff] at chosen
        obtain ⟨account, live, -⟩ := chosen
        exact Option.isSome_of_eq_some live
      have messages := decided.messages
      rw [Dialogue.answered, said] at messages
      exact ⟨first, second, third, _, source, after, messages, vouched,
        decided.authc.symm.trans authc, success, live, stillLive⟩

/-! ## A login -/

/-- A directory with one account, which has `pencil` for a password. -/
def pencilAccounts : MemoryDirectory where
  accounts :=
    ⟨[(⟨1⟩,
      { id := ⟨1⟩
        name := "alice"
        password := some <| "$z$64$1$c2FsdHNhbHQ=$6GHYhU6KZhrhCThvIYGL0tr6Yxg=$" ++
          "3JqGfchNtmJPo6wb8v7AUZMQqXk="
        crypt := true })], by decide⟩
  names := Table.empty.insert "alice" ⟨1⟩
  nextNumber := 2

/-- A server that checks passwords with SHA-1. -/
def pencilServer : Scram.Server :=
  { digest := .sha1, mockKey := [1, 2, 3], mockIterations := 1, mockSaltLength := 8 }

/-- An engine with that directory, which offers nothing yet. -/
def pencilEngine : Engine MemoryDirectory PasswordHasher :=
  { options := {}, accounts := pencilAccounts, credentials := ⟨{}⟩
    env := { entropy := .arithmetic 0 [] } }

/-- A client asks for SCRAM, names the account, and proves that it knows the password. -/
def pencilEvents : List (Engine.Event MemoryDirectory) :=
  [.registered (.scram pencilServer), .frame "hub" (.startAuth "U1" "SCRAM-SHA-1" none),
   .frame "hub" (.clientData "U1" "biwsbj1hbGljZSxyPWFiY2RlZmdo"),
   .frame "hub" (.clientData "U1" <|
    "Yz1iaXdzLHI9YWJjZGVmZ2hBQXNXSVN3M1FrMVlZMjU1aEkrYXBiQzd4dEhjNS9MOUNCTWVLVFEvU2xW" ++
    "Z2EzYUJqSmVp" ++ "cmJqRHp0bms3L29GLHA9RVZXTStOWG1OT2J2WGgyT3Q2K1dZaWdpT2w0PQ==")]

/-- The engine after these events. -/
def pencilRun : Observed MemoryDirectory PasswordHasher :=
  (Observed.opening pencilEngine).run pencilEvents

theorem reachable_pencilRun : pencilRun.Reachable := by
  have created : Engine.create {} pencilAccounts ⟨{}⟩ (.arithmetic 0 []) = .ok pencilEngine := rfl
  exact .of_all created rfl

set_option maxRecDepth 100000 in
/-- The acknowledgement of that client logs it in. -/
theorem login_of_scram_pencil :
    (∃ session, pencilRun.engine.sessions.find? "U1" = some session ∧
      session.mechanism = some ⟨0, .scram pencilServer⟩) ∧
    .login "U1" "alice" ∈ (pencilRun.engine.handle "hub" (.clientData "U1" "+")).1 ∧
    ∃ first second third transcript source,
      ((pencilRun.perform (.frame "hub" (.clientData "U1" "+"))).dialogue "U1").messages =
        [first, second, third] ∧
      Scram.Vouched pencilServer "U1" first second transcript source := by
  have busy : (pencilRun.engine.sessions.find? "U1").bind Session.mechanism =
      some ⟨0, .scram pencilServer⟩ := by decide +kernel
  have emitted : .login "U1" "alice" ∈
      (pencilRun.engine.handle "hub" (.clientData "U1" "+")).1 := by decide +kernel
  obtain ⟨session, found, selected⟩ := Option.bind_eq_some_iff.mp busy
  obtain ⟨first, second, third, transcript, source, after, said, vouched, -⟩ :=
    login_of_scram reachable_pencilRun found selected rfl emitted
  exact ⟨⟨session, found, selected⟩, emitted, first, second, third, transcript, source, said,
    vouched⟩

end IrcSasl
