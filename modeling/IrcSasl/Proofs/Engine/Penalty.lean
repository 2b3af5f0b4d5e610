import IrcSasl.Proofs.Account.Memory
import IrcSasl.Proofs.Engine.Turns

set_option autoImplicit false

/-!
# Whom a failure counts against

A client that fails is to count against the account that it has named in the same negotiation. A
client of SCRAM that names nobody fails as well, and then whoever a login that waits has left in the
session is counted against. `badPasswordCount_handle` says that nothing else is ever counted.
-/

namespace IrcSasl

variable {D C : Type} [AccountDirectory D] [CredentialStore C]

/-- Whether a frame completes a message on which the mechanism of its session reports a failure. -/
def Engine.fails (engine : Engine D C) (inbound : Inbound) : Bool :=
  match engine.decision? inbound with
  | some (.failure _, _) => true
  | _ => false

theorem Engine.decided_of_fails {engine : Engine D C} {inbound : Inbound}
    (failed : engine.fails inbound = true) :
    ∃ reply after, engine.decision? inbound = some (.failure reply, after) := by
  unfold Engine.fails at failed
  split at failed
  · next reply after decided => exact ⟨reply, after, decided⟩
  · cases failed

/-- The account that the client of a frame has said to be in its negotiation. -/
def Observed.named? (observed : Observed D C) (uplink : String) (inbound : Inbound) :
    Option AccountId := do
  let session ← observed.engine.sessions.find? inbound.session
  let registration ← session.mechanism
  let first ← ((observed.perform (.frame uplink inbound)).dialogue inbound.session).messages.head?
  let names ← registration.mechanism.names? first.engine.accounts session.info.certfp first.bytes
  let source ← AccountDirectory.findByName first.engine.accounts names.1
  return source.id

/-- The account that the client of a frame was when it asked for the mechanism. -/
def Observed.left? (observed : Observed D C) (inbound : Inbound) : Option AccountId :=
  (observed.dialogue inbound.session).leftAuthc.map Identity.id

theorem Observed.named?_eq {observed : Observed D C} {uplink : String} {inbound : Inbound}
    {session : Session} {registration : Registration} {first : Message D C}
    {rest : List (Message D C)} {authcid : String} {authzid : Option String}
    (found : observed.engine.sessions.find? inbound.session = some session)
    (selected : session.mechanism = some registration)
    (messages : ((observed.perform (.frame uplink inbound)).dialogue inbound.session).messages =
      first :: rest)
    (names : registration.mechanism.names? first.engine.accounts session.info.certfp first.bytes =
      some (authcid, authzid)) :
    observed.named? uplink inbound =
      (AccountDirectory.findByName first.engine.accounts authcid).map Account.id := by
  unfold named?
  simp only [found, selected, messages, names, List.head?_cons, Option.bind_eq_bind,
    Option.bind_some]
  cases AccountDirectory.findByName first.engine.accounts authcid <;> rfl

/-- When a client fails, the session holds the account that it has said to be, or, if there is none,
whoever it was when it asked for the mechanism. The accounts are as they were. -/
theorem Observed.Faithful.blamed {observed : Observed D C} (faithful : observed.Faithful)
    (uplink : String) {inbound : Inbound} {reply : Bytes} {after : Context D C}
    (decided : observed.engine.decision? inbound = some (.failure reply, after)) :
    (observed.engine.handle uplink inbound).2.accounts =
        penalized observed.engine.accounts after.session ∧
      after.session.authc.map Identity.id =
        (observed.named? uplink inbound).or (observed.left? inbound) ∧
      ((observed.dialogue inbound.session).leftAuthc.isSome →
        ((observed.dialogue inbound.session).found.bind Session.pending).isSome) := by
  obtain ⟨session, fed, registration, message, decided⟩ := faithful.decided uplink decided
  cases decided.verdict with
  | @failure _ first rest quiet accounts begins introduced =>
      have messages := decided.messages.trans begins
      have gives := decided.gives quiet
      refine ⟨?_, ?_, ?_⟩
      · have counted : (observed.engine.handle uplink inbound).2.accounts =
            penalized after.accounts after.session := gives.accounts
        rw [counted, accounts, decided.heard]
      · cases introduced with
        | known names identified =>
            rw [named?_eq decided.found decided.selected messages names, identified.known,
              identified.authc]
            rfl
        | unknown scram names nobody sameAuthc sameAuthz =>
            rw [named?_eq decided.found decided.selected messages names, nobody, sameAuthc]
            rfl
      · intro present
        exact decided.waits (.inl present)

/-- How many failed attempts are counted against an account, given whom a failure is blamed on. -/
def blame (directory : MemoryDirectory) (fails : Bool) (blamed : Option AccountId)
    (account : AccountId) : UInt32 :=
  if fails ∧ blamed = some account ∧ (directory.find? account).isSome then 1 else 0

/-- To blame somebody else in place of nobody matters if that account is there. -/
theorem blame_or_eq_iff (directory : MemoryDirectory) (fails : Bool)
    (named left : Option AccountId) :
    (∀ account, blame directory fails (named.or left) account =
        blame directory fails named account) ↔
      ¬(fails = true ∧ named = none ∧
        ∃ stale, left = some stale ∧ (directory.find? stale).isSome) := by
  constructor
  · rintro same ⟨failed, nobody, stale, rfl, live⟩
    have differ := same stale
    simp [blame, failed, nobody, live] at differ
  · intro harmless account
    cases named with
    | some name => rfl
    | none =>
        unfold blame
        simp only [Option.none_or, reduceCtorEq, false_and, and_false, if_false]
        refine if_neg ?_
        rintro ⟨failed, stale, live⟩
        exact harmless ⟨failed, rfl, account, stale, live⟩

/-- What a failed attempt does to the counts. -/
theorem badPasswordCount_penalized (directory : MemoryDirectory) (session : Session)
    (other : AccountId) :
    (penalized directory session).badPasswordCount other =
      directory.badPasswordCount other +
        blame directory true (session.authc.map Identity.id) other := by
  unfold penalized blame
  cases session.authc with
  | none => simp
  | some authc =>
      simp only [Option.map_some, Option.some.injEq, true_and]
      cases found : AccountDirectory.findById directory authc.id with
      | none =>
          have found : directory.find? authc.id = none := found
          have never : ¬(authc.id = other ∧ (directory.find? other).isSome) := by
            rintro ⟨rfl, live⟩
            rw [found] at live
            cases live
          simp [never]
      | some account =>
          have counted := directory.badPasswordCount_badPassword authc.id other
          have same : (authc.id = other ∧ (directory.find? authc.id).isSome) ↔
              (authc.id = other ∧ (directory.find? other).isSome) := by
            constructor <;> (rintro ⟨rfl, live⟩; exact ⟨rfl, live⟩)
          simp only [same] at counted
          exact counted

/-- Only a step that fails counts against anybody. -/
theorem Reply.badPasswords_ofStep {accounts : MemoryDirectory} {entropy : Entropy}
    {session : Session} {mechanism : String} {step : Step}
    (fine : ∀ reply, step ≠ .failure reply) :
    (ofStep accounts entropy session mechanism step).accounts.badPasswords =
      accounts.badPasswords := by
  cases step with
  | more data => rfl
  | success =>
      rcases accounts_ofStep_success accounts entropy session mechanism with same |
        ⟨uid, account, same⟩
      · rw [same]
      · rw [same]
        exact accounts.badPasswords_login uid account
  | failure reply => exact absurd rfl (fine reply)
  | refused reply => rfl

/-- A frame on which no mechanism reports a failure counts against nobody. -/
theorem Engine.badPasswords_handle {engine : Engine MemoryDirectory C}
    (sound : engine.Sound Mechanism.Standard) (uplink : String) {inbound : Inbound}
    (fine : engine.fails inbound = false) :
    (engine.handle uplink inbound).2.accounts.badPasswords = engine.accounts.badPasswords := by
  cases arrived : engine.arrival? inbound with
  | none =>
      obtain ⟨-, accounts, -⟩ := handle_undecided sound uplink arrived
      rw [accounts]
  | some arrival =>
      have gives := handle_decided sound.keyed uplink arrived
      obtain ⟨data, session, decoder, -, found, selected, -, fed⟩ := arrival?_eq_some arrived
      have standard := (sound.tidy _ session found).selected _ selected
      have stepped : (engine.decide arrival).2.accounts.badPasswords =
          engine.accounts.badPasswords := by
        rcases Registration.accounts_step standard (engine.context arrival.session)
          arrival.message with same | ⟨account, credential, same⟩
        · exact congrArg MemoryDirectory.badPasswords same
        · refine (congrArg MemoryDirectory.badPasswords same).trans ?_
          exact MemoryDirectory.badPasswords_rewrite _ _ _
      rw [gives.accounts, ← stepped]
      unfold fails at fine
      rw [decision?_of_arrival arrived] at fine
      unfold turn
      have taken : arrival.registration.turn (engine.context arrival.session)
          (some arrival.message) = engine.decide arrival := rfl
      rw [taken]
      cases decided : engine.decide arrival with
      | mk step after =>
          rw [decided] at fine
          refine Reply.badPasswords_ofStep ?_
          rintro reply rfl
          cases fine

/-- A frame counts one failed attempt at most, and only if it completes a message on which the
mechanism reports a failure. -/
theorem badPasswordCount_of_faithful {observed : Observed MemoryDirectory C}
    (faithful : observed.Faithful) (uplink : String) (inbound : Inbound) (account : AccountId) :
    (observed.engine.handle uplink inbound).2.accounts.badPasswordCount account =
      observed.engine.accounts.badPasswordCount account +
        blame observed.engine.accounts (observed.engine.fails inbound)
          ((observed.named? uplink inbound).or (observed.left? inbound)) account := by
  cases failed : observed.engine.fails inbound with
  | false =>
      have same := Engine.badPasswords_handle faithful.sound uplink failed
      simp [MemoryDirectory.badPasswordCount, same, blame]
  | true =>
      obtain ⟨reply, context, decided⟩ := Engine.decided_of_fails failed
      obtain ⟨accounts, authc, -⟩ := faithful.blamed uplink decided
      rw [accounts, badPasswordCount_penalized, authc]

/-- A failed attempt counts against the account that the client has said to be in the same
negotiation, if that is still there, and against nobody else. This fails only for a client that has
named nobody while a login that waits has left it being somebody who is still there. -/
theorem badPasswordCount_handle {observed : Observed MemoryDirectory C}
    (reachable : observed.Reachable) (uplink : String) (inbound : Inbound) :
    (∀ account, (observed.engine.handle uplink inbound).2.accounts.badPasswordCount account =
      observed.engine.accounts.badPasswordCount account +
        blame observed.engine.accounts (observed.engine.fails inbound)
          ((observed.named? uplink inbound).or (observed.left? inbound)) account) ∧
    ((∀ account, (observed.engine.handle uplink inbound).2.accounts.badPasswordCount account =
        observed.engine.accounts.badPasswordCount account +
          blame observed.engine.accounts (observed.engine.fails inbound)
            (observed.named? uplink inbound) account) ↔
      ¬(observed.engine.fails inbound = true ∧ observed.named? uplink inbound = none ∧
        ∃ stale, observed.left? inbound = some stale ∧
          (observed.engine.accounts.find? stale).isSome)) ∧
    (observed.engine.fails inbound = true → (observed.left? inbound).isSome →
      ((observed.dialogue inbound.session).found.bind Session.pending).isSome) := by
  have faithful := reachable.faithful
  have counts := badPasswordCount_of_faithful faithful uplink inbound
  refine ⟨counts, ?_, ?_⟩
  · simp only [counts, UInt32.add_right_inj]
    exact blame_or_eq_iff _ _ _ _
  · intro failed present
    obtain ⟨reply, context, decided⟩ := Engine.decided_of_fails failed
    obtain ⟨-, -, waits⟩ := faithful.blamed uplink decided
    exact waits (by simpa [Observed.left?] using present)

/-! ## A failure that counts against somebody else -/

/-- A directory with one account. -/
def soleAccounts : MemoryDirectory where
  accounts := ⟨[(⟨1⟩, { id := ⟨1⟩, name := "alice", password := some "wonder" })], by decide⟩
  names := ⟨[("alice", ⟨1⟩)], by decide⟩
  nextNumber := 2

/-- An engine with that directory, which offers nothing yet. -/
def soleEngine : Engine MemoryDirectory PasswordHasher :=
  { options := {}, accounts := soleAccounts, credentials := ⟨{}⟩
    env := { entropy := .arithmetic 0 [] } }

/-- A client that is not on the network yet authenticates as the account, so that its login waits.
It then asks for SCRAM and says to be somebody whom there is not. -/
def soleEvents : List (Engine.Event MemoryDirectory) :=
  [.registered .plain,
   .registered (.scram
    { digest := .sha1, mockKey := [1, 2, 3], mockIterations := 1, mockSaltLength := 8 }),
   .frame "hub" (.startAuth "U1" "PLAIN" none),
   .frame "hub" (.clientData "U1" "AGFsaWNlAHdvbmRlcg=="),
   .frame "hub" (.startAuth "U1" "SCRAM-SHA-1" none),
   .frame "hub" (.clientData "U1" "biwsbj1ub2JvZHkscj1hYmNkZWZnaA==")]

/-- The engine after these events. -/
def soleRun : Observed MemoryDirectory PasswordHasher :=
  (Observed.opening soleEngine).run soleEvents

/-- The client sends a proof that cannot be right. -/
def soleFrame : Inbound :=
  .clientData "U1" <|
    "Yz1iaXdzLHI9YWJjZGVmZ2hBQXNXSVN3M1FrMVlZMjU1aEkrYXBiQzd4dEhjNS9MOUNCTWVLVFEvU2xW" ++
    "Z2EzYUJqSmVpcmJqRHp0bms3L29GLHA9QUFBQUFBQUFBQUFBQUFBQUFBQUFBQUFBQUFBPQ=="

theorem reachable_soleRun : soleRun.Reachable := by
  have created : Engine.create {} soleAccounts ⟨{}⟩ (.arithmetic 0 []) = .ok soleEngine := rfl
  exact .of_all created rfl

set_option maxRecDepth 100000 in
/-- The failure counts against the account whose login waits. -/
theorem badPasswordCount_handle_sole :
    soleRun.named? "hub" soleFrame = none ∧
    (soleRun.engine.handle "hub" soleFrame).2.accounts.badPasswordCount ⟨1⟩ =
      soleRun.engine.accounts.badPasswordCount ⟨1⟩ + 1 ∧
    ¬∀ account, (soleRun.engine.handle "hub" soleFrame).2.accounts.badPasswordCount account =
      soleRun.engine.accounts.badPasswordCount account +
        blame soleRun.engine.accounts (soleRun.engine.fails soleFrame)
          (soleRun.named? "hub" soleFrame) account := by
  have failed : soleRun.engine.fails soleFrame = true := by decide +kernel
  have nobody : soleRun.named? "hub" soleFrame = none := by decide +kernel
  have stale : soleRun.left? soleFrame = some ⟨1⟩ := by decide +kernel
  have live : (soleRun.engine.accounts.find? ⟨1⟩).isSome := by decide +kernel
  obtain ⟨counts, claimed, -⟩ := badPasswordCount_handle reachable_soleRun "hub" soleFrame
  refine ⟨nobody, ?_, ?_⟩
  · rw [counts, failed, nobody, stale]
    simp [blame, live]
  · rw [claimed]
    exact fun harmless => harmless ⟨failed, nobody, ⟨1⟩, stale, live⟩

end IrcSasl
