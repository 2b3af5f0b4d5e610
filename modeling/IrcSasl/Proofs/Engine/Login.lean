import IrcSasl.Account.Memory
import IrcSasl.Proofs.Engine.Turns

set_option autoImplicit false

/-!
# Whom a negotiation logs in

By its own words a client is to be logged in as whom it wants to act as, or else as who it says to
be. A login that waits leaves the identities of its negotiation in the session, though, so that a
later negotiation that names nobody to act as acts as whoever the earlier one did. `login_bound`
says that there is no other way for the two to differ.
-/

namespace IrcSasl

variable {D C : Type} [AccountDirectory D]

/-- Acting as oneself is the same as not naming anybody to act as. -/
theorem granted_self (accounts : D) (source : AccountId) :
    granted accounts (some source) none = granted accounts (some source) (some source) := by
  unfold granted
  simp only [Option.bind_some]
  cases AccountDirectory.findById accounts source with
  | none => rfl
  | some account => rfl

/-- The account that the own words of a client name: whom it wants to act as, or else who it is. -/
def OwnWords (accounts : D) (source : Account) (authzid : Option String) (own : AccountId) : Prop :=
  match authzid with
  | none => own = source.id
  | some name =>
      ∃ wanted, AccountDirectory.findByName accounts name = some wanted ∧ own = wanted.id

/-- What a frame comes to at which a client has authenticated, given the account that it is granted:
the client is logged into the account at once or later, or it is refused. -/
def LogsIn (accounts : D) (id mechanism : String) (result : List Outbound × Engine D C) :
    Option Account → Prop
  | none => result.1 = [.outcome id .failure]
  | some target =>
      result.1 = [.login id target.name, .outcome id .success] ∧
        (AccountDirectory.userOnline accounts id = true ∧
            result.2.accounts = (AccountDirectory.login accounts id target.id).2 ∧
            result.2.sessions.find? id = none ∨
          AccountDirectory.userOnline accounts id = false ∧
            ∃ session, result.2.sessions.find? id = some session ∧
              session.pending = some ⟨target.identity, mechanism⟩)

/-- A client that is identified is granted the account that its own words name, unless it has named
nobody to act as and the session had it act as somebody before. -/
theorem Identified.granted {before : D} {authcid : String} {authzid : Option String}
    {left : Option Identity} {source : Account} {session : Session}
    (identified : Identified before authcid authzid left source session) (accounts : D) :
    ∃ own, OwnWords before source authzid own ∧
      session.granted accounts = IrcSasl.granted accounts (some source.id)
        (some (if authzid.isSome then own else (left.map Identity.id).getD own)) := by
  have acts := identified.authz
  unfold Session.granted
  rw [identified.authc]
  cases authzid with
  | none =>
      have acts : session.authz = left := acts
      refine ⟨source.id, rfl, ?_⟩
      rw [acts]
      cases left with
      | none => exact granted_self accounts source.id
      | some stale => rfl
  | some name =>
      obtain ⟨wanted, found, acts⟩ := acts
      refine ⟨wanted.id, ⟨wanted, found, rfl⟩, ?_⟩
      rw [acts]
      rfl

/-- What a step that succeeds comes to for a client that nothing else is sent to. -/
theorem Engine.Gives.logsIn {engine : Engine D C} {id mechanism : String} {accounts : D}
    {entropy : Entropy} {session : Session} {result : List Outbound × Engine D C}
    (uid : session.info.uid = id)
    (gives : engine.Gives id (.ofStep accounts entropy session mechanism .success) result) :
    LogsIn accounts id mechanism result (session.granted accounts) := by
  have frames := gives.frames
  have outcome := gives.sessions id
  have directory := gives.accounts
  rw [if_pos rfl] at outcome
  unfold LogsIn
  simp only [Reply.ofStep, uid] at frames outcome directory
  cases chosen : session.granted accounts with
  | none =>
      simp only [chosen] at frames
      exact frames
  | some target =>
      simp only [chosen] at frames outcome directory ⊢
      cases online : AccountDirectory.userOnline accounts id with
      | true =>
          simp only [online, if_true] at frames outcome directory
          exact ⟨frames, .inl ⟨rfl, directory, outcome⟩⟩
      | false =>
          simp only [online, Bool.false_eq_true, if_false] at frames outcome
          exact ⟨frames, .inr ⟨rfl, _, outcome, rfl⟩⟩

variable [CredentialStore C]

/-- How a client that has authenticated is bound to what it has said: its own words name the account
`own`, and it is let in, if at all, as the account `bound`. The two differ only if it has named
nobody to act as and a login that waits has left it acting as somebody else. Who it is has been
admitted before, unless that login is its own. -/
structure Binding (observed : Observed D C) (uplink : String) (inbound : Inbound)
    (after : Context D C) (authcid : String) (authzid : Option String) (source : Account)
    (own bound : AccountId) (left : Option AccountId) : Prop where
  said : ∃ session registration first rest,
    observed.engine.sessions.find? inbound.session = some session ∧
    session.mechanism = some registration ∧
    ((observed.perform (.frame uplink inbound)).dialogue inbound.session).messages =
      first :: rest ∧
    registration.mechanism.names? first.engine.accounts session.info.certfp first.bytes =
      some (authcid, authzid) ∧
    AccountDirectory.findByName first.engine.accounts authcid = some source ∧
    OwnWords first.engine.accounts source authzid own ∧
    (left = some source.id ∨
      AccountDirectory.admission first.engine.accounts source = .allow) ∧
    LogsIn after.accounts inbound.session registration.name (observed.engine.handle uplink inbound)
      (granted after.accounts (some source.id) (some bound))
  leftover : left = (observed.dialogue inbound.session).leftAuthz.map Identity.id
  chosen : bound = if authzid.isSome then own else left.getD own
  agree : bound = own ↔ authzid.isSome ∨ ∀ stale, left = some stale → stale = source.id
  pending : left.isSome →
    ((observed.dialogue inbound.session).found.bind Session.pending).isSome

/-- A client logs in only at a frame at which it has authenticated, and is bound there to what it
has said. -/
theorem login_bound {observed : Observed D C} (reachable : observed.Reachable) (uplink : String)
    (inbound : Inbound) :
    (∀ id name, .login id name ∈ (observed.engine.handle uplink inbound).1 →
      id = inbound.session ∧ ∃ after, observed.engine.decision? inbound = some (.success, after)) ∧
    ∀ after, observed.engine.decision? inbound = some (.success, after) →
      ∃ authcid authzid source own bound left,
        Binding observed uplink inbound after authcid authzid source own bound left := by
  have faithful := reachable.faithful
  constructor
  · intro id name emitted
    obtain ⟨own, after, target, decided, -⟩ := Engine.login_decided faithful.sound emitted
    exact ⟨own.symm, after, decided⟩
  · intro after decided
    obtain ⟨session, fed, registration, message, decided⟩ := faithful.decided uplink decided
    cases decided.verdict with
    | @success first rest authcid authzid source quiet begins names identified =>
        obtain ⟨own, ownWords, chosen⟩ := identified.granted after.accounts
        have logsIn := (decided.gives quiet).logsIn decided.uid
        rw [chosen] at logsIn
        refine ⟨authcid, authzid, source, own, _, _, ⟨session, registration, first, rest,
          decided.found, decided.selected, decided.messages.trans begins, names, identified.known,
          ownWords, identified.admitted, logsIn⟩, rfl, rfl, ?_, ?_⟩
        · cases authzid with
          | some name => simp
          | none =>
              have ownWords : own = source.id := ownWords
              subst ownWords
              cases (observed.dialogue inbound.session).leftAuthz with
              | none => simp
              | some stale => simp
        · intro present
          rw [Option.isSome_map] at present
          exact decided.waits (.inr present)

/-! ## A login that is bound to somebody else -/

/-- A directory with two accounts, the second of which may act as anybody. -/
def pairAccounts : MemoryDirectory where
  accounts :=
    ⟨[(⟨1⟩, { id := ⟨1⟩, name := "alice", password := some "wonder" }),
      (⟨2⟩,
        { id := ⟨2⟩, name := "bob", password := some "builder", privileges := [privilegeAny] })],
      by decide⟩
  names := ⟨[("alice", ⟨1⟩), ("bob", ⟨2⟩)], by decide⟩
  nextNumber := 3

/-- An engine with that directory, which offers nothing yet. -/
def pairEngine : Engine MemoryDirectory PasswordHasher :=
  { options := {}, accounts := pairAccounts, credentials := ⟨{}⟩
    env := { entropy := .arithmetic 0 [] } }

/-- A client that is not on the network yet authenticates as the first account, so that its login
waits, and asks for a mechanism once more. -/
def pairEvents : List (Engine.Event MemoryDirectory) :=
  [.registered .plain, .frame "hub" (.startAuth "U1" "PLAIN" none),
   .frame "hub" (.clientData "U1" "AGFsaWNlAHdvbmRlcg=="),
   .frame "hub" (.startAuth "U1" "PLAIN" none)]

/-- The engine after these events. -/
def pairRun : Observed MemoryDirectory PasswordHasher :=
  (Observed.opening pairEngine).run pairEvents

/-- The client authenticates as the second account, and wants to act as nobody else. -/
def pairFrame : Inbound := .clientData "U1" "AGJvYgBidWlsZGVy"

theorem reachable_pairRun : pairRun.Reachable := by
  have created : Engine.create {} pairAccounts ⟨{}⟩ (.arithmetic 0 []) = .ok pairEngine := rfl
  exact .of_all created rfl

set_option maxRecDepth 100000 in
/-- The client is logged in as the first account. -/
theorem login_bound_pair :
    (pairRun.engine.handle "hub" pairFrame).1 = [.login "U1" "alice", .outcome "U1" .success] ∧
    ∃ after source own bound left, pairRun.engine.decision? pairFrame = some (.success, after) ∧
      Binding pairRun "hub" pairFrame after "bob" none source own bound left ∧ own = ⟨2⟩ ∧
      bound = ⟨1⟩ := by
  have frames : (pairRun.engine.handle "hub" pairFrame).1 =
      [.login "U1" "alice", .outcome "U1" .success] := by decide +kernel
  have said : (((pairRun.perform (.frame "hub" pairFrame)).dialogue "U1").messages.head?.bind
      fun first => (Mechanism.plain.names? first.engine.accounts none first.bytes).bind
        fun names => (AccountDirectory.findByName first.engine.accounts names.1).map
          fun source => (names, source.id)) = some (("bob", none), ⟨2⟩) := by decide +kernel
  have stale : (pairRun.dialogue "U1").leftAuthz.map Identity.id = some ⟨1⟩ := by decide +kernel
  have busy : ((pairRun.engine.sessions.find? "U1").bind fun session =>
      session.mechanism.map fun registration => (registration, session.info.certfp)) =
      some (⟨0, .plain⟩, none) := by decide +kernel
  obtain ⟨decides, binds⟩ := login_bound reachable_pairRun "hub" pairFrame
  obtain ⟨-, after, decided⟩ := decides "U1" "alice" (by rw [frames]; exact List.mem_cons_self)
  obtain ⟨authcid, authzid, source, own, bound, left, binding⟩ := binds after decided
  obtain ⟨session, registration, first, rest, found, selected, messages, names, known, words, -⟩ :=
    binding.said
  have found : pairRun.engine.sessions.find? "U1" = some session := found
  have messages : ((pairRun.perform (.frame "hub" pairFrame)).dialogue "U1").messages =
      first :: rest := messages
  rw [found, Option.bind_some, selected, Option.map_some, Option.some.injEq, Prod.mk.injEq] at busy
  obtain ⟨rfl, certfp⟩ := busy
  rw [certfp] at names
  have names : Mechanism.plain.names? first.engine.accounts none first.bytes =
      some (authcid, authzid) := names
  rw [messages, List.head?_cons, Option.bind_some, names, Option.bind_some, known, Option.map_some,
    Option.some.injEq, Prod.mk.injEq, Prod.mk.injEq] at said
  obtain ⟨⟨rfl, rfl⟩, second⟩ := said
  have own_eq : own = ⟨2⟩ := Eq.trans (words : own = source.id) second
  have bound_eq : bound = ⟨1⟩ := by
    rw [binding.chosen, binding.leftover]
    exact congrArg (·.getD own) stale
  exact ⟨frames, after, source, own, bound, left, decided, binding, own_eq, bound_eq⟩

end IrcSasl
