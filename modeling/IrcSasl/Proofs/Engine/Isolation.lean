import IrcSasl.Proofs.Engine.Announcements
import IrcSasl.Proofs.Mechanism.Storage
import IrcSasl.Proofs.Scram.Upgrade

set_option autoImplicit false

/-!
# What a frame leaves alone

A frame belongs to one session. Of the engine it changes that session and the directory, and of the
directory at most three things: a stored hash that the client has just been checked against, one
count of failed attempts, and the login of the client (`Engine.handle_confined`).
-/

namespace IrcSasl

variable {D C : Type}

/-! ## What becomes of accounts -/

/-- An account after its stored hash may have been replaced in certain ways, and clients may have
logged in and out. -/
structure Account.Kept (rewritten : String → Prop) (before after : Account) : Prop where
  rest : after =
    { before with password := after.password, crypt := after.crypt, logins := after.logins }
  password : after.password = before.password ∧ after.crypt = before.crypt ∨
    ∃ hash, rewritten hash ∧ after.password = some hash ∧ after.crypt = true

namespace Account.Kept

variable {rewritten : String → Prop}

theorem of_logins (account : Account) (logins : Nat) :
    Kept rewritten account { account with logins } := ⟨rfl, .inl ⟨rfl, rfl⟩⟩

theorem rehashed (account : Account) {hash : String} (allowed : rewritten hash) :
    Kept rewritten account (account.rehashed hash) := ⟨rfl, .inr ⟨hash, allowed, rfl, rfl⟩⟩

theorem trans {first second third : Account} (early : Kept rewritten first second)
    (late : Kept rewritten second third) : Kept rewritten first third := by
  refine ⟨?_, ?_⟩
  · rw [late.rest, early.rest]
  · rcases late.password with ⟨password, crypt⟩ | replaced
    · rw [password, crypt]
      exact early.password
    · exact .inr replaced

end Account.Kept

namespace MemoryDirectory

/-- One directory has the accounts of another, of which hashes may have been replaced, and differs
from it in nothing else but logins and failed attempts. -/
structure Retains (rewritten : AccountId → String → Prop) (before after : MemoryDirectory) :
    Prop where
  settings : after =
    { before with
      accounts := after.accounts, loggedIn := after.loggedIn, badPasswords := after.badPasswords }
  accounts : ∀ id, Option.Rel (Account.Kept (rewritten id)) (before.find? id) (after.find? id)

namespace Retains

variable {rewritten : AccountId → String → Prop}

theorem of_same {before after : MemoryDirectory} (accounts : after.accounts = before.accounts)
    (settings : after =
      { before with
        accounts := after.accounts, loggedIn := after.loggedIn
        badPasswords := after.badPasswords }) : Retains rewritten before after := by
  refine ⟨settings, ?_⟩
  intro id
  rw [find?, find?, accounts]
  cases before.accounts.find? id with
  | none => exact .none
  | some account => exact .some (.of_logins account account.logins)

theorem refl (directory : MemoryDirectory) : Retains rewritten directory directory :=
  .of_same rfl rfl

theorem trans {first second third : MemoryDirectory} (early : Retains rewritten first second)
    (late : Retains rewritten second third) : Retains rewritten first third := by
  refine ⟨?_, ?_⟩
  · rw [late.settings, early.settings]
  · intro id
    have before := early.accounts id
    have after := late.accounts id
    generalize first.find? id = one at before
    generalize second.find? id = two at before after
    generalize third.find? id = three at after
    cases before with
    | none =>
        cases after
        exact .none
    | some kept =>
        cases after with
        | some left => exact .some (kept.trans left)

theorem setPassword (directory : MemoryDirectory) {id : AccountId} {hash : String}
    (allowed : rewritten id hash) :
    Retains rewritten directory (directory.setPassword id hash).2 := by
  refine ⟨?_, ?_⟩
  · unfold MemoryDirectory.setPassword
    split <;> rfl
  · intro other
    rw [find?_setPassword]
    split
    · next same =>
        subst same
        cases directory.find? other with
        | none => exact .none
        | some account => exact .some (.rehashed account allowed)
    · exact (refl directory).accounts other

theorem badPassword (directory : MemoryDirectory) (id : AccountId) :
    Retains rewritten directory (directory.badPassword id) := by
  unfold MemoryDirectory.badPassword
  split
  · exact .of_same rfl rfl
  · exact .refl directory

theorem login (directory : MemoryDirectory) (uid : String) (id : AccountId) :
    Retains rewritten directory (directory.login uid id).2 := by
  refine ⟨?_, ?_⟩
  · unfold MemoryDirectory.login
    split <;> rfl
  · intro other
    rw [find?_login]
    cases directory.find? other with
    | none => exact .none
    | some account =>
        rw [Option.map_some]
        split
        · exact .some (.of_logins account _)
        · exact .some (.of_logins account account.logins)

/-- Replacing hashes does no more than that. -/
theorem of_rehashed {before after : MemoryDirectory} (rehashed : Rehashed before after)
    (any : ∀ id hash, rewritten id hash) : Retains rewritten before after :=
  rehashed.lift (Retains rewritten before)
    (fun directory id hash kept => kept.trans (.setPassword directory (any id hash)))
    (.refl before)

/-- An account that is there is found before, with its name and its identifier. -/
theorem found {before after : MemoryDirectory} (retains : Retains rewritten before after)
    {id : AccountId} {account : Account} (present : after.find? id = some account) :
    ∃ earlier, before.find? id = some earlier ∧ account.name = earlier.name ∧
      account.id = earlier.id := by
  have kept := retains.accounts id
  rw [present] at kept
  generalize before.find? id = earlier at kept
  cases kept with
  | @some earlier _ kept =>
      refine ⟨earlier, rfl, ?_, ?_⟩
      · rw [kept.rest]
      · rw [kept.rest]

end Retains

/-- What a frame of a session may do to the directory, given the frames that it is answered with and
the hashes that may have been stored: one failed attempt is counted where the negotiation has
failed, and the client is logged in where it has succeeded and is on the network. -/
structure Confined (id : String) (frames : List Outbound)
    (rewritten : AccountId → String → Prop) (before after : MemoryDirectory) : Prop where
  retains : Retains rewritten before after
  blame : (∀ account, after.badPasswordCount account = before.badPasswordCount account) ∨
    .outcome id .failure ∈ frames ∧ ∃ blamed, (before.find? blamed).isSome ∧
      ∀ account, after.badPasswordCount account =
        before.badPasswordCount account + if account = blamed then 1 else 0
  login : (∀ uid, after.loggedInAs? uid = before.loggedInAs? uid) ∧
      (∀ account, after.loginCount account = before.loginCount account) ∨
    .outcome id .success ∈ frames ∧ id ∈ before.online ∧
      ∃ target, before.find? target.id = some target ∧ .login id target.name ∈ frames ∧
        (∀ uid, after.loggedInAs? uid =
          if uid = id then some target.id else before.loggedInAs? uid) ∧
        ∀ account, after.loginCount account =
          before.loginCount account + (if account = target.id then 1 else 0) -
            if before.loggedInAs? id = some account then 1 else 0

end MemoryDirectory

/-! ## What a reply does to the directory -/

/-- What becomes of the directory when a step is concluded: a failed attempt may be noted, and a
client on the network may be logged in. -/
inductive Reply.Books [AccountDirectory D] (accounts : D) (id : String) (frames : List Outbound) :
    D → Prop where
  | leaves : Books accounts id frames accounts
  | blames {account : AccountId} (told : .outcome id .failure ∈ frames)
      (live : (AccountDirectory.findById accounts account).isSome) :
      Books accounts id frames (AccountDirectory.badPassword accounts account)
  | enters {account : AccountId} {target : Account} (told : .outcome id .success ∈ frames)
      (online : AccountDirectory.userOnline accounts id = true)
      (found : AccountDirectory.findById accounts account = some target)
      (named : .login id target.name ∈ frames) :
      Books accounts id frames (AccountDirectory.login accounts id target.id).2

theorem Reply.books_ofStep [AccountDirectory D] (accounts : D) (entropy : Entropy)
    (session : Session) (mechanism : String) (step : Step) {frames : List Outbound}
    (said : (ofStep accounts entropy session mechanism step).frames ⊆ frames) :
    Books accounts session.info.uid frames
      (ofStep accounts entropy session mechanism step).accounts := by
  cases step with
  | more data => exact .leaves
  | refused reply => exact .leaves
  | failure reply =>
      have told : .outcome session.info.uid .failure ∈ frames := said (by simp [ofStep])
      simp only [ofStep, penalized]
      split
      · exact .leaves
      · split
        · exact .leaves
        · next found => exact .blames told (Option.isSome_of_eq_some found)
  | success =>
      cases chosen : session.granted accounts with
      | none =>
          simp only [ofStep, chosen]
          exact .leaves
      | some target =>
          obtain ⟨source, claims, -⟩ := Session.granted_eq_some_iff.mp chosen
          obtain ⟨authz, -, found⟩ := Option.bind_eq_some_iff.mp claims.target
          have spoken := frames_ofStep_success accounts entropy session mechanism
          rw [chosen] at spoken
          rw [spoken] at said
          simp only [ofStep, chosen]
          split
          · next online =>
              exact .enters (said (by simp)) online found (said (by simp))
          · exact .leaves

/-! ## Confined changes -/

namespace MemoryDirectory

section

variable {before middle : MemoryDirectory} {rewritten : AccountId → String → Prop}
  (retains : Retains rewritten before middle) (rehashed : Rehashed before middle) (id : String)
  (frames : List Outbound)

include retains rehashed

/-- Replacing hashes is confined. -/
theorem confined_of_rehashed : Confined id frames rewritten before middle := by
  refine ⟨retains, .inl ?_, .inl ⟨?_, rehashed.loginCount⟩⟩
  · intro account
    rw [badPasswordCount, badPasswordCount, rehashed.badPasswords]
  · intro uid
    rw [loggedInAs?, loggedInAs?, rehashed.same.2.1]

/-- Noting a failed attempt is confined where the negotiation has failed. -/
theorem confined_badPassword {blamed : AccountId} (told : .outcome id .failure ∈ frames)
    (live : (middle.find? blamed).isSome) :
    Confined id frames rewritten before (middle.badPassword blamed) := by
  refine ⟨retains.trans (.badPassword middle blamed), .inr ⟨told, blamed, ?_, ?_⟩, .inl ⟨?_, ?_⟩⟩
  · obtain ⟨account, live⟩ := Option.isSome_iff_exists.mp live
    obtain ⟨earlier, present, -⟩ := retains.found live
    exact Option.isSome_of_eq_some present
  · intro account
    rw [badPasswordCount_badPassword, badPasswordCount, badPasswordCount, rehashed.badPasswords]
    simp only [live, and_true, eq_comm]
  · intro uid
    rw [loggedInAs?, loggedInAs?, ← rehashed.same.2.1, badPassword]
    split <;> rfl
  · intro account
    rw [← rehashed.loginCount, badPassword]
    split <;> rfl

/-- Logging the client in is confined where the negotiation has succeeded. -/
theorem confined_login {target : Account} (told : .outcome id .success ∈ frames)
    (online : id ∈ middle.online) (found : middle.find? target.id = some target)
    (named : .login id target.name ∈ frames) :
    Confined id frames rewritten before (middle.login id target.id).2 := by
  obtain ⟨sameOnline, loggedIn, -⟩ := rehashed.same
  obtain ⟨earlier, known, name, own⟩ := retains.found found
  have live : (middle.find? target.id).isSome := Option.isSome_of_eq_some found
  refine ⟨retains.trans (.login middle id target.id), .inl ?_,
    .inr ⟨told, sameOnline ▸ online, earlier, own ▸ known, name ▸ named, ?_, ?_⟩⟩
  · intro account
    rw [badPasswordCount, badPasswordCount, badPasswords_login, rehashed.badPasswords]
  · intro uid
    rw [loggedInAs?_login, loggedInAs?, loggedInAs?, loggedIn, own]
    simp only [← own, live, and_true]
  · intro account
    rw [loginCount_login, if_pos live, rehashed.loginCount, loggedInAs?, loggedInAs?, loggedIn, own]

end

/-- What a reply does to a directory in which at most hashes were replaced is confined. -/
theorem confined_of_books {before middle after : MemoryDirectory} (keyed : middle.Keyed)
    {rewritten : AccountId → String → Prop} (retains : Retains rewritten before middle)
    (rehashed : Rehashed before middle) {id : String} {frames : List Outbound}
    (books : Reply.Books middle id frames after) : Confined id frames rewritten before after := by
  cases books with
  | leaves => exact confined_of_rehashed retains rehashed id frames
  | blames told live => exact confined_badPassword retains rehashed id frames told live
  | @enters key target told online found named =>
      exact confined_login retains rehashed id frames told (List.contains_iff_mem.mp online)
        (keyed.find?_id found) named

end MemoryDirectory

/-! ## Frames -/

namespace Engine

section

variable [AccountDirectory D] [CredentialStore C]

/-- What a frame asks a mechanism, if it asks one. -/
def asked? (engine : Engine D C) (server : String) (frame : Inbound) : Option Query :=
  (engine.sessionFor server frame).bind fun (session, middle) => middle.query? session frame

/-- A frame runs a mechanism that is none of PLAIN, EXTERNAL and SCRAM. -/
def RunsCustom (engine : Engine D C) (server : String) (frame : Inbound) : Prop :=
  ∃ query, engine.asked? server frame = some query ∧
    query.registration.mechanism.isStandard = false

/-- A frame completes the acknowledgement of the exchange that its session holds. -/
structure Acknowledges (engine : Engine D C) (frame : Inbound) (exchange : Scram.Exchange) :
    Prop where
  arrived : (engine.arrival? frame).isSome
  served : ∃ registration server, engine.mechanism? frame.session = some registration ∧
    registration.mechanism = .scram server
  held : engine.state? frame.session = some (.scram exchange)
  complete : exchange.complete = true

/-- What a frame asks is found by the verdict that is come to. -/
theorem Asks.asked? {engine middle : Engine D C} {server : String} {frame : Inbound}
    {session : Session} {query : Query} {step : Step} {after : Context D C}
    (asks : engine.Asks server frame session middle query step after) :
    engine.asked? server frame = some query := by
  rw [Engine.asked?, asks.entered, Option.bind_some]
  exact asks.asked

/-- The hashes that a frame stores while its mechanism is one of PLAIN, EXTERNAL and SCRAM are those
that the acknowledgement of its exchange stores. -/
theorem Asks.stores {engine middle : Engine D C} {server : String} {frame : Inbound}
    {session : Session} {query : Query} {step : Step} {after : Context D C}
    (asks : engine.Asks server frame session middle query step after)
    (standard : query.registration.mechanism.isStandard = true) :
    after.accounts = engine.accounts ∨ ∃ exchange id hash, engine.Acknowledges frame exchange ∧
      exchange.Stores id hash ∧
      after.accounts = (AccountDirectory.setPassword engine.accounts id hash).2 := by
  have stored := Registration.stores_turn standard (middle.context query.session) query.message
  rw [asks.turned] at stored
  have accounts : (middle.context query.session).accounts = engine.accounts :=
    asks.enters.alike.accounts
  rw [accounts] at stored
  refine stored.imp_right ?_
  rintro ⟨scram, exchange, id, hash, message, served, held, complete, stores, made⟩
  obtain ⟨bytes, message⟩ := Option.isSome_iff_exists.mp message
  have arrived := asks.arrival message
  obtain ⟨data, earlier, decoder, -, found, selected, -, fed⟩ := arrival?_eq_some arrived
  refine ⟨exchange, id, hash, ⟨Option.isSome_of_eq_some arrived, ⟨_, scram, ?_, served⟩, ?_,
    complete⟩, stores, made⟩
  · rw [mechanism?, found, Option.bind_some, selected]
  · have held : query.session.state = some (.scram exchange) := held
    have same : query.session = { earlier.unmarked with decoder } := fed
    rw [same] at held
    rw [state?, found, Option.bind_some]
    exact held

end

variable [CredentialStore C]

/-- What a frame may do: it changes no session but its own, neither what is offered nor whether the
engine is connected, and of the directory only what it may change. -/
structure Isolates (engine : Engine MemoryDirectory C) (frame : Inbound)
    (rewritten : AccountId → String → Prop)
    (result : List Outbound × Engine MemoryDirectory C) : Prop where
  sessions : ∀ other, other ≠ frame.session →
    result.2.sessions.find? other = engine.sessions.find? other
  registry : result.2.registry = engine.registry
  connected : result.2.connected = engine.connected
  directory : MemoryDirectory.Confined frame.session result.1 rewritten engine.accounts
    result.2.accounts

/-- What becomes of the directory when a frame asks a mechanism. -/
theorem Asks.confined {engine middle : Engine MemoryDirectory C} {server : String}
    {frame : Inbound} {session : Session} {query : Query} {step : Step}
    {after : Context MemoryDirectory C}
    (asks : engine.Asks server frame session middle query step after)
    (built : engine.accounts.Built) :
    MemoryDirectory.Confined frame.session (engine.handle server frame).1
      (fun id hash => (∃ exchange, engine.Acknowledges frame exchange ∧ exchange.Stores id hash) ∨
        engine.RunsCustom server frame)
      engine.accounts (engine.handle server frame).2.accounts := by
  have keyed : after.accounts.Keyed := (asks.rehashed.built built).keyed
  have said : (Reply.ofStep after.accounts after.env.entropy after.session
      query.registration.name step).frames ⊆ (engine.handle server frame).1 := by
    rw [asks.gives.frames]
    exact List.subset_append_right _ _
  have books := Reply.books_ofStep after.accounts after.env.entropy after.session
    query.registration.name step said
  rw [asks.uid] at books
  rw [asks.gives.accounts]
  refine MemoryDirectory.confined_of_books keyed ?_ asks.rehashed books
  cases standard : query.registration.mechanism.isStandard with
  | false => exact .of_rehashed asks.rehashed fun _ _ => .inr ⟨query, asks.asked?, standard⟩
  | true =>
      rcases asks.stores standard with same | ⟨exchange, id, hash, acknowledges, stores, made⟩
      · rw [same]
        exact .refl _
      · rw [made]
        exact .setPassword _ (.inl ⟨exchange, acknowledges, stores⟩)

/-- A frame changes no session but its own, and neither the registry nor whether the engine is
connected. No account comes or goes, and of the accounts that there are only stored hashes and
counts of logins change: the hash of the account of an exchange, at the acknowledgement of the
exchange, if it had the legacy layout; or hashes that a mechanism replaces which is none of PLAIN,
EXTERNAL and SCRAM. One failed attempt is counted only where the negotiation has failed; and only
where it has succeeded is the client logged in, if it is on the network. -/
theorem handle_confined {engine : Engine MemoryDirectory C} (reachable : engine.Reachable)
    (built : engine.accounts.Built) (server : String) (frame : Inbound) :
    engine.Isolates frame
      (fun id hash => (∃ exchange, engine.Acknowledges frame exchange ∧ exchange.Stores id hash) ∨
        engine.RunsCustom server frame)
      (engine.handle server frame) := by
  have keyed := reachable.sound.keyed
  refine ⟨fun other different => find?_handle_of_ne keyed server different,
    registry_handle keyed server frame, engine.connected_handle server frame, ?_⟩
  cases verdict : engine.verdict? server frame with
  | none =>
      rw [(handle_unasked keyed verdict).2]
      exact MemoryDirectory.confined_of_rehashed (.refl _) (.refl _) _ _
  | some result =>
      obtain ⟨step, after⟩ := result
      obtain ⟨session, middle, query, asks⟩ := asks_of_verdict? keyed verdict
      exact asks.confined built

end Engine

/-! ## A mechanism that replaces hashes -/

/-- A mechanism that stores a hash for `alice` whenever it is selected. -/
def rehashingScript : Script where
  name := "REHASH"
  passwordBased := false
  start := [.rewrite ⟨1⟩ pencilHash, .reply []]
  steps := []
  inner := { digest := .sha1, mockKey := [], mockIterations := 1, mockSaltLength := 8 }

/-- An engine that offers this mechanism. -/
def rehashingEngine : Engine MemoryDirectory PasswordHasher :=
  waitingEngine.performAll [.registered (.scripted rehashingScript)]

theorem built_rehashingEngine : rehashingEngine.accounts.Built :=
  built_waitingAccounts

set_option maxRecDepth 100000 in
/-- A client that asks for it has the password of `alice` replaced, and has acknowledged nothing. -/
theorem not_confined_rehashing :
    let frame : Inbound := .startAuth "U1" "REHASH" none
    rehashingEngine.Reachable ∧ rehashingEngine.accounts.Built ∧
      ¬rehashingEngine.Isolates frame
        (fun id hash => ∃ exchange, rehashingEngine.Acknowledges frame exchange ∧
          exchange.Stores id hash)
        (rehashingEngine.handle "hub" frame) := by
  intro frame
  refine ⟨reachable_waitingEngine.performAll _, built_rehashingEngine, ?_⟩
  intro isolates
  have before : (rehashingEngine.accounts.find? ⟨1⟩).map Account.password =
      some (some "wonder") := by decide +kernel
  have after : ((rehashingEngine.handle "hub" frame).2.accounts.find? ⟨1⟩).map Account.password ≠
      some (some "wonder") := by decide +kernel
  have kept := isolates.directory.retains.accounts ⟨1⟩
  generalize rehashingEngine.accounts.find? ⟨1⟩ = early at before kept
  generalize (rehashingEngine.handle "hub" frame).2.accounts.find? ⟨1⟩ = late at after kept
  cases kept with
  | none => cases before
  | some kept =>
      rcases kept.password with ⟨same, -⟩ | ⟨hash, ⟨exchange, acknowledges, -⟩, -⟩
      · rw [Option.map_some, same] at after
        exact after before
      · cases acknowledges.arrived

/-! ## A client that is logged in -/

/-- The events up to the acknowledgement of a client that is on the network, while another one has
selected a mechanism. -/
def upgradingEvents : List (Engine.Event MemoryDirectory) :=
  [.directory fun directory => directory.apply (.setPassword ⟨1⟩ pencilHash),
   .directory fun directory => directory.apply (.online "U1"),
   .registered (.scram pencilServer),
   .frame "hub" (.startAuth "U2" "SCRAM-SHA-1" none)] ++ pencilEvents.tail

/-- The engine after these events. -/
def upgradingRun : Engine MemoryDirectory PasswordHasher :=
  waitingEngine.performAll upgradingEvents

theorem built_upgradingRun : upgradingRun.accounts.Built := by
  refine Engine.built_performAll reachable_waitingEngine built_waitingAccounts ?_
  intro event member
  simp only [upgradingEvents, pencilEvents, List.tail_cons, List.cons_append, List.nil_append,
    List.mem_cons, List.not_mem_nil, or_false] at member
  rcases member with rfl | rfl | rfl | rfl | rfl | rfl | rfl
  · exact ⟨.setPassword ⟨1⟩ pencilHash, trivial, rfl⟩
  · exact ⟨.online "U1", trivial, rfl⟩
  all_goals trivial

set_option maxRecDepth 100000 in
/-- Its acknowledgement has the hash upgraded and logs it in. -/
theorem handle_confined_upgrading :
    let result := upgradingRun.handle "hub" (.clientData "U1" "+")
    result.1 = [.login "U1" "alice", .outcome "U1" .success] ∧
      result.2.accounts.loggedInAs? "U1" = some ⟨1⟩ ∧
      (result.2.accounts.find? ⟨1⟩).map Account.password ≠
        (upgradingRun.accounts.find? ⟨1⟩).map Account.password ∧
      result.2.sessions.find? "U2" = upgradingRun.sessions.find? "U2" ∧
      upgradingRun.Isolates (.clientData "U1" "+")
        (fun id hash =>
          (∃ exchange, upgradingRun.Acknowledges (.clientData "U1" "+") exchange ∧
            exchange.Stores id hash) ∨ upgradingRun.RunsCustom "hub" (.clientData "U1" "+"))
        result := by
  intro result
  have isolates : upgradingRun.Isolates (.clientData "U1" "+") _ result :=
    Engine.handle_confined (reachable_waitingEngine.performAll upgradingEvents)
      built_upgradingRun "hub" (.clientData "U1" "+")
  have observed : result.1 = [.login "U1" "alice", .outcome "U1" .success] ∧
      result.2.accounts.loggedInAs? "U1" = some ⟨1⟩ ∧
      (result.2.accounts.find? ⟨1⟩).map Account.password ≠
        (upgradingRun.accounts.find? ⟨1⟩).map Account.password := by decide +kernel
  exact ⟨observed.1, observed.2.1, observed.2.2, isolates.sessions "U2" (by decide), isolates⟩

end IrcSasl
