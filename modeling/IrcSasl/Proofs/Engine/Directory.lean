import IrcSasl.Proofs.Account.Operations
import IrcSasl.Proofs.Engine.Policy

set_option autoImplicit false

/-!
# What events do to the directory

`Engine.Touches` lists everything that an event can make of the directory: a negotiation replaces
stored hashes, counts a failed attempt or logs its client in, a client that arrives is logged in if
its login waits, and nothing else in the engine changes the directory at all. To a directory in
memory all of this comes about by operations, so what operations keep is kept by every run
(`Engine.lift_performAll`).
-/

namespace IrcSasl

variable {D C : Type}

namespace Engine

/-! ## Events that leave the directory alone -/

theorem accounts_remove (engine : Engine D C) (name : String) :
    (engine.remove name).2.accounts = engine.accounts := by
  unfold remove
  split <;> rfl

theorem accounts_register (engine : Engine D C) (mechanism : Mechanism) :
    (engine.register mechanism).2.accounts = engine.accounts := by
  rw [snd_register]
  rfl

theorem accounts_unregister (engine : Engine D C) (name : String) :
    (engine.unregister name).2.accounts = engine.accounts := by
  rw [snd_unregister]
  exact engine.accounts_remove name

theorem accounts_ensureScram (engine : Engine D C) (options : HashOptions) :
    (engine.ensureScram options).2.accounts = engine.accounts := by
  rcases engine.ensureScram_cases options with ⟨entry, -, kept⟩ | ⟨-, ⟨env, failed⟩ |
    ⟨server, env, -, -, -, added⟩⟩
  · rw [kept]
  · rw [failed]
  · rw [added]
    rfl

theorem accounts_configureScram (engine : Engine D C) (options : HashOptions) :
    (engine.configureScram options).2.accounts = engine.accounts := by
  refine @configureScram_invariant D C options
    (fun middle => middle.accounts = engine.accounts) ?_ ?_ ?_ engine rfl
  · exact fun middle early => early
  · exact fun middle digest _ early => (middle.accounts_remove digest.scramName).trans early
  · exact fun middle early => (middle.accounts_ensureScram options).trans early

/-! ## Everything that an event can do to the directory -/

variable [AccountDirectory D] [CredentialStore C]

/-- What an event can make of the directory. -/
inductive Touches (engine : Engine D C) : Event D → D → Prop where
  /-- The directory stays as it is. -/
  | leaves (event : Event D) : Touches engine event engine.accounts
  /-- A mechanism has replaced stored hashes. -/
  | rehashes {server : String} {frame : Inbound} {middle : D}
      (rehashed : Rehashed engine.accounts middle) : Touches engine (.frame server frame) middle
  /-- An attempt at an account has failed. -/
  | blames {server : String} {frame : Inbound} {middle : D} {id : AccountId}
      (rehashed : Rehashed engine.accounts middle) :
      Touches engine (.frame server frame) (AccountDirectory.badPassword middle id)
  /-- A client that has authenticated on the network is logged in. -/
  | enters {server : String} {frame : Inbound} {middle : D} {session : Session}
      {source target : Account} (rehashed : Rehashed engine.accounts middle)
      (claims : session.Claims middle source target) (entitled : Entitled middle source target)
      (emitted : .login frame.session target.name ∈ (engine.handle server frame).1) :
      Touches engine (.frame server frame)
        (AccountDirectory.login middle frame.session target.id).2
  /-- A client whose login has waited arrives. -/
  | arrives {uid : String} {session : Session} {pending : PendingLogin} {account : Account}
      (found : engine.sessions.find? uid = some session) (waits : session.pending = some pending)
      (live : AccountDirectory.findById engine.accounts pending.account.id = some account) :
      Touches engine (.introduced uid)
        (AccountDirectory.login engine.accounts uid pending.account.id).2
  /-- Somebody else changes the directory. -/
  | changes (change : D → D) : Touches engine (.directory change) (change engine.accounts)

theorem touches_handle {engine : Engine D C} (keyed : engine.Keyed) (server : String)
    (frame : Inbound) :
    engine.Touches (.frame server frame) (engine.handle server frame).2.accounts := by
  cases verdict : engine.verdict? server frame with
  | none =>
      rw [(handle_unasked keyed verdict).2]
      exact .leaves _
  | some result =>
      obtain ⟨step, after⟩ := result
      obtain ⟨session, middle, query, asks⟩ := asks_of_verdict? keyed verdict
      rw [asks.gives.accounts]
      cases step with
      | more data => exact .rehashes asks.rehashed
      | success =>
          cases chosen : after.session.granted after.accounts with
          | none =>
              simp only [Reply.ofStep, chosen]
              exact .rehashes asks.rehashed
          | some target =>
              obtain ⟨source, claims, entitled⟩ := Session.granted_eq_some_iff.mp chosen
              have emitted : .login frame.session target.name ∈ (engine.handle server frame).1 := by
                rw [asks.frames_of_success, chosen, Option.map_some]
                exact List.mem_append_right _ (login_mem_verdictFrames.mpr rfl)
              simp only [Reply.ofStep, chosen]
              split
              · rw [asks.uid]
                exact .enters asks.rehashed claims entitled emitted
              · -- The login of a client that is not on the network only waits.
                exact .rehashes asks.rehashed
      | failure reply =>
          simp only [Reply.ofStep, penalized]
          split
          · exact .rehashes asks.rehashed
          · split
            · exact .rehashes asks.rehashed
            · exact .blames asks.rehashed
      | refused reply => exact .rehashes asks.rehashed

omit [CredentialStore C] in
/-- A client that arrives is logged in if its login waits for it and the account is still there. -/
theorem accounts_userIntroduced (engine : Engine D C) (uid : String) :
    (engine.userIntroduced uid).2.accounts =
      match (engine.sessions.find? uid).bind Session.pending with
      | none => engine.accounts
      | some pending =>
          match AccountDirectory.findById engine.accounts pending.account.id with
          | none => engine.accounts
          | some _ => (AccountDirectory.login engine.accounts uid pending.account.id).2 := by
  unfold userIntroduced
  cases engine.sessions.find? uid with
  | none => rfl
  | some session =>
      simp only [Option.bind_some]
      cases session.pending with
      | none => rfl
      | some pending =>
          have same : ((engine.putSession { session with needLog := false, pending := none
              }).destroySession uid).accounts = engine.accounts := rfl
          simp only [same]
          cases AccountDirectory.findById engine.accounts pending.account.id with
          | none => rfl
          | some account =>
              have entered := applyLogin_alike ((engine.putSession
                { session with needLog := false, pending := none }).destroySession uid) uid
                pending.account pending.mechanism
              exact entered.1

theorem touches_perform {engine : Engine D C} (keyed : engine.Keyed) (event : Event D) :
    engine.Touches event (engine.perform event).accounts := by
  cases event with
  | frame server inbound => exact touches_handle keyed server inbound
  | introduced uid =>
      have accounts := engine.accounts_userIntroduced uid
      simp only [perform]
      rw [accounts]
      split
      · exact .leaves _
      · next pending waits =>
          obtain ⟨session, found, waits⟩ := Option.bind_eq_some_iff.mp waits
          split
          · exact .leaves _
          · next account live => exact .arrives found waits live
  | registered mechanism =>
      simp only [perform, accounts_register]
      exact .leaves _
  | unregistered name =>
      simp only [perform, accounts_unregister]
      exact .leaves _
  | configured options =>
      simp only [perform, accounts_configureScram]
      exact .leaves _
  | burst => exact .leaves _
  | swept => exact .leaves _
  | drawn length => exact .leaves _
  | directory change => exact .changes change

end Engine

/-! ## Directories in memory -/

section

variable {before after : MemoryDirectory}

/-- What replacing a hash keeps is kept by replacing hashes. -/
theorem Rehashed.lift (holds : MemoryDirectory → Prop)
    (keeps : ∀ directory id hash, holds directory → holds (directory.setPassword id hash).2)
    (rehashed : Rehashed before after) (initially : holds before) : holds after := by
  induction rehashed with
  | refl => exact initially
  | tail _ replaced ih =>
      obtain ⟨id, hash, rfl⟩ := replaced
      exact keeps _ id hash ih

theorem Rehashed.built (rehashed : Rehashed before after) (built : before.Built) : after.Built :=
  rehashed.lift MemoryDirectory.Built
    (fun _ id hash built => built.apply (.setPassword id hash) trivial) built

/-- Replacing hashes leaves the users on the network, the accounts that they are logged into and the
limit of logins as they are. -/
theorem Rehashed.same (rehashed : Rehashed before after) :
    after.online = before.online ∧ after.loggedIn = before.loggedIn ∧
      after.maxLogins = before.maxLogins := by
  refine rehashed.lift (fun directory => directory.online = before.online ∧
    directory.loggedIn = before.loggedIn ∧ directory.maxLogins = before.maxLogins) ?_
    ⟨rfl, rfl, rfl⟩
  intro directory id hash kept
  unfold MemoryDirectory.setPassword
  split <;> exact kept

/-- Replacing hashes leaves the counts of failed attempts as they are. -/
theorem Rehashed.badPasswords (rehashed : Rehashed before after) :
    after.badPasswords = before.badPasswords :=
  rehashed.lift (fun directory => directory.badPasswords = before.badPasswords)
    (fun directory id hash kept => (directory.badPasswords_setPassword id hash).trans kept) rfl

/-- Replacing hashes leaves the counts of logins as they are. -/
theorem Rehashed.loginCount (rehashed : Rehashed before after) (id : AccountId) :
    after.loginCount id = before.loginCount id :=
  rehashed.lift (fun directory => directory.loginCount id = before.loginCount id)
    (fun directory other hash kept => (directory.loginCount_setPassword other hash id).trans kept)
    rfl

end

variable [CredentialStore C]

namespace Engine

/-- Whether all that an event does to the directory by hand is an operation of a kind. -/
def Event.Operates (kind : MemoryDirectory.Operation → Prop) : Event MemoryDirectory → Prop
  | .directory change => ∃ operation, kind operation ∧ change = fun directory =>
      directory.apply operation
  | _ => True

theorem Event.Operates.mono {kind wider : MemoryDirectory.Operation → Prop}
    (widens : ∀ operation, kind operation → wider operation) {event : Event MemoryDirectory}
    (operates : event.Operates kind) : event.Operates wider := by
  cases event with
  | directory change =>
      obtain ⟨operation, of, same⟩ := operates
      exact ⟨operation, widens operation of, same⟩
  | _ => trivial

/-- Whether an event leaves the identifiers and the names of accounts alone. -/
def Event.KeepsIdentity (event : Event MemoryDirectory) : Prop :=
  event.Operates MemoryDirectory.Operation.KeepsIdentity

section

variable {kind : MemoryDirectory.Operation → Prop} {engine : Engine MemoryDirectory C}
  (holds : MemoryDirectory → Prop)
  (keeps : ∀ directory operation, kind operation → holds directory →
    holds (directory.apply operation))
  (negotiated : ∀ operation, operation.Negotiated → kind operation)

include keeps negotiated

/-- What every operation of a kind keeps is kept by every event that does nothing else by hand, if
the operations of negotiations are of that kind. -/
theorem Touches.lift {event : Event MemoryDirectory} {after : MemoryDirectory}
    (touches : engine.Touches event after) (operates : event.Operates kind)
    (initially : holds engine.accounts) : holds after := by
  have own (directory : MemoryDirectory) (operation : MemoryDirectory.Operation)
      (negotiates : operation.Negotiated) (held : holds directory) :
      holds (directory.apply operation) :=
    keeps directory operation (negotiated operation negotiates) held
  have rewritten {middle : MemoryDirectory} (rehashed : Rehashed engine.accounts middle) :
      holds middle :=
    rehashed.lift holds (fun directory id hash => own directory (.setPassword id hash) trivial)
      initially
  cases touches with
  | leaves => exact initially
  | rehashes rehashed => exact rewritten rehashed
  | @blames server frame middle id rehashed =>
      exact own middle (.badPassword id) trivial (rewritten rehashed)
  | @enters server frame middle session source target rehashed claims entitled emitted =>
      exact own middle (.login frame.session target.id) trivial (rewritten rehashed)
  | @arrives uid session pending account found waits live =>
      exact own engine.accounts (.login uid pending.account.id) trivial initially
  | changes change =>
      obtain ⟨operation, of, rfl⟩ := operates
      exact keeps engine.accounts operation of initially

/-- So it is kept by every run of such events. -/
theorem lift_performAll (reachable : engine.Reachable) (initially : holds engine.accounts)
    {events : List (Event MemoryDirectory)} (operates : ∀ event ∈ events, event.Operates kind) :
    holds (engine.performAll events).accounts := by
  induction events generalizing engine with
  | nil => exact initially
  | cons event rest ih =>
      obtain ⟨first, operates⟩ := List.forall_mem_cons.mp operates
      refine ih (reachable.perform event) ?_ operates
      exact (touches_perform reachable.sound.keyed event).lift holds keeps negotiated first
        initially

end

/-- A directory that operations have built is still one after an event that leaves identifiers and
names alone. -/
theorem Touches.built {engine : Engine MemoryDirectory C} {event : Event MemoryDirectory}
    {after : MemoryDirectory} (touches : engine.Touches event after) (keeps : event.KeepsIdentity)
    (built : engine.accounts.Built) : after.Built :=
  touches.lift MemoryDirectory.Built (fun _ operation kept built => built.apply operation kept)
    (fun _ => MemoryDirectory.Operation.Negotiated.keepsIdentity) keeps built

theorem built_performAll {engine : Engine MemoryDirectory C} (reachable : engine.Reachable)
    (built : engine.accounts.Built) {events : List (Event MemoryDirectory)}
    (keeps : ∀ event ∈ events, event.KeepsIdentity) : (engine.performAll events).accounts.Built :=
  lift_performAll MemoryDirectory.Built (fun _ operation kept built => built.apply operation kept)
    (fun _ => MemoryDirectory.Operation.Negotiated.keepsIdentity) reachable built keeps

end Engine

end IrcSasl
