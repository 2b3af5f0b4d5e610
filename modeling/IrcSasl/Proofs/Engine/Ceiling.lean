import IrcSasl.Proofs.Engine.Directory

set_option autoImplicit false

/-!
# The ceiling of concurrent logins

A login is admitted only below the ceiling of its account, but one that is deferred is counted when
its client arrives, and nothing looks at the ceiling then. Every count stays under the ceiling until
a client arrives whose login was admitted before the account was full
(`Engine.logins_le_ceiling_iff`).
-/

namespace IrcSasl

variable {C : Type}

/-- An account that may be logged into has fewer logins than there may be. -/
theorem MemoryDirectory.logins_lt_of_admission {directory : MemoryDirectory} {account : Account}
    (admitted : directory.admission account = .allow) : account.logins < directory.maxLogins := by
  unfold admission at admitted
  split at admitted
  · cases admitted
  · split at admitted
    · cases admitted
    · next below => exact Nat.lt_of_not_le below

/-- A client that is entitled to an account is let in by the account itself. -/
theorem Entitled.admitted {directory : MemoryDirectory} (keyed : directory.Keyed)
    {session : Session} {source target : Account}
    (claims : session.Claims directory source target)
    (entitled : Entitled directory source target) :
    directory.find? target.id = some target ∧ directory.admission target = .allow := by
  obtain ⟨acting, -, found⟩ := Option.bind_eq_some_iff.mp claims.target
  obtain ⟨own, -, known⟩ := Option.bind_eq_some_iff.mp claims.source
  have found : directory.find? target.id = some target := keyed.find?_id found
  refine ⟨found, ?_⟩
  rcases entitled.other with same | ⟨-, admitted⟩
  · have known : directory.find? source.id = some source := keyed.find?_id known
    rw [same, known] at found
    cases found
    exact entitled.own
  · exact admitted

/-- A login that is admitted when it is applied raises no count above the ceiling. -/
theorem MemoryDirectory.loginCount_login_le {directory : MemoryDirectory} {target : Account}
    (found : directory.find? target.id = some target)
    (admitted : directory.admission target = .allow) (uid : String) (id : AccountId) :
    (directory.login uid target.id).2.loginCount id ≤
      max directory.maxLogins (directory.loginCount id) := by
  have counted : (directory.login uid target.id).2.loginCount id ≤
      directory.loginCount id + if id = target.id then 1 else 0 := by
    rw [loginCount_login, found]
    exact Nat.sub_le _ _
  have below := logins_lt_of_admission admitted
  by_cases same : id = target.id
  · subst same
    rw [loginCount_of_find? found, if_pos rfl] at counted
    omega
  · rw [if_neg same] at counted
    omega

variable [CredentialStore C]

namespace Engine

/-- Whether an event logs a client whose login has waited into an account that has as many logins as
there may be. -/
def overfills (engine : Engine MemoryDirectory C) (ceiling : Nat) (id : AccountId) :
    Event MemoryDirectory → Bool
  | .introduced uid =>
      ((engine.sessions.find? uid).bind Session.pending).any (fun login => login.account.id = id) &&
        (engine.accounts.find? id).isSome && ceiling ≤ engine.accounts.loginCount id &&
        engine.accounts.loggedInAs? uid ≠ some id
  | _ => false

/-- How many of a run's events overfill an account. -/
def overfillings (engine : Engine MemoryDirectory C) (ceiling : Nat) (id : AccountId) :
    List (Event MemoryDirectory) → Nat
  | [] => 0
  | event :: rest =>
      (if engine.overfills ceiling id event then 1 else 0) +
        (engine.perform event).overfillings ceiling id rest

theorem overfillings_append (engine : Engine MemoryDirectory C) (ceiling : Nat) (id : AccountId)
    (earlier later : List (Event MemoryDirectory)) :
    engine.overfillings ceiling id (earlier ++ later) =
      engine.overfillings ceiling id earlier +
        (engine.performAll earlier).overfillings ceiling id later := by
  induction earlier generalizing engine with
  | nil => exact (Nat.zero_add _).symm
  | cons event rest ih =>
      simp only [List.cons_append, overfillings, ih, Nat.add_assoc]
      rfl

/-- A reachable engine whose directory was built by operations and has a ceiling. -/
structure Capped (engine : Engine MemoryDirectory C) (ceiling : Nat) : Prop where
  reachable : engine.Reachable
  built : engine.accounts.Built
  limit : engine.accounts.maxLogins = ceiling

namespace Capped

variable {engine : Engine MemoryDirectory C} {ceiling : Nat}

/-- The ceiling does not move while nobody moves it by hand. -/
theorem perform (capped : engine.Capped ceiling) {event : Event MemoryDirectory}
    (operates : event.Operates (·.LeavesLogins)) :
    (engine.perform event).Capped ceiling := by
  have touches := touches_perform capped.reachable.sound.keyed event
  refine ⟨capped.reachable.perform event, ?_, ?_⟩
  · exact touches.built (operates.mono fun _ leaves => leaves.1) capped.built
  · rw [← capped.limit]
    generalize (engine.perform event).accounts = after at touches ⊢
    cases touches with
    | leaves => rfl
    | rehashes rehashed => exact rehashed.same.2.2
    | @blames server frame middle id rehashed =>
        refine Eq.trans ?_ rehashed.same.2.2
        exact middle.maxLogins_apply (.badPassword id) fun _ absurd => by cases absurd
    | @enters server frame middle session source target rehashed claims entitled emitted =>
        refine Eq.trans ?_ rehashed.same.2.2
        exact middle.maxLogins_apply (.login frame.session target.id)
          fun _ absurd => by cases absurd
    | @arrives uid session pending account found waits live =>
        exact engine.accounts.maxLogins_apply (.login uid pending.account.id)
          fun _ absurd => by cases absurd
    | changes change =>
        obtain ⟨operation, leaves, rfl⟩ := operates
        refine engine.accounts.maxLogins_apply operation ?_
        rintro max rfl
        exact leaves.2.2

omit [CredentialStore C] in
/-- A login that is applied when its client arrives raises no count above the ceiling, unless it
overfills the account. -/
theorem loginCount_arrival_le (ceiling : Nat) {uid : String} {session : Session}
    {pending : PendingLogin} {account : Account}
    (found : engine.sessions.find? uid = some session) (waits : session.pending = some pending)
    (live : engine.accounts.find? pending.account.id = some account) (id : AccountId) :
    (engine.accounts.login uid pending.account.id).2.loginCount id ≤
      max ceiling (engine.accounts.loginCount id) +
        if engine.overfills ceiling id (.introduced uid) then 1 else 0 := by
  rw [MemoryDirectory.loginCount_login, live]
  simp only [Option.isSome_some, if_true]
  by_cases same : id = pending.account.id
  · -- A client that is counted for the account already leaves it before it enters it again.
    by_cases already : engine.accounts.loggedInAs? uid = some id
    · rw [if_pos same, if_pos already]
      omega
    · have full : engine.overfills ceiling id (.introduced uid) =
          Decidable.decide (ceiling ≤ engine.accounts.loginCount id) := by
        subst same
        simp [overfills, found, waits, live, already]
      rw [full, if_pos same, if_neg already]
      by_cases reached : ceiling ≤ engine.accounts.loginCount id
      · rw [if_pos (decide_eq_true reached)]
        omega
      · rw [if_neg (by simp [reached])]
        omega
  · rw [if_neg same]
    omega

/-- An event raises no count above the ceiling, unless it overfills the account. -/
theorem loginCount_perform_le (capped : engine.Capped ceiling) {event : Event MemoryDirectory}
    (operates : event.Operates (·.LeavesLogins)) (id : AccountId) :
    (engine.perform event).accounts.loginCount id ≤
      max ceiling (engine.accounts.loginCount id) +
        if engine.overfills ceiling id event then 1 else 0 := by
  have touches := touches_perform capped.reachable.sound.keyed event
  generalize (engine.perform event).accounts = after at touches ⊢
  have kept : engine.accounts.loginCount id ≤ max ceiling (engine.accounts.loginCount id) +
      if engine.overfills ceiling id event then 1 else 0 :=
    Nat.le_trans (Nat.le_max_right _ _) (Nat.le_add_right _ _)
  cases touches with
  | leaves => exact kept
  | rehashes rehashed =>
      rw [rehashed.loginCount id]
      exact kept
  | @blames server frame middle other rehashed =>
      have blamed := middle.loginCount_apply_le (.badPassword other) ⟨trivial, trivial, trivial⟩ id
      refine Nat.le_trans blamed ?_
      rw [rehashed.loginCount id]
      exact kept
  | @enters server frame middle session source target rehashed claims entitled emitted =>
      have keyed : middle.Keyed := (rehashed.built capped.built).keyed
      obtain ⟨found, admitted⟩ := entitled.admitted keyed claims
      have counted := MemoryDirectory.loginCount_login_le found admitted frame.session id
      rw [rehashed.same.2.2, capped.limit, rehashed.loginCount id] at counted
      exact Nat.le_trans counted (Nat.le_add_right _ _)
  | @arrives uid session pending account found waits live =>
      exact loginCount_arrival_le ceiling found waits live id
  | changes change =>
      obtain ⟨operation, leaves, rfl⟩ := operates
      exact Nat.le_trans (engine.accounts.loginCount_apply_le operation leaves id) kept

/-- An event that overfills an account raises its count above the ceiling. -/
theorem loginCount_of_overfills {event : Event MemoryDirectory} {id : AccountId}
    (overfills : engine.overfills ceiling id event = true) :
    ceiling < (engine.perform event).accounts.loginCount id := by
  cases event with
  | introduced uid =>
      simp only [Engine.overfills, Bool.and_eq_true, Option.any_eq_true, decide_eq_true_eq, ne_eq,
        decide_not, Bool.not_eq_true', decide_eq_false_iff_not] at overfills
      obtain ⟨⟨⟨⟨login, waits, same⟩, present⟩, full⟩, fresh⟩ := overfills
      obtain ⟨account, live⟩ := Option.isSome_iff_exists.mp present
      subst same
      have known : AccountDirectory.findById engine.accounts login.account.id = some account := live
      have accounts : (engine.perform (.introduced uid)).accounts =
          (engine.accounts.login uid login.account.id).2 := by
        refine (engine.accounts_userIntroduced uid).trans ?_
        simp only [waits, known]
        rfl
      rw [accounts, MemoryDirectory.loginCount_login, if_pos present, if_pos rfl, if_neg fresh]
      exact Nat.lt_succ_of_le full
  | _ => cases overfills

/-- A run that leaves a count under the ceiling all the time never overfills the account. -/
theorem overfillings_eq_zero {events : List (Event MemoryDirectory)} {id : AccountId}
    (below : ∀ earlier later, events = earlier ++ later →
      (engine.performAll earlier).accounts.loginCount id ≤ ceiling) :
    engine.overfillings ceiling id events = 0 := by
  induction events generalizing engine with
  | nil => rfl
  | cons event rest ih =>
      have onwards : (engine.perform event).overfillings ceiling id rest = 0 := by
        refine ih ?_
        rintro earlier later rfl
        exact below (event :: earlier) later rfl
      cases filled : engine.overfills ceiling id event with
      | false => simp [overfillings, filled, onwards]
      | true =>
          have raised := loginCount_of_overfills filled
          exact absurd (below [event] rest rfl) (Nat.not_le_of_lt raised)

/-- A run raises no count above the ceiling by more than how often it overfills the account. -/
theorem loginCount_performAll_le (capped : engine.Capped ceiling)
    {events : List (Event MemoryDirectory)}
    (operates : ∀ event ∈ events, event.Operates (·.LeavesLogins)) (id : AccountId) :
    (engine.performAll events).accounts.loginCount id ≤
      max ceiling (engine.accounts.loginCount id) + engine.overfillings ceiling id events := by
  -- The maximum carries the induction: once an account is overfilled, its count stays the bound.
  induction events generalizing engine with
  | nil => exact Nat.le_trans (Nat.le_max_right _ _) (Nat.le_add_right _ _)
  | cons event rest ih =>
      have allowed := operates event List.mem_cons_self
      have later := ih (capped.perform allowed)
        fun other member => operates other (List.mem_cons_of_mem _ member)
      have now := capped.loginCount_perform_le allowed id
      have all : (engine.performAll (event :: rest)).accounts.loginCount id =
          ((engine.perform event).performAll rest).accounts.loginCount id := rfl
      rw [all, overfillings]
      omega

end Capped

/-- While logins are only made by negotiations, no account has more of them than its ceiling and the
logins that have overfilled it. So the ceiling holds throughout a run exactly if no client arrives
in it whose login has waited while its account became full. -/
theorem logins_le_ceiling_iff {options : Options} {casemap : Text.Casemap} {ceiling : Nat}
    {credentials : C} {entropy : Entropy} {engine : Engine MemoryDirectory C}
    (created : Engine.create options (({ casemap } : MemoryDirectory).setMaxLogins ceiling)
      credentials entropy = .ok engine)
    {events : List (Event MemoryDirectory)}
    (operates : ∀ event ∈ events, event.Operates (·.LeavesLogins)) :
    (∀ id, (engine.performAll events).accounts.loginCount id ≤
      ceiling + engine.overfillings ceiling id events) ∧
    ((∀ earlier later, events = earlier ++ later → ∀ id,
        (engine.performAll earlier).accounts.loginCount id ≤ ceiling) ↔
      ∀ id, engine.overfillings ceiling id events = 0) := by
  have accounts : engine.accounts = ({ casemap } : MemoryDirectory).setMaxLogins ceiling := by
    unfold Engine.create at created
    split at created
    · cases created
      rfl
    · cases created
  have capped : engine.Capped ceiling := by
    refine ⟨.create created, ?_, by rw [accounts]; rfl⟩
    rw [accounts]
    exact (MemoryDirectory.Built.empty casemap).apply (.limit ceiling) trivial
  have empty (id : AccountId) : engine.accounts.loginCount id = 0 := by
    rw [accounts]
    rfl
  refine ⟨?_, ?_, ?_⟩
  · intro id
    have bound := capped.loginCount_performAll_le operates id
    rw [empty id] at bound
    omega
  · intro holds id
    refine Capped.overfillings_eq_zero ?_
    intro earlier later same
    exact holds earlier later same id
  · intro none earlier later same id
    subst same
    have bound := capped.loginCount_performAll_le
      (fun event member => operates event (List.mem_append_left later member)) id
    have sum := none id
    rw [overfillings_append] at sum
    rw [empty id] at bound
    omega

end Engine

/-! ## An account that is overfilled -/

/-- An engine whose accounts may each have one login. -/
def crowdedEngine : Engine MemoryDirectory PasswordHasher :=
  { options := {}, accounts := ({} : MemoryDirectory).setMaxLogins 1, credentials := ⟨{}⟩
    env := { entropy := .arithmetic 0 [] } }

/-- Two clients authenticate as the same account before either is on the network, and then both
arrive. -/
def crowdedEvents : List (Engine.Event MemoryDirectory) :=
  [.directory fun directory => directory.apply (.register "alice" (some "wonder")),
   .registered .plain,
   .frame "hub" (.startAuth "U1" "PLAIN" none),
   .frame "hub" (.clientData "U1" "AGFsaWNlAHdvbmRlcg=="),
   .frame "hub" (.startAuth "U2" "PLAIN" none),
   .frame "hub" (.clientData "U2" "AGFsaWNlAHdvbmRlcg=="),
   .introduced "U1",
   .introduced "U2"]

set_option maxRecDepth 100000 in
/-- The account ends up with two logins. -/
theorem logins_le_ceiling_iff_crowded :
    (crowdedEngine.performAll crowdedEvents).accounts.loginCount ⟨1⟩ = 2 ∧
    crowdedEngine.overfillings 1 ⟨1⟩ crowdedEvents = 1 ∧
    ¬∀ earlier later, crowdedEvents = earlier ++ later →
      ∀ id, (crowdedEngine.performAll earlier).accounts.loginCount id ≤ 1 := by
  have created : Engine.create {} (({} : MemoryDirectory).setMaxLogins 1) ⟨{}⟩
      (.arithmetic 0 []) = .ok crowdedEngine := rfl
  have operates : ∀ event ∈ crowdedEvents, event.Operates (·.LeavesLogins) := by
    intro event member
    simp only [crowdedEvents, List.mem_cons, List.not_mem_nil, or_false] at member
    rcases member with rfl | rfl | rfl | rfl | rfl | rfl | rfl | rfl
    · exact ⟨.register "alice" (some "wonder"), ⟨trivial, trivial, trivial⟩, rfl⟩
    all_goals trivial
  have count : (crowdedEngine.performAll crowdedEvents).accounts.loginCount ⟨1⟩ = 2 := by
    decide +kernel
  have filled : crowdedEngine.overfillings 1 ⟨1⟩ crowdedEvents = 1 := by decide +kernel
  obtain ⟨-, claimed⟩ := Engine.logins_le_ceiling_iff created operates
  refine ⟨count, filled, ?_⟩
  rw [claimed]
  intro never
  rw [never ⟨1⟩] at filled
  cases filled

end IrcSasl
