import IrcSasl.Engine.Handle

set_option autoImplicit false

/-!
# The sessions of an engine

What the operations on the store of sessions do to each session, seen through `Table.find?`, and
what the operations of the engine leave alone. Two engines that are `Engine.Alike` differ in nothing
that a negotiation reads but their sessions.
-/

namespace IrcSasl

/-! ## One session -/

namespace Session

/-- The session after its mechanism was finished. -/
def released (session : Session) : Session :=
  { session with mechanism := none, state := none, decoder := session.decoder.clear }

/-- The session after its negotiation was given up: without mechanism and identities. -/
def reset (session : Session) : Session :=
  { session.released with authc := none, authz := none }

/-- What a negotiation that fails leaves of its session. -/
def afterFailure (session : Session) : Option Session :=
  if session.pending.isSome then some session.reset else none

/-- The session with a login that waits for the client. -/
def deferred (session : Session) (target : Identity) (mechanism : String) : Session :=
  { session.released with
    authz := session.authz.or session.authc, needLog := true, pending := some ⟨target, mechanism⟩ }

/-- The session as a frame finds it. -/
def unmarked (session : Session) : Session := { session with marked := false }

/-- The session with the certificate that the uplink tells when a client starts. -/
def presenting (session : Session) : Option String → Session
  | some certfp =>
      { session with info := { session.info with certfp := some certfp, secure := true } }
  | none => session

section

variable (session : Session) (certfp : Option String)

@[simp] theorem uid_presenting : (session.presenting certfp).info.uid = session.info.uid := by
  cases certfp <;> rfl

@[simp] theorem mechanism_presenting :
    (session.presenting certfp).mechanism = session.mechanism := by
  cases certfp <;> rfl

@[simp] theorem authc_presenting : (session.presenting certfp).authc = session.authc := by
  cases certfp <;> rfl

@[simp] theorem authz_presenting : (session.presenting certfp).authz = session.authz := by
  cases certfp <;> rfl

@[simp] theorem pending_presenting : (session.presenting certfp).pending = session.pending := by
  cases certfp <;> rfl

end

/-- To finish a mechanism draws no random bytes. -/
@[simp] theorem entropy_finishMechanism (session : Session) (env : Environment) :
    (session.finishMechanism env).2.entropy = env.entropy := by
  unfold finishMechanism
  split <;> rfl

/-- What a failure leaves does not depend on the identities or on what the mechanism keeps. -/
theorem afterFailure_congr {first second : Session}
    (same : first =
      { second with authc := first.authc, authz := first.authz, state := first.state }) :
    first.afterFailure = second.afterFailure := by
  rw [same]
  rfl

end Session

/-! ## The store -/

namespace SessionStore

@[simp] theorem find?_destroy (store : SessionStore) (id other : String) (env : Environment) :
    (store.destroy id env).2.1.find? other = if other = id then none else store.find? other := by
  unfold destroy
  cases found : store.find? id with
  | none =>
      by_cases same : other = id
      · simp [same, found]
      · simp [same]
  | some session => simp

@[simp] theorem entropy_destroy (store : SessionStore) (id : String) (env : Environment) :
    (store.destroy id env).2.2.entropy = env.entropy := by
  unfold destroy
  cases store.find? id with
  | none => rfl
  | some session =>
      simp only [Session.entropy_finishMechanism]
      split <;> rfl

theorem find?_destroyAll (event : String → Log.Event) (ids : List String) (store : SessionStore)
    (env : Environment) (other : String) :
    (destroyAll event ids store env).1.find? other =
      if other ∈ ids then none else store.find? other := by
  induction ids generalizing store env with
  | nil => simp [destroyAll]
  | cons id rest ih =>
      simp only [destroyAll, ih, find?_destroy, List.mem_cons]
      by_cases later : other ∈ rest <;> by_cases same : other = id <;> simp [later, same]

/-- The identifiers of the sessions that satisfy a test. -/
theorem mem_idsWhere {store : SessionStore} {test : Session → Bool} {id : String} :
    id ∈ store.idsWhere test ↔ ∃ session, store.find? id = some session ∧ test session = true := by
  unfold idsWhere Table.keys
  rw [List.mem_map]
  constructor
  · rintro ⟨⟨other, session⟩, member, rfl⟩
    have found := Table.find?_eq_some_iff.mpr member
    rw [Table.find?_filter] at found
    exact ⟨session, (Option.filter_eq_some_iff.mp found)⟩
  · rintro ⟨session, found, passes⟩
    refine ⟨(id, session), Table.find?_eq_some_iff.mp ?_, rfl⟩
    rw [Table.find?_filter, found, Option.filter_some, if_pos passes]

/-- Every session of one store stands in another one, but for the mark of a sweep. -/
def Survive (before after : SessionStore) : Prop :=
  ∀ id session, after.find? id = some session →
    ∃ earlier, before.find? id = some earlier ∧ session = { earlier with marked := session.marked }

namespace Survive

theorem refl (store : SessionStore) : Survive store store :=
  fun _ session found => ⟨session, found, rfl⟩

theorem trans {first second third : SessionStore} (early : Survive first second)
    (late : Survive second third) : Survive first third := by
  intro id session found
  obtain ⟨middle, foundMiddle, sameMiddle⟩ := late id session found
  obtain ⟨earlier, foundEarlier, sameEarlier⟩ := early id middle foundMiddle
  refine ⟨earlier, foundEarlier, ?_⟩
  rw [sameMiddle, sameEarlier]

theorem destroyAll (event : String → Log.Event) (ids : List String) (store : SessionStore)
    (env : Environment) : Survive store (destroyAll event ids store env).1 := by
  intro other session found
  rw [find?_destroyAll] at found
  split at found
  · cases found
  · exact ⟨session, found, rfl⟩

/-- A sweep destroys sessions and marks others, and does nothing else to them. -/
theorem sweep (store : SessionStore) (env : Environment) :
    Survive store (store.sweep env).2.1 := by
  refine trans ?_ (destroyAll .sessionStale _ _ env)
  intro id session found
  rw [Table.find?_mapValues, Option.map_eq_some_iff] at found
  obtain ⟨earlier, foundEarlier, rfl⟩ := found
  exact ⟨earlier, foundEarlier, rfl⟩

end Survive

end SessionStore

/-! ## The engine -/

namespace Engine

variable {D C : Type}

/-- Two engines differ in nothing that a negotiation reads but their sessions. -/
structure Alike (first second : Engine D C) : Prop where
  accounts : second.accounts = first.accounts
  credentials : second.credentials = first.credentials
  registry : second.registry = first.registry
  entropy : second.env.entropy = first.env.entropy

namespace Alike

theorem refl (engine : Engine D C) : engine.Alike engine := ⟨rfl, rfl, rfl, rfl⟩

theorem trans {first second third : Engine D C} (early : first.Alike second)
    (late : second.Alike third) : first.Alike third :=
  ⟨late.accounts.trans early.accounts, late.credentials.trans early.credentials,
    late.registry.trans early.registry, late.entropy.trans early.entropy⟩

end Alike

theorem alike_note (engine : Engine D C) (event : Log.Event) :
    engine.Alike (engine.note event) := ⟨rfl, rfl, rfl, rfl⟩

@[simp] theorem sessions_note (engine : Engine D C) (event : Log.Event) :
    (engine.note event).sessions = engine.sessions := rfl

theorem alike_noteAll (engine : Engine D C) (events : List Log.Event) :
    engine.Alike (engine.noteAll events) := by
  induction events generalizing engine with
  | nil => exact .refl engine
  | cons event rest ih => exact (engine.alike_note event).trans (ih (engine.note event))

@[simp] theorem sessions_noteAll (engine : Engine D C) (events : List Log.Event) :
    (engine.noteAll events).sessions = engine.sessions := by
  induction events generalizing engine with
  | nil => rfl
  | cons event rest ih => exact ih (engine.note event)

theorem alike_putSession (engine : Engine D C) (session : Session) :
    engine.Alike (engine.putSession session) := ⟨rfl, rfl, rfl, rfl⟩

@[simp] theorem find?_putSession (engine : Engine D C) (session : Session) (other : String) :
    (engine.putSession session).sessions.find? other =
      if other = session.info.uid then some session else engine.sessions.find? other :=
  Table.find?_insert ..

theorem alike_destroySession (engine : Engine D C) (id : String) :
    engine.Alike (engine.destroySession id) :=
  ⟨rfl, rfl, rfl, SessionStore.entropy_destroy ..⟩

@[simp] theorem find?_destroySession (engine : Engine D C) (id other : String) :
    (engine.destroySession id).sessions.find? other =
      if other = id then none else engine.sessions.find? other :=
  SessionStore.find?_destroy ..

theorem alike_resetSession (engine : Engine D C) (session : Session) :
    engine.Alike (engine.resetSession session) :=
  ⟨rfl, rfl, rfl, session.entropy_finishMechanism engine.env⟩

@[simp] theorem find?_resetSession (engine : Engine D C) (session : Session) (other : String) :
    (engine.resetSession session).sessions.find? other =
      if other = session.info.uid then some session.reset else engine.sessions.find? other :=
  Table.find?_insert ..

theorem alike_resetOrDestroy (engine : Engine D C) (session : Session) :
    engine.Alike (engine.resetOrDestroy session) := by
  unfold resetOrDestroy
  split
  · exact engine.alike_resetSession session
  · exact engine.alike_destroySession session.info.uid

@[simp] theorem find?_resetOrDestroy (engine : Engine D C) (session : Session) (other : String) :
    (engine.resetOrDestroy session).sessions.find? other =
      if other = session.info.uid then session.afterFailure else engine.sessions.find? other := by
  unfold resetOrDestroy Session.afterFailure
  cases session.pending with
  | none => simp
  | some pending => simp

end Engine

end IrcSasl
