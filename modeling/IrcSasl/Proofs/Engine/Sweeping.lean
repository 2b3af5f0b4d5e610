import IrcSasl.Proofs.Engine.Binding

set_option autoImplicit false

/-!
# Sweeps

The mark of a session says that a sweep has come since its last frame (`Engine.Dated`), through all
that happens to the session and to others of the same identifier before it. So a sweep destroys the
sessions that have been idle since the one before, and nothing else (`Engine.sweep_iff_idle`).
-/

namespace IrcSasl

/-- The session after a sweep that leaves it. -/
def Session.stamped (session : Session) : Session := { session with marked := true }

namespace SessionStore

theorem nodup_idsWhere (store : SessionStore) (test : Session → Bool) :
    (store.idsWhere test).Nodup :=
  (store.filter fun _ session => test session).distinct

end SessionStore

variable {D C : Type}

namespace Engine

/-! ## One sweep -/

/-- A sweep of an engine destroys certain sessions, of which it tells the number, and marks all
others and changes nothing else in them. -/
structure Sweeps (engine : Engine D C) (gone : List String) : Prop where
  distinct : gone.Nodup
  count : engine.sweep.1 = gone.length
  sessions : ∀ id, engine.sweep.2.sessions.find? id =
    if id ∈ gone then none else (engine.sessions.find? id).map Session.stamped

theorem sweeps_marked (engine : Engine D C) :
    engine.Sweeps (engine.sessions.idsWhere Session.marked) := by
  refine ⟨SessionStore.nodup_idsWhere _ _, rfl, ?_⟩
  intro id
  refine (SessionStore.find?_destroyAll ..).trans ?_
  rw [Table.find?_mapValues]
  rfl

namespace Sweeps

variable {engine : Engine D C} {gone : List String}

/-- A session that a sweep leaves is marked. -/
theorem marked (sweeps : engine.Sweeps gone) {id : String} {session : Session}
    (found : engine.sweep.2.sessions.find? id = some session) : session.marked = true := by
  rw [sweeps.sessions] at found
  split at found
  · cases found
  · obtain ⟨earlier, -, rfl⟩ := Option.map_eq_some_iff.mp found
    rfl

/-- What a sweep destroys is told by what is left. -/
theorem of_mem_iff {others : List String} (sweeps : engine.Sweeps gone) (distinct : others.Nodup)
    (same : ∀ id, id ∈ others ↔ id ∈ gone) : engine.Sweeps others := by
  refine ⟨distinct, ?_, ?_⟩
  · have alike : gone.Perm others :=
      (List.perm_ext_iff_of_nodup sweeps.distinct distinct).mpr fun id => (same id).symm
    rw [sweeps.count, alike.length_eq]
  · intro id
    rw [sweeps.sessions]
    simp only [same]

end Sweeps

/-! ## What has happened to a session -/

/-- Whether an event is neither a sweep nor a frame for a session. -/
def Event.isQuiet (id : String) : Event D → Bool
  | .swept => false
  | .frame _ inbound => inbound.session ≠ id
  | _ => true

/-- Since the last sweep there was no frame for a session. -/
def IdleSince (id : String) (events : List (Event D)) : Prop :=
  ∃ early late, events = early ++ .swept :: late ∧ late.all (Event.isQuiet id)

namespace IdleSince

variable {id : String} {events : List (Event D)}

theorem swept : IdleSince id (events ++ [.swept]) := ⟨events, [], rfl, rfl⟩

/-- The last event leaves idle what was idle, unless it is a frame, and makes idle what was not only
if it is a sweep. -/
theorem append_singleton {event : Event D} (other : event ≠ .swept) :
    IdleSince id (events ++ [event]) ↔ IdleSince id events ∧ event.isQuiet id := by
  constructor
  · rintro ⟨early, late, split, quiet⟩
    rcases List.eq_nil_or_concat late with rfl | ⟨late, last, rfl⟩
    · exact absurd (List.append_inj' split rfl).2 (by simpa using other)
    · rw [List.concat_eq_append] at split quiet
      rw [← List.cons_append, ← List.append_assoc] at split
      obtain ⟨same, last⟩ := List.append_inj' split rfl
      cases last
      rw [List.all_append, Bool.and_eq_true] at quiet
      exact ⟨⟨early, late, same, quiet.1⟩, by simpa using quiet.2⟩
  · rintro ⟨⟨early, late, rfl, quiet⟩, still⟩
    exact ⟨early, late ++ [event], by simp, by simp [quiet, still]⟩

theorem not_of_frame {server : String} {frame : Inbound} (own : frame.session = id) :
    ¬IdleSince id (events ++ [.frame server frame]) := by
  rw [append_singleton (by simp)]
  rintro ⟨-, quiet⟩
  simp [Event.isQuiet, own] at quiet

/-- Nothing is idle before the first sweep. -/
theorem not_of_not_mem (none : Event.swept ∉ events) : ¬IdleSince id events := by
  rintro ⟨early, late, rfl, -⟩
  exact none (List.mem_append_right _ List.mem_cons_self)

/-- Quiet events leave idle what was idle, and nothing else. -/
theorem append_quiet {quiet : List (Event D)} (still : quiet.all (Event.isQuiet id)) :
    IdleSince id (events ++ quiet) ↔ IdleSince id events := by
  induction quiet generalizing events with
  | nil => rw [List.append_nil]
  | cons event rest ih =>
      rw [List.all_cons, Bool.and_eq_true] at still
      have other : event ≠ .swept := by
        rintro rfl
        cases still.1
      rw [List.append_cons, ih still.2, append_singleton other]
      exact and_iff_left still.1

end IdleSince

/-! ## Events -/

/-- Sessions were destroyed at most, and none was changed. -/
def Spares (before after : Engine D C) : Prop :=
  ∀ id session, after.sessions.find? id = some session → before.sessions.find? id = some session

theorem Spares.of_filter {before after : Engine D C} {test : Session → Bool}
    (sessions : ∀ id, after.sessions.find? id = (before.sessions.find? id).filter test) :
    Spares before after := by
  intro id session found
  rw [sessions] at found
  exact (Option.filter_eq_some_iff.mp found).1

variable [AccountDirectory D] [CredentialStore C]

/-- Only frames and sweeps change sessions. -/
theorem spares_perform {engine : Engine D C} (bound : engine.Bound) {event : Event D}
    (unswept : event ≠ .swept) (unframed : ∀ server inbound, event ≠ .frame server inbound) :
    Spares engine (engine.perform event) := by
  cases event with
  | frame server inbound => exact absurd rfl (unframed server inbound)
  | swept => exact absurd rfl unswept
  | introduced uid =>
      intro id session found
      have found : (engine.userIntroduced uid).2.sessions.find? id = some session := found
      rw [find?_userIntroduced bound.keyed] at found
      split at found
      · cases found
      · exact found
  | registered mechanism =>
      change Spares engine (engine.register mechanism).2
      rw [snd_register]
      exact fun _ _ found => found
  | unregistered name =>
      change Spares engine (engine.unregister name).2
      rw [snd_unregister]
      exact .of_filter (bound.remove name).sessions
  | configured options =>
      obtain ⟨names, reconfigures⟩ := Reconfigures.of_bound bound options
      exact .of_filter reconfigures.sessions
  | burst => exact fun _ _ found => found
  | directory change => exact fun _ _ found => found
  | drawn length => exact fun _ _ found => found

/-- A frame leaves its own session unmarked and the others as they are. -/
theorem marked_handle {engine : Engine D C} (keyed : engine.Keyed) (server : String)
    (frame : Inbound) {id : String} {session : Session}
    (found : (engine.handle server frame).2.sessions.find? id = some session) :
    frame.session = id ∧ session.marked = false ∨
      frame.session ≠ id ∧ engine.sessions.find? id = some session := by
  rcases engine.handle_cases server frame keyed with
    ⟨unknown, -, -, sessions⟩ | ⟨entered, middle, enters, gives⟩
  · rw [sessions] at found
    refine .inr ⟨?_, found⟩
    rintro rfl
    rw [unknown] at found
    cases found
  · rw [gives.sessions] at found
    split at found
    · next own =>
        have left : session.marked = entered.marked := (continues_reply found).marked
        exact .inl ⟨own.symm, left.trans enters.same.2.2⟩
    · next other => exact .inr ⟨Ne.symm other, found⟩

/-- The mark of every session says whether it has been idle since the last sweep of a run. -/
def Dated (past : List (Event D)) (engine : Engine D C) : Prop :=
  ∀ id session, engine.sessions.find? id = some session →
    (session.marked = true ↔ IdleSince id past)

namespace Dated

variable {engine : Engine D C} {past : List (Event D)}

theorem perform (dated : Dated past engine) (bound : engine.Bound) (event : Event D) :
    Dated (past ++ [event]) (engine.perform event) := by
  intro id session found
  by_cases framed : ∃ server inbound, event = .frame server inbound
  · obtain ⟨server, inbound, rfl⟩ := framed
    rcases marked_handle bound.keyed server inbound found with ⟨own, unmarked⟩ | ⟨other, before⟩
    · rw [unmarked]
      exact iff_of_false Bool.false_ne_true (IdleSince.not_of_frame own)
    · rw [dated id session before, IdleSince.append_singleton (by simp)]
      exact (and_iff_left (decide_eq_true other)).symm
  · by_cases swept : event = .swept
    · subst swept
      exact iff_of_true (engine.sweeps_marked.marked found) IdleSince.swept
    · have unframed : ∀ server inbound, event ≠ .frame server inbound :=
        fun server inbound same => framed ⟨server, inbound, same⟩
      have before := spares_perform bound swept unframed id session found
      have quiet : event.isQuiet id = true := by
        cases event with
        | frame server inbound => exact absurd rfl (unframed server inbound)
        | swept => exact absurd rfl swept
        | _ => rfl
      rw [dated id session before, IdleSince.append_singleton swept]
      exact (and_iff_left quiet).symm

theorem performAll (dated : Dated past engine) (reachable : engine.Reachable)
    (events : List (Event D)) : Dated (past ++ events) (engine.performAll events) := by
  induction events generalizing engine past with
  | nil =>
      rw [List.append_nil]
      exact dated
  | cons event rest ih =>
      have later := ih (dated.perform (.of_reachable reachable) event) (reachable.perform event)
      rwa [List.append_assoc] at later

omit [AccountDirectory D] [CredentialStore C] in
/-- In a new engine there are no sessions. -/
theorem create {options : Options} {accounts : D} {credentials : C} {entropy : Entropy}
    (created : Engine.create options accounts credentials entropy = .ok engine) :
    Dated [] engine := by
  intro id session found
  unfold Engine.create at created
  split at created
  · cases created
    cases found
  · cases created

omit [AccountDirectory D] [CredentialStore C] in
theorem sweeps (dated : Dated past engine) : ∃ gone, engine.Sweeps gone ∧
    ∀ id, id ∈ gone ↔ (engine.sessions.find? id).isSome ∧ IdleSince id past := by
  refine ⟨_, engine.sweeps_marked, ?_⟩
  intro id
  rw [SessionStore.mem_idsWhere]
  constructor
  · rintro ⟨session, found, marked⟩
    exact ⟨Option.isSome_of_eq_some found, (dated id session found).mp marked⟩
  · rintro ⟨present, idle⟩
    obtain ⟨session, found⟩ := Option.isSome_iff_exists.mp present
    exact ⟨session, found, (dated id session found).mpr idle⟩

omit [AccountDirectory D] [CredentialStore C] in
theorem find?_sweep (dated : Dated past engine) (id : String) :
    (IdleSince id past → engine.sweep.2.sessions.find? id = none) ∧
    (¬IdleSince id past →
      engine.sweep.2.sessions.find? id = (engine.sessions.find? id).map Session.stamped) := by
  obtain ⟨gone, sweeps, exactly⟩ := dated.sweeps
  refine ⟨?_, ?_⟩
  · intro idle
    rw [sweeps.sessions]
    split
    · rfl
    · next kept =>
        cases found : engine.sessions.find? id with
        | none => rfl
        | some session =>
            exact absurd ((exactly id).mpr ⟨Option.isSome_of_eq_some found, idle⟩) kept
  · intro busy
    rw [sweeps.sessions, if_neg fun member => busy ((exactly id).mp member).2]

end Dated

/-! ## Runs -/

/-- After every run a sweep destroys the sessions for which there was no frame since the last sweep,
tells how many these were, and marks the others; the first sweep destroys none. So a session for
which there is a frame between any two sweeps is never destroyed by one, and after the last frame
for a session the first sweep leaves it and the second destroys it, whatever it waits for. -/
theorem sweep_iff_idle {options : Options} {accounts : D} {credentials : C} {entropy : Entropy}
    {engine : Engine D C}
    (created : Engine.create options accounts credentials entropy = .ok engine)
    (events : List (Event D)) :
    (∃ gone, (engine.performAll events).Sweeps gone ∧ ∀ id, id ∈ gone ↔
      ((engine.performAll events).sessions.find? id).isSome ∧ IdleSince id events) ∧
    (Event.swept ∉ events → (engine.performAll events).Sweeps []) ∧
    (∀ id,
      (∀ early middle late, events = early ++ .swept :: (middle ++ .swept :: late) →
        .swept ∉ middle → ∃ server frame, .frame server frame ∈ middle ∧ frame.session = id) →
      ∀ early late, events = early ++ .swept :: late →
        (engine.performAll early).sweep.2.sessions.find? id =
          ((engine.performAll early).sessions.find? id).map Session.stamped) ∧
    ∀ server frame first second, first.all (Event.isQuiet frame.session) →
      second.all (Event.isQuiet frame.session) →
      let touched := engine.performAll (events ++ .frame server frame :: first)
      touched.sweep.2.sessions.find? frame.session =
        (touched.sessions.find? frame.session).map Session.stamped ∧
      (touched.performAll (.swept :: second)).sweep.2.sessions.find? frame.session = none := by
  have dated (events : List (Event D)) : Dated events (engine.performAll events) :=
    (Dated.create created).performAll (.create created) events
  refine ⟨(dated events).sweeps, ?_, ?_, ?_⟩
  · intro first
    obtain ⟨gone, sweeps, exactly⟩ := (dated events).sweeps
    refine sweeps.of_mem_iff List.nodup_nil fun id => ?_
    rw [exactly]
    exact iff_of_false List.not_mem_nil fun idle => IdleSince.not_of_not_mem first idle.2
  · rintro id busy early late rfl
    refine ((dated early).find?_sweep id).2 ?_
    rintro ⟨before, middle, rfl, quiet⟩
    have between := busy before middle late (by simp)
    have unswept : Event.swept ∉ middle := by
      intro member
      cases List.all_eq_true.mp quiet _ member
    obtain ⟨server, frame, member, own⟩ := between unswept
    have still := List.all_eq_true.mp quiet _ member
    simp [Event.isQuiet, own] at still
  · intro server frame first second early late touched
    have busy : ¬IdleSince frame.session (events ++ .frame server frame :: first) := by
      rw [List.append_cons, IdleSince.append_quiet early]
      exact IdleSince.not_of_frame rfl
    refine ⟨((dated _).find?_sweep _).2 busy, ?_⟩
    have again : touched.performAll (.swept :: second) =
        engine.performAll (events ++ .frame server frame :: first ++ .swept :: second) :=
      List.foldl_append.symm
    rw [again]
    refine ((dated _).find?_sweep _).1 ?_
    rw [List.append_cons, IdleSince.append_quiet late]
    exact IdleSince.swept

end Engine

/-! ## A login that waits too long -/

/-- The events until a client that is not on the network has asked for PLAIN. -/
def sweptOpening : List (Engine.Event MemoryDirectory) :=
  [.registered .plain, .frame "hub" (.startAuth "U1" "PLAIN" none)]

/-- Another client is heard of. -/
def sweptOther : List (Engine.Event MemoryDirectory) :=
  [.frame "hub" (.hostInfo "U2" "host" "192.0.2.1" true)]

set_option maxRecDepth 100000 in
/-- The client has logged in, so that a login waits in its session, and is not heard of any more.
The first sweep, which destroys nothing, leaves the session and the second one destroys it. -/
theorem sweep_iff_idle_waiting :
    let touched := waitingEngine.performAll (sweptOpening ++ [.frame "hub" waitingFrame])
    let again := touched.performAll (.swept :: sweptOther)
    ((touched.sessions.find? "U1").bind Session.pending).isSome ∧
    touched.Sweeps [] ∧
    touched.sweep.2.sessions.find? "U1" =
      (touched.sessions.find? "U1").map Session.stamped ∧
    (again.sessions.find? "U1").isSome ∧ again.sweep.2.sessions.find? "U1" = none ∧
    again.sweep.2.sessions.find? "U2" = (again.sessions.find? "U2").map Session.stamped := by
  intro touched again
  have created : Engine.create {} waitingAccounts ⟨{}⟩ (.arithmetic 0 []) = .ok waitingEngine := rfl
  obtain ⟨-, -, -, after⟩ := Engine.sweep_iff_idle created sweptOpening
  obtain ⟨-, none, -⟩ :=
    Engine.sweep_iff_idle created (sweptOpening ++ [.frame "hub" waitingFrame])
  obtain ⟨⟨gone, sweeps, exactly⟩, -⟩ := Engine.sweep_iff_idle created
    (sweptOpening ++ [.frame "hub" waitingFrame] ++ [.swept] ++ sweptOther)
  have waits : ((touched.sessions.find? "U1").bind Session.pending).isSome := by decide +kernel
  have stays : (again.sessions.find? "U1").isSome := by decide +kernel
  obtain ⟨first, second⟩ := after "hub" waitingFrame [] sweptOther rfl rfl
  refine ⟨waits, none ?_, first, stays, second, ?_⟩
  · simp [sweptOpening]
  · refine (sweeps.sessions "U2").trans (if_neg fun member => ?_)
    exact Engine.IdleSince.not_of_frame rfl ((exactly "U2").mp member).2

end IrcSasl
