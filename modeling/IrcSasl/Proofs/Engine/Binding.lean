import IrcSasl.Proofs.Engine.Configuration
import IrcSasl.Proofs.Engine.Consistency
import IrcSasl.Proofs.Engine.Deferred

set_option autoImplicit false

/-!
# Sessions and the mechanisms they use

A session that uses a mechanism uses the registration that is there under its name now, and not an
earlier one of that name (`Engine.Attached`). Frames keep this as they take mechanisms from the
registry only (`Session.Continues`), and a registration that is removed takes the sessions with it
that use it, and no others.
-/

namespace IrcSasl

/-! ## The registry -/

namespace Registry

/-- The registrations stand in the order in which they were made, under distinct names that are not
too long. -/
structure Orderly (registry : Registry) : Prop where
  distinct : registry.Distinct
  short : ∀ name ∈ registry.names, name.utf8ByteSize ≤ Limits.mechanismNameLength
  ordered : registry.entries.Pairwise fun first second => first.serial < second.serial
  issued : ∀ entry ∈ registry.entries, entry.serial < registry.nextSerial

/-- Of the registrations with distinct names each is the one of its name. -/
theorem find?_of_mem {registry : Registry} (distinct : registry.Distinct) {entry : Registration}
    (member : entry ∈ registry.entries) : registry.find? entry.name = some entry := by
  unfold Distinct names at distinct
  unfold find?
  generalize registry.entries = entries at distinct member
  induction entries with
  | nil => cases member
  | cons first rest ih =>
      rw [List.map_cons, List.nodup_cons] at distinct
      rcases List.mem_cons.mp member with rfl | member
      · simp
      · have different : first.name ≠ entry.name := by
          intro same
          exact distinct.1 (List.mem_map.mpr ⟨entry, member, same.symm⟩)
        rw [List.find?_cons_of_neg (by simpa using different)]
        exact ih distinct.2 member

/-- A name that is neither too long nor taken goes to the end, with a serial number of its own. -/
theorem register_of_free {registry : Registry} {mechanism : Mechanism}
    (short : mechanism.name.utf8ByteSize ≤ Limits.mechanismNameLength)
    (free : registry.find? mechanism.name = none) (env : Environment) :
    registry.register mechanism env =
      (true, registry.push mechanism, env.note (.mechanismRegistered mechanism.name)) := by
  unfold register
  simp only [if_neg (Nat.not_lt.mpr short), free, Option.isSome_none, Bool.false_eq_true, if_false]

/-- A name that is too long or taken changes nothing, and is noted. -/
theorem register_of_unfit {registry : Registry} {mechanism : Mechanism}
    (unfit : Limits.mechanismNameLength < mechanism.name.utf8ByteSize ∨
      (registry.find? mechanism.name).isSome) (env : Environment) :
    ∃ event, registry.register mechanism env = (false, registry, env.note event) := by
  unfold register
  by_cases long : Limits.mechanismNameLength < mechanism.name.utf8ByteSize
  · simp only [if_pos long]
    exact ⟨_, rfl⟩
  · simp only [if_neg long, if_pos (unfit.resolve_left long)]
    exact ⟨_, rfl⟩

theorem names_register (registry : Registry) (mechanism : Mechanism) (env : Environment) :
    (registry.register mechanism env).2.1.names = registry.names ∨
      (registry.register mechanism env).2.1.names = registry.names ++ [mechanism.name] := by
  rcases registry.register_cases mechanism env with same | ⟨-, added⟩
  · exact .inl (congrArg names same)
  · rw [added]
    exact .inr (registry.names_push mechanism)

namespace Orderly

variable {registry : Registry}

theorem keep (orderly : registry.Orderly) (test : Registration → Bool) :
    (registry.keep test).Orderly := by
  refine ⟨orderly.distinct.keep test, ?_, orderly.ordered.filter test, ?_⟩
  · intro name member
    obtain ⟨entry, kept, own⟩ := List.mem_map.mp member
    exact orderly.short name (List.mem_map.mpr ⟨entry, (List.mem_filter.mp kept).1, own⟩)
  · exact fun entry kept => orderly.issued entry (List.mem_filter.mp kept).1

theorem register (orderly : registry.Orderly) (mechanism : Mechanism) (env : Environment) :
    (registry.register mechanism env).2.1.Orderly := by
  have distinct := orderly.distinct.register mechanism env
  by_cases unfit : Limits.mechanismNameLength < mechanism.name.utf8ByteSize ∨
      (registry.find? mechanism.name).isSome
  · obtain ⟨event, same⟩ := register_of_unfit unfit env
    rw [same]
    exact orderly
  · obtain ⟨short, free⟩ := not_or.mp unfit
    have short := Nat.not_lt.mp short
    rw [register_of_free short (by simpa using free)] at distinct ⊢
    refine ⟨distinct, ?_, ?_, ?_⟩
    · intro name member
      obtain ⟨entry, inside, own⟩ := List.mem_map.mp member
      rcases List.mem_append.mp inside with old | new
      · exact orderly.short name (List.mem_map.mpr ⟨entry, old, own⟩)
      · rw [List.mem_singleton.mp new] at own
        rw [← own]
        exact short
    · rw [Registry.entries_push, List.pairwise_append]
      refine ⟨orderly.ordered, List.pairwise_singleton _ _, ?_⟩
      intro entry old other new
      rw [List.mem_singleton.mp new]
      exact orderly.issued entry old
    · intro entry inside
      rcases List.mem_append.mp inside with old | new
      · exact Nat.lt_succ_of_lt (orderly.issued entry old)
      · rw [List.mem_singleton.mp new]
        exact Nat.lt_succ_self _

end Orderly

end Registry

/-! ## One session -/

/-- What a frame leaves of a session is marked as the frame has found it, and uses a mechanism that
was in use there or one that is registered. -/
structure Session.Continues (registry : Registry) (before after : Session) : Prop where
  marked : after.marked = before.marked
  mechanism : ∀ registration, after.mechanism = some registration →
    before.mechanism = some registration ∨ registration ∈ registry.entries

namespace Session.Continues

variable {registry : Registry}

theorem refl (session : Session) : Continues registry session session :=
  ⟨rfl, fun _ used => .inl used⟩

theorem trans {first second third : Session} (early : Continues registry first second)
    (late : Continues registry second third) : Continues registry first third := by
  refine ⟨late.marked.trans early.marked, ?_⟩
  intro registration used
  rcases late.mechanism registration used with earlier | registered
  · exact early.mechanism registration earlier
  · exact .inr registered

/-- A session that uses no mechanism any more. -/
theorem of_idle {before after : Session} (marked : after.marked = before.marked)
    (idle : after.mechanism = none) : Continues registry before after := by
  refine ⟨marked, ?_⟩
  rw [idle]
  exact fun _ absurd => by cases absurd

/-- What a frame changes of a session but its mechanism and its mark. -/
theorem of_same {before after : Session} (marked : after.marked = before.marked)
    (mechanism : after.mechanism = before.mechanism) : Continues registry before after := by
  refine ⟨marked, ?_⟩
  rw [mechanism]
  exact fun _ used => .inl used

theorem afterFailure {session after : Session} (left : session.afterFailure = some after) :
    Continues registry session after := by
  unfold Session.afterFailure at left
  split at left
  · cases left
    exact .of_idle rfl rfl
  · cases left

theorem presenting (session : Session) (certfp : Option String) :
    Continues registry session (session.presenting certfp) := by
  refine .of_same ?_ (session.mechanism_presenting certfp)
  cases certfp <;> rfl

/-- A registered mechanism is selected. -/
theorem select (session : Session) {registration : Registration}
    (registered : registration ∈ registry.entries) :
    Continues registry session { session with mechanism := some registration } := by
  refine ⟨rfl, ?_⟩
  rintro _ ⟨⟩
  exact .inr registered

end Session.Continues

variable {D C : Type}

namespace Engine

/-! ## Every session -/

/-- The registry is in order, and sessions use only what is registered now. -/
structure Attached (engine : Engine D C) : Prop where
  orderly : engine.registry.Orderly
  registered : ∀ id session registration, engine.sessions.find? id = some session →
    session.mechanism = some registration → registration ∈ engine.registry.entries

namespace Attached

variable {engine after : Engine D C}

/-- Where the registry stays as it is, sessions may be destroyed or marked. -/
theorem survive (attached : engine.Attached) (registry : after.registry = engine.registry)
    (survive : SessionStore.Survive engine.sessions after.sessions) : after.Attached := by
  refine ⟨?_, ?_⟩
  · rw [registry]
    exact attached.orderly
  · intro id session registration found selected
    obtain ⟨earlier, foundEarlier, same⟩ := survive id session found
    rw [same] at selected
    rw [registry]
    exact attached.registered id earlier registration foundEarlier selected

theorem add (attached : engine.Attached) (mechanism : Mechanism) :
    (engine.add mechanism).2.Attached := by
  refine ⟨attached.orderly.register mechanism engine.env, ?_⟩
  intro id session registration found selected
  have member := attached.registered id session registration found selected
  change registration ∈ (engine.registry.register mechanism engine.env).2.1.entries
  rcases engine.registry.register_cases mechanism engine.env with same | ⟨-, added⟩
  · rw [same]
    exact member
  · rw [added]
    exact List.mem_append_left _ member

/-- A registration that is removed takes the sessions with it that use it. -/
theorem removes (attached : engine.Attached) {names : List String}
    (removes : Removes names engine after) : after.Attached := by
  refine ⟨?_, ?_⟩
  · rw [removes.registry]
    exact attached.orderly.keep _
  · intro id session registration found selected
    rw [removes.sessions, Option.filter_eq_some_iff] at found
    obtain ⟨found, spared⟩ := found
    rw [removes.registry, Registry.entries_keep, List.mem_filter]
    refine ⟨attached.registered id session registration found selected, ?_⟩
    rw [Session.avoids, Session.mechanismName, selected] at spared
    simpa using spared

theorem ensureScram (attached : engine.Attached) (options : HashOptions) :
    (engine.ensureScram options).2.Attached := by
  rcases engine.ensureScram_cases options with ⟨entry, -, kept⟩ | ⟨-, ⟨env, failed⟩ |
    ⟨server, env, -, -, -, added⟩⟩
  · rw [kept]
    exact attached
  · rw [failed]
    exact ⟨attached.orderly, attached.registered⟩
  · rw [added]
    have drawn : ({ engine with env } : Engine D C).Attached :=
      ⟨attached.orderly, attached.registered⟩
    exact drawn.add (.scram server)

theorem configureScram (attached : engine.Attached) (bound : engine.Bound)
    (options : HashOptions) : (engine.configureScram options).2.Attached := by
  refine (@configureScram_invariant D C options (fun middle => middle.Bound ∧ middle.Attached)
    ?_ ?_ ?_ engine ⟨bound, attached⟩).2
  · exact fun middle early =>
      ⟨early.1.of_same rfl rfl, early.2.orderly, early.2.registered⟩
  · intro middle digest _ early
    have removed := early.1.remove digest.scramName
    exact ⟨early.1.removes removed, early.2.removes removed⟩
  · exact fun middle early => ⟨early.1.ensureScram options, early.2.ensureScram options⟩

end Attached

/-! ## What configuring SCRAM removes -/

/-- SCRAM was configured, as far as sessions can tell: mechanisms of other digests were removed,
with the sessions that used them, and whatever else was registered still is. -/
structure Reconfigures (options : HashOptions) (names : List String) (before after : Engine D C) :
    Prop where
  others : ∀ name ∈ names, ∃ digest, digest ≠ options.digest ∧ name = digest.scramName
  sessions : ∀ id, after.sessions.find? id =
    (before.sessions.find? id).filter (Session.avoids names)
  removed : ∀ name ∈ names, name ∉ after.registry.names
  spared : ∀ name ∈ before.registry.names, name ∉ names → name ∈ after.registry.names

namespace Reconfigures

variable {options : HashOptions} {names : List String} {before middle after : Engine D C}

theorem refl (options : HashOptions) (engine : Engine D C) :
    Reconfigures options [] engine engine := by
  refine ⟨?_, ?_, ?_, fun _ member _ => member⟩
  · exact fun _ absurd => by cases absurd
  · intro id
    cases engine.sessions.find? id with
    | none => rfl
    | some session => rw [Option.filter_some, if_pos session.avoids_nil]
  · exact fun _ absurd => by cases absurd

/-- Only the log and the random source have changed since. -/
theorem of_same (reconfigures : Reconfigures options names before middle)
    (sessions : after.sessions = middle.sessions) (registry : after.registry = middle.registry) :
    Reconfigures options names before after := by
  refine ⟨reconfigures.others, ?_, ?_, ?_⟩
  · rw [sessions]
    exact reconfigures.sessions
  · rw [registry]
    exact reconfigures.removed
  · rw [registry]
    exact reconfigures.spared

theorem remove (reconfigures : Reconfigures options names before middle) (bound : middle.Bound)
    {digest : Digest} (other : digest ≠ options.digest) :
    Reconfigures options (names ++ [digest.scramName]) before
      (middle.remove digest.scramName).2 := by
  have removes := bound.remove digest.scramName
  have left := removes.names_eq
  refine ⟨?_, ?_, ?_, ?_⟩
  · intro name member
    rcases List.mem_append.mp member with early | late
    · exact reconfigures.others name early
    · exact ⟨digest, other, List.mem_singleton.mp late⟩
  · intro id
    have both : Session.avoids (names ++ [digest.scramName]) =
        fun session => session.avoids names && session.avoids [digest.scramName] :=
      funext fun session => session.avoids_append names [digest.scramName]
    rw [removes.sessions, reconfigures.sessions, Option.filter_filter, both]
  · intro name member registered
    rw [left, List.mem_filter] at registered
    rcases List.mem_append.mp member with early | late
    · exact reconfigures.removed name early registered.1
    · exact of_decide_eq_true registered.2 late
  · intro name registered kept
    rw [List.mem_append, not_or] at kept
    rw [left, List.mem_filter]
    exact ⟨reconfigures.spared name registered kept.1, decide_eq_true kept.2⟩

theorem ensureScram (reconfigures : Reconfigures options names before middle) :
    Reconfigures options names before (middle.ensureScram options).2 := by
  rcases middle.ensureScram_cases options with ⟨entry, -, kept⟩ | ⟨-, ⟨env, failed⟩ |
    ⟨server, env, digest, -, -, added⟩⟩
  · rw [kept]
    exact reconfigures
  · rw [failed]
    exact reconfigures.of_same rfl rfl
  · rw [added]
    have own : (Mechanism.scram server).name = options.digest.scramName :=
      congrArg Digest.scramName digest
    have grown := middle.registry.names_register (.scram server) env
    rw [own] at grown
    refine ⟨reconfigures.others, reconfigures.sessions, ?_, ?_⟩
    · intro name member registered
      have absent := reconfigures.removed name member
      change name ∈ (middle.registry.register (.scram server) env).2.1.names at registered
      rcases grown with same | grown
      · rw [same] at registered
        exact absent registered
      · rw [grown] at registered
        rcases List.mem_append.mp registered with old | new
        · exact absent old
        · obtain ⟨digest, other, same⟩ := reconfigures.others name member
          rw [List.mem_singleton.mp new, Digest.scramName_inj] at same
          exact other same.symm
    · intro name registered kept
      have present := reconfigures.spared name registered kept
      change name ∈ (middle.registry.register (.scram server) env).2.1.names
      rcases grown with same | grown
      · rw [same]
        exact present
      · rw [grown]
        exact List.mem_append_left _ present

theorem of_bound (bound : before.Bound) (options : HashOptions) :
    ∃ names, Reconfigures options names before (before.configureScram options).2 := by
  refine (@configureScram_invariant D C options
    (fun middle => middle.Bound ∧ ∃ names, Reconfigures options names before middle)
    ?_ ?_ ?_ before ⟨bound, [], .refl options before⟩).2
  · rintro middle ⟨bound, names, early⟩
    exact ⟨bound.of_same rfl rfl, names, early.of_same rfl rfl⟩
  · rintro middle digest other ⟨bound, names, early⟩
    exact ⟨bound.removes (bound.remove digest.scramName), _, early.remove bound other⟩
  · rintro middle ⟨bound, names, early⟩
    exact ⟨bound.ensureScram options, names, early.ensureScram⟩

/-- A name is gone exactly if it was registered and is among those that were removed. -/
theorem gone_iff (reconfigures : Reconfigures options names before after) {name : String} :
    name ∈ before.registry.names.filter (· ∉ after.registry.names) ↔
      name ∈ before.registry.names ∧ name ∈ names := by
  rw [List.mem_filter, decide_eq_true_eq]
  refine and_congr_right fun registered => ⟨?_, reconfigures.removed name⟩
  intro gone
  exact Decidable.byContradiction fun kept => gone (reconfigures.spared name registered kept)

/-- A session uses a name that is gone exactly if it uses one of those that were removed, as it uses
only what is registered. -/
theorem sessions_eq (reconfigures : Reconfigures options names before after) (bound : before.Bound)
    (id : String) : after.sessions.find? id = (before.sessions.find? id).filter
      (Session.avoids (before.registry.names.filter (· ∉ after.registry.names))) := by
  rw [reconfigures.sessions]
  cases found : before.sessions.find? id with
  | none => rfl
  | some session =>
      have same : session.avoids names =
          session.avoids (before.registry.names.filter (· ∉ after.registry.names)) := by
        unfold Session.avoids
        cases uses : session.mechanismName with
        | none => rfl
        | some name =>
            have registered := bound.registered found uses
            simp only [Option.all_some, decide_eq_decide]
            rw [reconfigures.gone_iff]
            exact not_congr (iff_and_self.mpr fun _ => registered)
      rw [Option.filter_some, Option.filter_some, same]

end Reconfigures

variable [AccountDirectory D] [CredentialStore C]

/-! ## Events -/

theorem continues_turn {engine : Engine D C} {registry : Registry} {session after : Session}
    {registration : Registration} {message : Option Bytes}
    (left : (engine.turn session registration message).session = some after) :
    session.Continues registry after := by
  have kept := registration.keeps_turn (engine.context session) message
  have stepped : session.Continues registry
      (registration.turn (engine.context session) message).2.session :=
    .of_same (by rw [kept.session]; rfl) kept.mechanism
  unfold turn at left
  refine stepped.trans ?_
  rcases Reply.session_ofStep left with ⟨-, rfl⟩ | ⟨target, -, rfl⟩ | failed
  · exact .refl _
  · exact .of_idle rfl rfl
  · exact .afterFailure failed

/-- A frame takes mechanisms from the registry only. -/
theorem continues_reply {engine : Engine D C} {session after : Session} {frame : Inbound}
    (left : (engine.reply session frame).session = some after) :
    session.Continues engine.registry after := by
  have fed (decoder : Frame.Decoder) : session.Continues engine.registry { session with decoder } :=
    .of_same rfl rfl
  cases left_of_reply left with
  | told id host ip secure => exact .of_same rfl rfl
  | @unregistered id name certfp idle => exact .presenting session certfp
  | @started id name certfp registration after idle found left =>
      exact (Session.Continues.presenting session certfp).trans
        ((Session.Continues.select _ (List.mem_of_find?_eq_some found)).trans (continues_turn left))
  | fed selected added => exact fed _
  | stepped selected added left => exact (fed _).trans (continues_turn left)
  | stopped left => exact .afterFailure left

namespace Attached

variable {engine : Engine D C}

theorem handle (attached : engine.Attached) (keyed : engine.Keyed) (server : String)
    (frame : Inbound) : (engine.handle server frame).2.Attached := by
  rcases engine.handle_cases server frame keyed with
    ⟨-, -, alike, sessions⟩ | ⟨session, middle, enters, gives⟩
  · refine attached.survive alike.registry ?_
    rw [sessions]
    exact .refl _
  · refine ⟨?_, ?_⟩
    · rw [gives.registry]
      exact attached.orderly
    · intro id after registration found selected
      rw [gives.registry]
      rw [gives.sessions id] at found
      split at found
      · have continues := continues_reply found
        rcases continues.mechanism registration selected with used | registered
        · rw [enters.same.1, Option.bind_eq_some_iff] at used
          obtain ⟨earlier, known, used⟩ := used
          exact attached.registered _ earlier registration known used
        · rw [← enters.alike.registry]
          exact registered
      · exact attached.registered id after registration found selected

/-- Every event keeps sessions to the registrations that there are. -/
theorem perform (attached : engine.Attached) (bound : engine.Bound) (event : Event D) :
    (engine.perform event).Attached := by
  cases event with
  | frame server inbound => exact attached.handle bound.keyed server inbound
  | introduced uid =>
      have descends : Descends (fun _ => True) engine (engine.userIntroduced uid).2 :=
        .userIntroduced engine bound.keyed uid
      exact attached.survive (engine.registry_userIntroduced uid) descends.sessions
  | registered mechanism =>
      change (engine.register mechanism).2.Attached
      rw [snd_register]
      exact attached.add mechanism
  | unregistered name =>
      change (engine.unregister name).2.Attached
      rw [snd_unregister]
      exact attached.removes (bound.remove name)
  | configured options => exact attached.configureScram bound options
  | swept => exact attached.survive rfl (.sweep _ _)
  | burst => exact attached.survive rfl (.refl _)
  | directory change => exact attached.survive rfl (.refl _)
  | drawn length => exact attached.survive rfl (.refl _)

theorem of_reachable (reachable : engine.Reachable) : engine.Attached := by
  induction reachable with
  | create created =>
      unfold Engine.create at created
      split at created
      · cases created
        refine ⟨⟨List.nodup_nil, ?_, List.Pairwise.nil, ?_⟩, ?_⟩
        · intro name absurd
          cases absurd
        · intro entry absurd
          cases absurd
        · intro id session registration found
          cases found
      · cases created
  | perform reachable event attached => exact attached.perform (.of_reachable reachable) event

end Attached

/-- Whatever happens to an engine, its mechanisms have distinct names that fit and are listed in the
order of their registration, and a session that uses a mechanism uses the very registration that is
there under that name now. To unregister a mechanism or to configure SCRAM destroys the sessions
that use what is removed and changes no other one, and a mechanism that cannot be registered changes
nothing. -/
theorem sessions_attached {engine : Engine D C} (reachable : engine.Reachable) :
    engine.registry.Orderly ∧
    engine.registry.mechlist = joinNames (engine.registry.entries.map Registration.name) ∧
    (∀ id session registration, engine.sessions.find? id = some session →
      session.mechanism = some registration →
      engine.registry.find? registration.name = some registration) ∧
    (∀ name, (engine.registry.find? name).isSome →
      (engine.unregister name).2.registry.names = engine.registry.names.filter (· ≠ name) ∧
      ∀ id, (engine.unregister name).2.sessions.find? id =
        (engine.sessions.find? id).filter fun session => session.mechanismName ≠ some name) ∧
    (∀ options,
      let after := (engine.configureScram options).2
      let gone := engine.registry.names.filter (· ∉ after.registry.names)
      (∀ name ∈ gone, ∃ digest, digest ≠ options.digest ∧ name = digest.scramName) ∧
      ∀ id, after.sessions.find? id = (engine.sessions.find? id).filter fun session =>
        session.mechanismName.all (· ∉ gone)) ∧
    ∀ mechanism : Mechanism,
      ((Limits.mechanismNameLength < mechanism.name.utf8ByteSize ∨
          (engine.registry.find? mechanism.name).isSome) →
        ∃ event, engine.register mechanism = ([], engine.note event)) ∧
      (mechanism.name.utf8ByteSize ≤ Limits.mechanismNameLength →
        engine.registry.find? mechanism.name = none →
        (engine.register mechanism).2.registry.names =
          engine.registry.names ++ [mechanism.name]) := by
  have bound := Bound.of_reachable reachable
  have attached := Attached.of_reachable reachable
  refine ⟨attached.orderly, bound.listed, ?_, ?_, ?_, fun mechanism => ⟨?_, ?_⟩⟩
  · intro id session registration found selected
    exact Registry.find?_of_mem bound.distinct
      (attached.registered id session registration found selected)
  · intro name _
    have removes := bound.remove name
    rw [snd_unregister]
    refine ⟨?_, ?_⟩
    · rw [removes.names_eq]
      simp
    · intro id
      rw [removes.sessions]
      have same : Session.avoids [name] =
          fun session : Session => session.mechanismName ≠ some name := by
        funext session
        exact Bool.eq_iff_iff.mpr ((session.avoids_singleton name).trans decide_eq_true_iff.symm)
      rw [same]
  · intro options after gone
    obtain ⟨names, reconfigures⟩ := Reconfigures.of_bound bound options
    refine ⟨?_, reconfigures.sessions_eq bound⟩
    exact fun name member => reconfigures.others name (reconfigures.gone_iff.mp member).2
  · intro unfit
    obtain ⟨event, same⟩ := Registry.register_of_unfit unfit engine.env
    refine ⟨event, ?_⟩
    unfold register add
    rw [same]
    rfl
  · intro short free
    have added := Registry.register_of_free short free engine.env
    rw [snd_register]
    unfold add
    rw [added]
    exact engine.registry.names_push mechanism

end Engine

/-! ## A session in which a login waits -/

/-- An engine that offers PLAIN and SCRAM with SHA-1. The client of `U1` has logged in by PLAIN, is
not on the network yet and has asked for PLAIN again; the client of `U2` has asked for SCRAM. -/
def attachedRun : Engine MemoryDirectory PasswordHasher :=
  waitingRun.performAll
    [.registered (.scram
      { digest := .sha1, mockKey := [1, 2, 3], mockIterations := 10000, mockSaltLength := 8 }),
     .frame "hub" waitingFrame, .frame "hub" (.startAuth "U1" "PLAIN" none),
     .frame "hub" (.startAuth "U2" "SCRAM-SHA-1" none)]

set_option maxRecDepth 100000 in
/-- Without PLAIN the session of `U1` is gone although a login waits in it, and when SCRAM is
configured for SHA-256 that of `U2` is. PLAIN cannot be registered again. -/
theorem sessions_attached_waiting :
    ((attachedRun.sessions.find? "U1").bind Session.pending).isSome ∧
    (attachedRun.unregister "PLAIN").2.sessions.find? "U1" = none ∧
    (attachedRun.unregister "PLAIN").2.sessions.find? "U2" = attachedRun.sessions.find? "U2" ∧
    (attachedRun.configureScram { digest := .sha256 }).2.sessions.find? "U1" =
      attachedRun.sessions.find? "U1" ∧
    (attachedRun.configureScram { digest := .sha256 }).2.sessions.find? "U2" = none ∧
    (∃ event, attachedRun.register .plain = ([], attachedRun.note event)) ∧
    ∃ session registration, attachedRun.sessions.find? "U2" = some session ∧
      session.mechanism = some registration ∧
      attachedRun.registry.find? "SCRAM-SHA-1" = some registration := by
  have reachable : attachedRun.Reachable :=
    (reachable_waitingEngine.performAll _).performAll _
  obtain ⟨-, -, registered, unregisters, configures, registers⟩ :=
    Engine.sessions_attached reachable
  have first : (attachedRun.sessions.find? "U1").map Session.mechanismName =
      some (some "PLAIN") := by decide +kernel
  have second : (attachedRun.sessions.find? "U2").map Session.mechanismName =
      some (some "SCRAM-SHA-1") := by decide +kernel
  have waits : ((attachedRun.sessions.find? "U1").bind Session.pending).isSome := by decide +kernel
  have gone : attachedRun.registry.names.filter
      (· ∉ (attachedRun.configureScram { digest := .sha256 }).2.registry.names) =
        ["SCRAM-SHA-1"] := by decide +kernel
  have plain : (attachedRun.registry.find? "PLAIN").isSome := by decide +kernel
  obtain ⟨early, foundFirst, usesPlain⟩ := Option.map_eq_some_iff.mp first
  obtain ⟨late, foundSecond, usesScram⟩ := Option.map_eq_some_iff.mp second
  have unregistered := (unregisters "PLAIN" plain).2
  have configured := (configures { digest := .sha256 }).2
  simp only [gone] at configured
  refine ⟨waits, ?_, ?_, ?_, ?_, (registers .plain).1 (.inr plain), ?_⟩
  · rw [unregistered, foundFirst]
    simp [usesPlain]
  · rw [unregistered, foundSecond]
    simp [usesScram]
  · rw [configured, foundFirst]
    simp [usesPlain]
  · rw [configured, foundSecond]
    simp [usesScram]
  · obtain ⟨registration, selected, own⟩ := Option.map_eq_some_iff.mp usesScram
    refine ⟨late, registration, foundSecond, selected, ?_⟩
    rw [← own]
    exact registered "U2" late registration foundSecond selected

end IrcSasl
