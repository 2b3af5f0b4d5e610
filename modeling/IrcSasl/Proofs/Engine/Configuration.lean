import IrcSasl.Account.Memory
import IrcSasl.Proofs.Engine.Verdict

set_option autoImplicit false

/-!
# Configuring SCRAM when the random source fails

To configure SCRAM goes through the digests in order, and each mechanism of another digest is
removed before the secret of the configured one is drawn. So a draw that fails leaves the engine
without the mechanisms of weaker digests and without the sessions that used them, and with
everything else (`Engine.configureScram_error`).
-/

namespace IrcSasl

/-- The digests that come before one. -/
def Digest.weaker (digest : Digest) : List Digest := all.takeWhile (· ≠ digest)

theorem Digest.all_eq_append (digest : Digest) :
    ∃ stronger, all = digest.weaker ++ digest :: stronger ∧ digest ∉ stronger := by
  cases digest with
  | sha1 => exact ⟨[.sha256, .sha512], rfl, by decide⟩
  | sha256 => exact ⟨[.sha512], rfl, by decide⟩
  | sha512 => exact ⟨[], rfl, by decide⟩

theorem Digest.ne_of_mem_weaker {digest other : Digest} (weaker : other ∈ digest.weaker) :
    other ≠ digest := by
  have kept := List.all_takeWhile (p := (· ≠ digest)) (l := all)
  exact of_decide_eq_true (List.all_eq_true.mp kept other weaker)

variable {D C : Type} {offered : Mechanism → Prop}

/-- A tidy session is tidy whatever is offered, as long as its own mechanism is. -/
theorem Session.Tidy.offer {allowed : Mechanism → Prop} {id : String} {session : Session}
    (tidy : session.Tidy offered id)
    (selected : ∀ registration, session.mechanism = some registration →
      allowed registration.mechanism) : session.Tidy allowed id :=
  { tidy with selected }

/-- Whether a session uses no mechanism of certain names. -/
def Session.avoids (names : List String) (session : Session) : Bool :=
  session.mechanismName.all (· ∉ names)

@[simp] theorem Session.avoids_nil (session : Session) : session.avoids [] = true := by
  unfold avoids
  cases session.mechanismName <;> simp

theorem Session.avoids_singleton (session : Session) (name : String) :
    session.avoids [name] = true ↔ session.mechanismName ≠ some name := by
  unfold avoids
  cases session.mechanismName <;> simp

@[simp] theorem Session.avoids_append (session : Session) (names more : List String) :
    session.avoids (names ++ more) = (session.avoids names && session.avoids more) := by
  unfold avoids
  cases session.mechanismName <;> simp

namespace Engine

/-! ## Sessions use what is registered -/

/-- No name is registered twice, the list of all mechanisms shows those that are registered, and
sessions use no others. -/
structure Bound (engine : Engine D C) : Prop where
  distinct : engine.registry.Distinct
  listed : engine.registry.Listed
  tidy : ∀ id session, engine.sessions.find? id = some session →
    session.Tidy engine.registry.Holds id

/-- Mechanisms were removed from an engine, with the sessions that used them. Nothing else has
changed but the log and the random source. -/
structure Removes (names : List String) (before after : Engine D C) : Prop where
  registry : after.registry = before.registry.keep fun entry => entry.name ∉ names
  sessions : ∀ id, after.sessions.find? id =
    (before.sessions.find? id).filter (Session.avoids names)
  accounts : after.accounts = before.accounts
  credentials : after.credentials = before.credentials
  options : after.options = before.options
  connected : after.connected = before.connected
  idle : (∀ name ∈ names, before.registry.find? name = none) → after.sessions = before.sessions

namespace Removes

variable {names : List String} {before after : Engine D C}

theorem of_idle (listed : before.registry.Listed) (registry : after.registry = before.registry)
    (sessions : after.sessions = before.sessions) (accounts : after.accounts = before.accounts)
    (credentials : after.credentials = before.credentials)
    (options : after.options = before.options) (connected : after.connected = before.connected) :
    Removes [] before after := by
  refine ⟨?_, ?_, accounts, credentials, options, connected, fun _ => sessions⟩
  · rw [registry, listed.keep_eq_self (by simp)]
  · intro id
    rw [sessions]
    cases before.sessions.find? id with
    | none => rfl
    | some session => rw [Option.filter_some, if_pos session.avoids_nil]

theorem trans {more : List String} {middle : Engine D C} (early : Removes names before middle)
    (late : Removes more middle after) : Removes (names ++ more) before after := by
  refine ⟨?_, ?_, late.accounts.trans early.accounts, late.credentials.trans early.credentials,
    late.options.trans early.options, late.connected.trans early.connected, ?_⟩
  · simp [late.registry, early.registry, Registry.keep_keep]
  · intro id
    have both : Session.avoids (names ++ more) =
        fun session => session.avoids names && session.avoids more :=
      funext fun session => session.avoids_append names more
    rw [late.sessions, early.sessions, Option.filter_filter, both]
  · intro absent
    have still : ∀ name ∈ more, middle.registry.find? name = none := by
      intro name member
      have before := absent name (List.mem_append_right _ member)
      rw [Registry.find?_eq_none_iff] at before ⊢
      intro later
      obtain ⟨entry, inside, own⟩ := List.mem_map.mp later
      rw [early.registry, Registry.entries_keep] at inside
      exact before (List.mem_map.mpr ⟨entry, (List.mem_filter.mp inside).1, own⟩)
    exact (late.idle still).trans (early.idle fun name member =>
      absent name (List.mem_append_left _ member))

theorem names_eq (removes : Removes names before after) :
    after.registry.names = before.registry.names.filter (· ∉ names) := by
  simp only [Registry.names, removes.registry, Registry.entries_keep, List.filter_map]
  rfl

/-- Removing changes nothing exactly if none of the mechanisms was registered. -/
theorem eq_iff (removes : Removes names before after) (listed : before.registry.Listed) :
    (after.registry = before.registry ∧ after.sessions = before.sessions) ↔
      ∀ name ∈ names, before.registry.find? name = none := by
  constructor
  · rintro ⟨registry, -⟩ name member
    rw [Registry.find?_eq_none_iff]
    intro registered
    obtain ⟨entry, inside, own⟩ := List.mem_map.mp registered
    rw [← registry, removes.registry, Registry.entries_keep] at inside
    have kept := (List.mem_filter.mp inside).2
    rw [own] at kept
    exact of_decide_eq_true kept member
  · intro absent
    refine ⟨?_, removes.idle absent⟩
    have others : ∀ entry ∈ before.registry.entries, entry.name ∉ names := by
      intro entry inside member
      exact Registry.find?_eq_none_iff.mp (absent entry.name member)
        (List.mem_map.mpr ⟨entry, inside, rfl⟩)
    rw [removes.registry, listed.keep_eq_self (by simpa using others)]

end Removes

namespace Bound

variable {engine : Engine D C}

/-- Only the log and the random source have changed. -/
theorem of_same {after : Engine D C} (bound : engine.Bound)
    (registry : after.registry = engine.registry) (sessions : after.sessions = engine.sessions) :
    after.Bound := by
  refine ⟨?_, ?_, ?_⟩
  · rw [registry]
    exact bound.distinct
  · rw [registry]
    exact bound.listed
  · rw [registry, sessions]
    exact bound.tidy

theorem keyed (bound : engine.Bound) : engine.Keyed :=
  fun id session found => (bound.tidy id session found).uid

theorem sound (bound : engine.Bound) : engine.Sound engine.registry.Holds :=
  ⟨fun entry member => ⟨entry, member, rfl⟩, bound.tidy⟩

/-- The mechanism that a session uses is registered. -/
theorem registered (bound : engine.Bound) {id name : String} {session : Session}
    (found : engine.sessions.find? id = some session)
    (uses : session.mechanismName = some name) : name ∈ engine.registry.names := by
  obtain ⟨registration, selected, own⟩ := Option.map_eq_some_iff.mp uses
  obtain ⟨entry, member, same⟩ := (bound.tidy id session found).selected registration selected
  refine List.mem_map.mpr ⟨entry, member, ?_⟩
  rw [← own, Registration.name, same]
  rfl

theorem remove (bound : engine.Bound) (name : String) :
    Removes [name] engine (engine.remove name).2 := by
  unfold Engine.remove
  split
  · next absent =>
      have absent := Registry.find?_eq_none_iff.mp absent
      refine ⟨?_, ?_, rfl, rfl, rfl, rfl, fun _ => rfl⟩
      · have others : ∀ entry ∈ engine.registry.entries, entry.name ≠ name := by
          intro entry member same
          exact absent (List.mem_map.mpr ⟨entry, member, same⟩)
        exact (bound.listed.keep_eq_self (by simpa using others)).symm
      · intro id
        cases found : engine.sessions.find? id with
        | none => rfl
        | some session =>
            have avoids := (session.avoids_singleton name).mpr fun uses =>
              absent (bound.registered found uses)
            rw [Option.filter_some, if_pos avoids]
  · next entry found =>
      refine ⟨?_, ?_, rfl, rfl, rfl, rfl, ?_⟩
      · refine (Registry.unregister_eq bound.distinct bound.listed name _).trans ?_
        simp
      · intro id
        refine (SessionStore.find?_destroyAll ..).trans ?_
        cases present : engine.sessions.find? id with
        | none => simp
        | some session =>
            have member : id ∈ engine.sessions.boundTo name ↔
                session.mechanismName = some name := by
              rw [SessionStore.boundTo, SessionStore.mem_idsWhere]
              simp [present]
            have avoids := session.avoids_singleton name
            rw [Option.filter_some]
            by_cases uses : session.mechanismName = some name
            · rw [if_pos (member.mpr uses), if_neg fun spared => avoids.mp spared uses]
            · rw [if_neg (mt member.mp uses), if_pos (avoids.mpr uses)]
      · intro absent
        rw [absent name List.mem_cons_self] at found
        cases found

/-- What is left after mechanisms were removed still belongs together. -/
theorem removes {after : Engine D C} {names : List String} (bound : engine.Bound)
    (removes : Removes names engine after) : after.Bound := by
  refine ⟨?_, ?_, ?_⟩
  · rw [removes.registry]
    exact bound.distinct.keep _
  · rw [removes.registry]
    exact Registry.listed_rebuild _
  · intro id session found
    rw [removes.sessions, Option.filter_eq_some_iff] at found
    obtain ⟨found, spared⟩ := found
    have tidy := bound.tidy id session found
    refine tidy.offer ?_
    intro registration selected
    obtain ⟨entry, member, same⟩ := tidy.selected registration selected
    refine ⟨entry, ?_, same⟩
    rw [removes.registry, Registry.entries_keep, List.mem_filter]
    refine ⟨member, ?_⟩
    rw [Session.avoids, Session.mechanismName, selected] at spared
    simpa [Registration.name, same] using spared

theorem add (bound : engine.Bound) (mechanism : Mechanism) : (engine.add mechanism).2.Bound := by
  refine ⟨bound.distinct.register mechanism engine.env,
    bound.listed.register mechanism engine.env, ?_⟩
  intro id session found
  have tidy := bound.tidy id session found
  exact tidy.offer fun registration selected =>
    (tidy.selected registration selected).register mechanism engine.env

theorem ensureScram (bound : engine.Bound) (options : HashOptions) :
    (engine.ensureScram options).2.Bound := by
  rcases engine.ensureScram_cases options with ⟨entry, -, kept⟩ | ⟨-, ⟨env, failed⟩ |
    ⟨server, env, -, -, -, added⟩⟩
  · rw [kept]
    exact bound
  · rw [failed]
    exact bound.of_same rfl rfl
  · rw [added]
    have drawn : ({ engine with env } : Engine D C).Bound := bound.of_same rfl rfl
    exact drawn.add (.scram server)

theorem configureScram (bound : engine.Bound) (options : HashOptions) :
    (engine.configureScram options).2.Bound := by
  refine configureScram_invariant ?_ ?_ ?_ bound
  · exact fun middle early => early.of_same rfl rfl
  · exact fun middle digest _ early => early.removes (early.remove digest.scramName)
  · exact fun middle early => early.ensureScram options

end Bound

theorem registry_userIntroduced [AccountDirectory D] (engine : Engine D C) (uid : String) :
    (engine.userIntroduced uid).2.registry = engine.registry := by
  unfold userIntroduced
  split
  · rfl
  · next session _ =>
      have destroyed := alike_destroySession
        (engine.putSession { session with needLog := false, pending := none }) uid
      simp only
      split
      · exact destroyed.registry
      · next pending _ =>
          split
          · exact destroyed.registry
          · obtain ⟨-, -, -, registry, -⟩ := applyLogin_alike
              ((engine.putSession { session with needLog := false, pending := none }).destroySession
                uid) uid pending.account pending.mechanism
            exact registry.trans destroyed.registry

namespace Bound

variable {engine : Engine D C} [AccountDirectory D] [CredentialStore C]

/-- Where the registry stays as it is, only sessions that were sound before are to be found. -/
theorem perform_of_registry (bound : engine.Bound) {event : Event D}
    (offers : event.Offers engine.registry.Holds)
    (registry : (engine.perform event).registry = engine.registry) :
    (engine.perform event).Bound := by
  have sound := bound.sound.perform event offers
  refine ⟨?_, ?_, ?_⟩
  · rw [registry]
    exact bound.distinct
  · rw [registry]
    exact bound.listed
  · rw [registry]
    exact sound.tidy

/-- Every event keeps sessions to what is registered. -/
theorem perform (bound : engine.Bound) (event : Event D) : (engine.perform event).Bound := by
  cases event with
  | frame server inbound =>
      exact bound.perform_of_registry trivial (registry_handle bound.keyed server inbound)
  | introduced uid => exact bound.perform_of_registry trivial (engine.registry_userIntroduced uid)
  | registered mechanism =>
      change (engine.register mechanism).2.Bound
      rw [snd_register]
      exact bound.add mechanism
  | unregistered name =>
      change (engine.unregister name).2.Bound
      rw [snd_unregister]
      exact bound.removes (bound.remove name)
  | configured options => exact bound.configureScram options
  | burst => exact bound.perform_of_registry trivial rfl
  | swept => exact bound.perform_of_registry trivial rfl
  | directory change => exact bound.perform_of_registry trivial rfl
  | drawn length => exact bound.perform_of_registry trivial rfl

/-- In every engine that events can lead to, sessions use only what is registered. -/
theorem of_reachable (reachable : engine.Reachable) : engine.Bound := by
  induction reachable with
  | create created =>
      unfold Engine.create at created
      split at created
      · cases created
        refine ⟨List.nodup_nil, rfl, ?_⟩
        intro id session found
        cases found
      · cases created
  | perform _ event bound => exact bound.perform event

end Bound

/-! ## The pass over the digests -/

/-- The digests that are not configured lose their mechanisms, whatever is left to go through. The
induction is on these digests. -/
theorem configureDigests_others {options : HashOptions} {digests : List Digest}
    (others : ∀ digest ∈ digests, digest ≠ options.digest) (rest : List Digest) (changed : Bool)
    {engine : Engine D C} (bound : engine.Bound) :
    ∃ middle later, Removes (digests.map Digest.scramName) engine middle ∧
      configureDigests options (digests ++ rest) changed engine =
        configureDigests options rest later middle := by
  induction digests generalizing changed engine with
  | nil => exact ⟨engine, changed, .of_idle bound.listed rfl rfl rfl rfl rfl rfl, rfl⟩
  | cons digest more ih =>
      have removes := bound.remove digest.scramName
      obtain ⟨middle, later, further, same⟩ := ih
        (fun other member => others other (List.mem_cons_of_mem _ member))
        (changed || (engine.remove digest.scramName).1) (bound.removes removes)
      refine ⟨middle, later, removes.trans further, ?_⟩
      rw [← same, List.cons_append, configureDigests, if_pos (others digest List.mem_cons_self)]

/-! ## When the random source fails -/

/-- Nothing can fail where the configured digest is not among those that are left. -/
theorem configureDigests_of_not_mem {options : HashOptions} {digests : List Digest}
    (absent : options.digest ∉ digests) (changed : Bool) (engine : Engine D C) :
    ∃ later, (configureDigests options digests changed engine).1 = .ok later := by
  induction digests generalizing changed engine with
  | nil => exact ⟨changed, rfl⟩
  | cons digest rest ih =>
      rw [List.mem_cons, not_or] at absent
      unfold configureDigests
      rw [if_pos (Ne.symm absent.1)]
      exact ih absent.2 _ _

/-- Where the mechanism cannot be made, all digests before the configured one have lost theirs. -/
theorem configureDigests_error {options : HashOptions} {earlier later : List Digest}
    (others : ∀ digest ∈ earlier, digest ≠ options.digest) (absent : options.digest ∉ later)
    {changed : Bool} {engine after : Engine D C} {cause : CredentialError} (bound : engine.Bound)
    (failed : configureDigests options (earlier ++ options.digest :: later) changed engine =
      (.error cause, after)) :
    cause = .random ∧ after.registry.find? options.digest.scramName = none ∧
      Removes (earlier.map Digest.scramName) engine after := by
  obtain ⟨middle, removed, removes, through⟩ :=
    configureDigests_others others (options.digest :: later) changed bound
  rw [through] at failed
  unfold configureDigests at failed
  rw [if_neg (by simp)] at failed
  rcases middle.ensureScram_cases options with ⟨entry, -, kept⟩ | ⟨free, ⟨env, drained⟩ |
    ⟨server, env, -, -, -, added⟩⟩
  · rw [kept] at failed
    obtain ⟨result, ok⟩ := configureDigests_of_not_mem absent (removed || false) middle
    rw [congrArg Prod.fst failed] at ok
    cases ok
  · rw [drained] at failed
    cases failed
    exact ⟨rfl, free, removes.registry, removes.sessions, removes.accounts, removes.credentials,
      removes.options, removes.connected, removes.idle⟩
  · rw [added] at failed
    obtain ⟨result, ok⟩ := configureDigests_of_not_mem absent (removed || true)
      (({ middle with env } : Engine D C).add (.scram server)).2
    rw [congrArg Prod.fst failed] at ok
    cases ok

theorem Removes.of_note {names : List String} {engine after : Engine D C} {event : Log.Event}
    (removes : Removes names (engine.note event) after) : Removes names engine after :=
  ⟨removes.registry, removes.sessions, removes.accounts, removes.credentials, removes.options,
    removes.connected, removes.idle⟩

variable [AccountDirectory D] [CredentialStore C]

/-- Configuring SCRAM fails only where the mechanism has to be made and the random source fails. It
has then removed the mechanisms of all weaker digests, with the sessions that used them, and has
changed nothing exactly if none of these was registered. -/
theorem configureScram_error {engine after : Engine D C} (reachable : engine.Reachable)
    {options : HashOptions} {cause : CredentialError}
    (failed : engine.configureScram options = (.error cause, after)) :
    cause = .random ∧ after.registry.find? options.digest.scramName = none ∧
      Removes (options.digest.weaker.map Digest.scramName) engine after ∧
      ((after.registry = engine.registry ∧ after.sessions = engine.sessions) ↔
        ∀ digest ∈ options.digest.weaker, engine.registry.find? digest.scramName = none) := by
  have bound := Bound.of_reachable reachable
  obtain ⟨stronger, order, absent⟩ := options.digest.all_eq_append
  obtain ⟨random, free, removes⟩ : cause = .random ∧
      after.registry.find? options.digest.scramName = none ∧
      Removes (options.digest.weaker.map Digest.scramName) engine after := by
    unfold configureScram at failed
    rw [order] at failed
    simp only at failed
    split at failed
    · next reason stopped done =>
        cases failed
        have others : ∀ digest ∈ options.digest.weaker, digest ≠ options.digest :=
          fun digest weaker => Digest.ne_of_mem_weaker weaker
        split at done
        · have noted : (engine.note (.cyrusLimitExceeded options.iterations)).Bound :=
            bound.of_same rfl rfl
          obtain ⟨random, free, removes⟩ := configureDigests_error others absent noted done
          exact ⟨random, free, removes.of_note⟩
        · exact configureDigests_error others absent bound done
    · cases failed
  refine ⟨random, free, removes, ?_⟩
  rw [removes.eq_iff bound.listed]
  simp only [List.forall_mem_map]

end Engine

/-! ## A mechanism that is lost -/

/-- An engine whose random source fails at the first draw. -/
def drainedEngine : Engine MemoryDirectory PasswordHasher :=
  { options := {}, accounts := {}, credentials := ⟨{}⟩
    env := { entropy := .arithmetic 0 [0] } }

/-- The engine after the network has heard that there is SCRAM with SHA-1 and a client has asked
for it. -/
def drainedRun : Engine MemoryDirectory PasswordHasher :=
  drainedEngine.performAll
    [.registered (.scram
      { digest := .sha1, mockKey := [1, 2, 3], mockIterations := 10000, mockSaltLength := 8 }),
     .burst, .frame "hub" (.startAuth "U1" "SCRAM-SHA-1" none)]

/-- Configuring SHA-256 fails, and has taken SHA-1 and the session of the client away. -/
theorem configureScram_error_drained :
    ∃ after, drainedRun.configureScram { digest := .sha256 } = (.error .random, after) ∧
      drainedRun.connected = true ∧ drainedRun.registry.names = ["SCRAM-SHA-1"] ∧
      after.registry.names = [] ∧ (drainedRun.sessions.find? "U1").isSome ∧
      after.sessions.find? "U1" = none ∧
      ¬(after.registry = drainedRun.registry ∧ after.sessions = drainedRun.sessions) := by
  have created : Engine.create {} {} ⟨{}⟩ (.arithmetic 0 [0]) = .ok drainedEngine := rfl
  have reachable : drainedRun.Reachable := (Engine.Reachable.create created).performAll _
  have failed : (drainedRun.configureScram { digest := .sha256 }).1 = .error .random := by rfl
  have offered : drainedRun.registry.names = ["SCRAM-SHA-1"] := by decide +kernel
  have selected : (drainedRun.sessions.find? "U1").map Session.mechanismName =
      some (some "SCRAM-SHA-1") := by decide +kernel
  have connected : drainedRun.connected = true := by decide +kernel
  obtain ⟨session, found, uses⟩ := Option.map_eq_some_iff.mp selected
  cases configured : drainedRun.configureScram { digest := .sha256 } with
  | mk outcome after =>
      rw [configured] at failed
      cases failed
      obtain ⟨-, -, removes, unchanged⟩ := Engine.configureScram_error reachable configured
      refine ⟨after, rfl, connected, offered, ?_, Option.isSome_of_eq_some found, ?_, ?_⟩
      · rw [removes.names_eq, offered]
        decide
      · rw [removes.sessions, found, Option.filter_some, if_neg]
        simp [Session.avoids, uses, Digest.weaker, Digest.all, Digest.scramName]
      · rw [unchanged]
        intro absent
        have free := absent .sha1 (by decide)
        rw [Registry.find?_eq_none_iff, offered] at free
        exact free List.mem_cons_self

end IrcSasl
