import IrcSasl.Proofs.Engine.Answers

set_option autoImplicit false

/-!
# What the network knows

Once the uplink has finished its burst, every change of the table of mechanisms is told to the
network, and nothing else is. So what was announced last is always the current list
(`Engine.network_informed`).
-/

namespace IrcSasl

/-- The list of the mechanisms that a frame tells the network. -/
def Outbound.announced? : Outbound → Option String
  | .networkMechanismList mechanisms => some mechanisms
  | _ => none

/-- The lists of the mechanisms that frames tell the network, oldest first. -/
def announcements (frames : List Outbound) : List String := frames.filterMap Outbound.announced?

theorem announcements_append (frames more : List Outbound) :
    announcements (frames ++ more) = announcements frames ++ announcements more :=
  List.filterMap_append

/-- What is for the client of a session tells the network nothing. -/
theorem announcements_of_session {frames : List Outbound} {id : String}
    (own : ∀ sent ∈ frames, sent.session? = some id) : announcements frames = [] := by
  refine List.filterMap_eq_nil_iff.mpr ?_
  intro sent member
  have own := own sent member
  cases sent with
  | networkMechanismList mechanisms => cases own
  | _ => rfl

variable {D C : Type}

namespace Engine

/-! ## The connection -/

section Connected

@[simp] theorem connected_resetOrDestroy (engine : Engine D C) (session : Session) :
    (engine.resetOrDestroy session).connected = engine.connected := by
  unfold resetOrDestroy
  split <;> rfl

@[simp] theorem connected_noteAll (engine : Engine D C) (events : List Log.Event) :
    (engine.noteAll events).connected = engine.connected := by
  unfold noteAll
  induction events generalizing engine with
  | nil => rfl
  | cons event rest ih => exact ih (engine.note event)

variable [AccountDirectory D]

@[simp] theorem connected_penalize (engine : Engine D C) (session : Session) (mechanism : String) :
    (engine.penalize session mechanism).connected = engine.connected := by
  unfold penalize
  split
  · rfl
  · split <;> rfl

@[simp] theorem connected_loginTarget (engine : Engine D C) (session : Session) :
    (engine.loginTarget session).2.2.connected = engine.connected := by
  unfold loginTarget
  split
  · rfl
  · split
    · rfl
    · simp only
      split
      · rfl
      · exact connected_noteAll _ _

@[simp] theorem connected_applyLogin (engine : Engine D C) (uid : String) (account : Identity)
    (mechanism : String) :
    (engine.applyLogin uid account mechanism).connected = engine.connected := by
  unfold applyLogin
  split <;> rfl

theorem connected_succeed (engine : Engine D C) (session : Session) (mechanism : String) :
    (engine.succeed session mechanism).2.connected = engine.connected := by
  have decided := engine.connected_loginTarget session
  unfold succeed
  split
  · next middle after chosen =>
      rw [chosen] at decided
      exact (after.connected_resetOrDestroy middle).trans decided
  · next target middle after chosen =>
      rw [chosen] at decided
      simp only
      split
      · exact (connected_applyLogin _ _ _ _).trans decided
      · exact decided

theorem connected_conclude (engine : Engine D C) (session : Session) (mechanism : String)
    (step : Step) : (engine.conclude session mechanism step).2.connected = engine.connected := by
  cases step with
  | more data => rfl
  | success => exact engine.connected_succeed session mechanism
  | failure reply =>
      exact (connected_resetOrDestroy _ session).trans (engine.connected_penalize session mechanism)
  | refused reply => exact engine.connected_resetOrDestroy session

variable [CredentialStore C]

theorem connected_run (engine : Engine D C) (session : Session) (message : Option Bytes) :
    (engine.run session message).2.connected = engine.connected := by
  unfold run
  split
  · rfl
  · exact connected_conclude _ _ _ _

/-- A frame neither connects the engine nor disconnects it. -/
theorem connected_handle (engine : Engine D C) (server : String) (frame : Inbound) :
    (engine.handle server frame).2.connected = engine.connected := by
  unfold handle
  split
  · rfl
  · next session middle entered =>
      have same : middle.connected = engine.connected := by
        obtain ⟨_, -, found⟩ := Option.map_eq_some_iff.mp entered
        cases found
        rfl
      cases frame with
      | hostInfo id host ip secure => exact same
      | done id => exact (middle.connected_resetOrDestroy session).trans same
      | startAuth id name certfp =>
          simp only [startAuth]
          split
          · exact same
          · split
            · exact same
            · split
              · exact same
              · exact (connected_run _ _ _).trans same
      | clientData id data =>
          simp only [clientData]
          split
          · exact same
          · split
            · exact same
            · exact (connected_run _ _ _).trans same
            · exact same
            · exact same

end Connected

/-! ## Changes of the table -/

/-- What the network has to be told after an operation: the list of the mechanisms, if the engine is
connected and the table of the mechanisms has changed. -/
def news (before after : Engine D C) : List Outbound :=
  if before.connected ∧ after.registry.entries ≠ before.registry.entries then [after.announcement]
  else []

theorem news_of_same {before after : Engine D C}
    (same : after.registry.entries = before.registry.entries) : before.news after = [] :=
  if_neg fun told => told.2 same

theorem news_of_changed {before after : Engine D C} (connected : after.connected = before.connected)
    (changed : after.registry.entries ≠ before.registry.entries) :
    before.news after = after.publish := by
  unfold news publish
  rw [connected]
  by_cases known : before.connected = true
  · rw [if_pos ⟨known, changed⟩, if_pos known]
  · rw [if_neg fun told => known told.1, if_neg known]

/-- The network is told about a mechanism that is registered, unless it is not added. -/
theorem fst_register (engine : Engine D C) (mechanism : Mechanism) :
    (engine.register mechanism).1 = engine.news (engine.register mechanism).2 := by
  by_cases unfit : Limits.mechanismNameLength < mechanism.name.utf8ByteSize ∨
      (engine.registry.find? mechanism.name).isSome
  · obtain ⟨event, refused⟩ := Registry.register_of_unfit unfit engine.env
    simp only [register, add, refused]
    exact (news_of_same rfl).symm
  · obtain ⟨short, free⟩ := not_or.mp unfit
    have added := Registry.register_of_free (Nat.not_lt.mp short) (by simpa using free) engine.env
    simp only [register, add, added]
    rw [news_of_changed]
    · rfl
    · simp

/-- A mechanism is removed exactly if there is one of the name, which is then gone. -/
theorem remove_cases {engine : Engine D C} (bound : engine.Bound) (name : String) :
    engine.registry.find? name = none ∧ engine.remove name = (false, engine) ∨
      name ∈ engine.registry.names ∧ name ∉ (engine.remove name).2.registry.names ∧
        (engine.remove name).1 = true := by
  cases found : engine.registry.find? name with
  | none => exact .inl ⟨rfl, by simp only [remove, found]⟩
  | some entry =>
      refine .inr ⟨?_, ?_, by simp only [remove, found]⟩
      · by_cases absent : name ∈ engine.registry.names
        · exact absent
        · rw [Registry.find?_eq_none_iff.mpr absent] at found
          cases found
      · rw [(bound.remove name).names_eq]
        simp

/-- The network is told about a mechanism that is unregistered, unless there is none. -/
theorem fst_unregister {engine : Engine D C} (bound : engine.Bound) (name : String) :
    (engine.unregister name).1 = engine.news (engine.unregister name).2 := by
  have told : (engine.unregister name).1 =
      if (engine.remove name).1 then (engine.remove name).2.publish else [] := by
    unfold unregister
    split <;> simp [*]
  rw [snd_unregister, told]
  rcases remove_cases bound name with ⟨-, kept⟩ | ⟨present, gone, removed⟩
  · rw [kept]
    exact (news_of_same rfl).symm
  · rw [if_pos removed]
    refine (news_of_changed (bound.remove name).connected fun same => gone ?_).symm
    rw [Registry.names, same]
    exact present

/-! ## Changes by configuring SCRAM -/

/-- A flag tells whether SCRAM mechanisms have changed. Where it is set, the mechanism of another
digest has gone or that of the configured one has come, and this is not undone later. -/
inductive Flags (options : HashOptions) (before : Engine D C) : Bool → Engine D C → Prop where
  | same {after : Engine D C} (registry : after.registry = before.registry) :
      Flags options before false after
  | gone {after : Engine D C} {digest : Digest} (other : digest ≠ options.digest)
      (present : digest.scramName ∈ before.registry.names)
      (absent : digest.scramName ∉ after.registry.names) : Flags options before true after
  | come {after : Engine D C} (absent : options.digest.scramName ∉ before.registry.names)
      (present : options.digest.scramName ∈ after.registry.names) : Flags options before true after

namespace Flags

variable {options : HashOptions} {before middle : Engine D C} {changed : Bool}

theorem iff (flags : Flags options before changed middle) :
    changed = true ↔ middle.registry.entries ≠ before.registry.entries := by
  cases flags with
  | same registry => simp [registry]
  | gone other present absent =>
      refine iff_of_true rfl fun same => absent ?_
      rw [Registry.names, same]
      exact present
  | come absent present =>
      refine iff_of_true rfl fun same => absent ?_
      rw [Registry.names, ← same]
      exact present

theorem remove (flags : Flags options before changed middle) (bound : middle.Bound)
    {digest : Digest} (other : digest ≠ options.digest) :
    Flags options before (changed || (middle.remove digest.scramName).1)
      (middle.remove digest.scramName).2 := by
  rcases remove_cases bound digest.scramName with ⟨-, kept⟩ | ⟨present, gone, removed⟩
  · rw [kept, Bool.or_false]
    exact flags
  · rw [removed, Bool.or_true]
    have left := (bound.remove digest.scramName).names_eq
    cases flags with
    | same registry =>
        rw [registry] at present
        exact .gone other present gone
    | gone earlier was absent =>
        refine .gone earlier was fun member => absent ?_
        rw [left] at member
        exact (List.mem_filter.mp member).1
    | come absent there =>
        refine .come absent ?_
        rw [left, List.mem_filter]
        have different : options.digest.scramName ≠ digest.scramName :=
          fun same => other (Digest.scramName_inj.mp same).symm
        exact ⟨there, by simpa using different⟩

theorem ensureScram (flags : Flags options before changed middle) {added : Bool}
    {after : Engine D C} (ensured : middle.ensureScram options = (.ok added, after)) :
    Flags options before (changed || added) after := by
  rcases middle.ensureScram_cases options with ⟨entry, -, kept⟩ | ⟨free, ⟨env, failed⟩ |
    ⟨server, env, digest, -, -, made⟩⟩
  · cases ensured.symm.trans kept
    rw [Bool.or_false]
    exact flags
  · cases ensured.symm.trans failed
  · cases ensured.symm.trans made
    rw [Bool.or_true]
    have name : (Mechanism.scram server).name = options.digest.scramName :=
      congrArg Digest.scramName digest
    have absent : options.digest.scramName ∉ middle.registry.names :=
      Registry.find?_eq_none_iff.mp free
    have short : (Mechanism.scram server).name.utf8ByteSize ≤ Limits.mechanismNameLength := by
      rw [name]
      cases options.digest <;> decide
    have free : middle.registry.find? (Mechanism.scram server).name = none := by rw [name, free]
    have names : (({ middle with env } : Engine D C).add (.scram server)).2.registry.names =
        middle.registry.names ++ [options.digest.scramName] := by
      simp only [add, Registry.register_of_free short free, Registry.names_push, name]
    cases flags with
    | same registry =>
        rw [registry] at absent
        exact .come absent (by rw [names]; simp)
    | gone other was left =>
        refine .gone other was ?_
        rw [names, List.mem_append, List.mem_singleton, Digest.scramName_inj]
        exact not_or.mpr ⟨left, other⟩
    | come never there => exact absurd there absent

/-- What the flag says holds to the end. The induction is on the digests that are left to go
through. -/
theorem configureDigests {digests : List Digest} (flags : Flags options before changed middle)
    (bound : middle.Bound) {told : Bool} {after : Engine D C}
    (done : Engine.configureDigests options digests changed middle = (.ok told, after)) :
    Flags options before told after := by
  induction digests generalizing changed middle with
  | nil =>
      cases done
      exact flags
  | cons digest rest ih =>
      unfold Engine.configureDigests at done
      split at done
      · next other =>
          exact ih (flags.remove bound other) (bound.removes (bound.remove digest.scramName)) done
      · have kept := bound.ensureScram options
        split at done
        · cases done
        · next added next ensured =>
            rw [ensured] at kept
            exact ih (flags.ensureScram ensured) kept done

end Flags

theorem connected_ensureScram (engine : Engine D C) (options : HashOptions) :
    (engine.ensureScram options).2.connected = engine.connected := by
  rcases engine.ensureScram_cases options with ⟨entry, -, kept⟩ | ⟨-, ⟨env, failed⟩ |
    ⟨server, env, -, -, -, added⟩⟩
  · rw [kept]
  · rw [failed]
  · rw [added]
    rfl

theorem connected_configureScram {engine : Engine D C} (bound : engine.Bound)
    (options : HashOptions) : (engine.configureScram options).2.connected = engine.connected := by
  refine (@configureScram_invariant D C options
    (fun middle => middle.Bound ∧ middle.connected = engine.connected) ?_ ?_ ?_ engine
    ⟨bound, rfl⟩).2
  · exact fun middle early => ⟨early.1.of_same rfl rfl, early.2⟩
  · intro middle digest _ early
    have removes := early.1.remove digest.scramName
    exact ⟨early.1.removes removes, removes.connected.trans early.2⟩
  · exact fun middle early =>
      ⟨early.1.ensureScram options, (middle.connected_ensureScram options).trans early.2⟩

/-- The network is told about SCRAM that is configured, unless it was configured so before. -/
theorem news_configureScram {engine after : Engine D C} (bound : engine.Bound)
    {options : HashOptions} {frames : List Outbound}
    (configured : engine.configureScram options = (.ok frames, after)) :
    frames = engine.news after := by
  have connected := connected_configureScram bound options
  rw [configured] at connected
  unfold configureScram at configured
  simp only at configured
  split at configured
  · cases configured
  · next told last done =>
      cases configured
      have flags : Flags options engine told after := by
        split at done
        · have noted : (engine.note (.cyrusLimitExceeded options.iterations)).Bound :=
            bound.of_same rfl rfl
          have begun : Flags options engine false
              (engine.note (.cyrusLimitExceeded options.iterations)) := .same rfl
          exact begun.configureDigests noted done
        · have begun : Flags options engine false engine := .same rfl
          exact begun.configureDigests bound done
      by_cases changed : told = true
      · rw [if_pos changed]
        exact (news_of_changed connected (flags.iff.mp changed)).symm
      · rw [if_neg changed]
        exact (news_of_same (Classical.not_not.mp (mt flags.iff.mpr changed))).symm

/-! ## Runs -/

variable [AccountDirectory D] [CredentialStore C]

/-- Whether an event is no attempt to configure SCRAM that fails. -/
def accepts (engine : Engine D C) : Event D → Bool
  | .configured options => (engine.configureScram options).1.isOk
  | _ => true

/-- Whether none of several events in order is an attempt to configure SCRAM that fails. -/
def acceptsAll (engine : Engine D C) : List (Event D) → Bool
  | [] => true
  | event :: rest => engine.accepts event && (engine.perform event).acceptsAll rest

theorem announcements_handle {engine : Engine D C} (reachable : engine.Reachable) (server : String)
    (frame : Inbound) :
    announcements (engine.handle server frame).1 = [] ∧
      (engine.handle server frame).2.registry = engine.registry := by
  have bound := Bound.of_reachable reachable
  have answers := answers_handle bound.keyed (.of_reachable reachable) server frame
  exact ⟨announcements_of_session answers.session, registry_handle bound.keyed server frame⟩

omit [CredentialStore C] in
theorem announcements_userIntroduced (engine : Engine D C) (uid : String) :
    announcements (engine.userIntroduced uid).1 = [] := by
  unfold userIntroduced
  split
  · rfl
  · simp only
    split
    · rfl
    · split <;> rfl

omit [CredentialStore C] in
theorem connected_userIntroduced (engine : Engine D C) (uid : String) :
    (engine.userIntroduced uid).2.connected = engine.connected := by
  unfold userIntroduced
  split
  · rfl
  · simp only
    split
    · rfl
    · split
      · rfl
      · exact connected_applyLogin _ _ _ _

/-- An event other than the end of the burst keeps the connection, and tells the network what it has
to be told. -/
theorem announcements_emit {engine : Engine D C} (reachable : engine.Reachable) {event : Event D}
    (accepted : engine.accepts event = true) (other : event ≠ .burst) :
    (engine.perform event).connected = engine.connected ∧
      announcements (engine.emit event) =
        announcements (engine.news (engine.perform event)) := by
  have bound := Bound.of_reachable reachable
  have silent {after : Engine D C} (registry : after.registry = engine.registry) :
      [] = announcements (engine.news after) := by
    rw [news_of_same (congrArg Registry.entries registry)]
    rfl
  cases event with
  | burst => exact absurd rfl other
  | frame server inbound =>
      obtain ⟨quiet, registry⟩ := announcements_handle reachable server inbound
      exact ⟨engine.connected_handle server inbound, quiet.trans (silent registry)⟩
  | introduced uid =>
      exact ⟨engine.connected_userIntroduced uid,
        (engine.announcements_userIntroduced uid).trans
          (silent (engine.registry_userIntroduced uid))⟩
  | registered mechanism =>
      refine ⟨?_, congrArg announcements (engine.fst_register mechanism)⟩
      simp only [perform, snd_register]
      rfl
  | unregistered name =>
      refine ⟨?_, congrArg announcements (fst_unregister bound name)⟩
      simp only [perform, snd_unregister]
      exact (bound.remove name).connected
  | configured options =>
      refine ⟨connected_configureScram bound options, ?_⟩
      simp only [emit, perform]
      cases configured : engine.configureScram options with
      | mk outcome after =>
          cases outcome with
          | error cause => simp [accepts, configured, Except.isOk, Except.toBool] at accepted
          | ok frames => exact congrArg announcements (news_configureScram bound configured)
  | swept => exact ⟨rfl, silent rfl⟩
  | directory change => exact ⟨rfl, silent rfl⟩
  | drawn length => exact ⟨rfl, silent rfl⟩

/-- What the network was told last is the list of the mechanisms. -/
def Informed (engine : Engine D C) (sent : List Outbound) : Prop :=
  engine.connected = true → (announcements sent).getLast? = some engine.registry.mechlist

theorem Informed.perform {engine : Engine D C} {sent : List Outbound}
    (informed : engine.Informed sent) (reachable : engine.Reachable) {event : Event D}
    (accepted : engine.accepts event = true) :
    (engine.perform event).Informed (sent ++ engine.emit event) := by
  intro connected
  rw [announcements_append, List.getLast?_append]
  by_cases burst : event = .burst
  · rw [burst]
    rfl
  · obtain ⟨same, told⟩ := announcements_emit reachable accepted burst
    rw [same] at connected
    rw [told]
    by_cases changed : (engine.perform event).registry.entries = engine.registry.entries
    · have list : (engine.perform event).registry.mechlist = engine.registry.mechlist := by
        have before := (Bound.of_reachable reachable).listed
        have after := (Bound.of_reachable (reachable.perform event)).listed
        unfold Registry.Listed Registry.names at before after
        rw [before, after, changed]
      rw [news_of_same changed, list]
      exact informed connected
    · rw [news, if_pos ⟨connected, changed⟩]
      rfl

theorem Informed.performAll {engine : Engine D C} {sent : List Outbound}
    (informed : engine.Informed sent) (reachable : engine.Reachable) {events : List (Event D)}
    (accepted : engine.acceptsAll events = true) :
    (engine.performAll events).Informed (sent ++ engine.emitAll events) := by
  induction events generalizing engine sent with
  | nil =>
      rw [emitAll, List.append_nil]
      exact informed
  | cons event rest ih =>
      rw [acceptsAll, Bool.and_eq_true] at accepted
      rw [emitAll, ← List.append_assoc]
      exact ih (informed.perform reachable accepted.1) (reachable.perform event) accepted.2

/-- Nothing but the end of the burst connects the engine, and nothing disconnects it. -/
theorem connected_performAll {engine : Engine D C} (reachable : engine.Reachable)
    {events : List (Event D)} (accepted : engine.acceptsAll events = true)
    (burst : engine.connected = true ∨ .burst ∈ events) :
    (engine.performAll events).connected = true := by
  induction events generalizing engine with
  | nil => exact burst.resolve_right List.not_mem_nil
  | cons event rest ih =>
      rw [acceptsAll, Bool.and_eq_true] at accepted
      refine ih (reachable.perform event) accepted.2 ?_
      by_cases now : event = .burst
      · rw [now]
        exact .inl rfl
      · have same := (announcements_emit reachable accepted.1 now).1
        rw [same]
        refine burst.imp_right fun member => ?_
        exact (List.mem_cons.mp member).resolve_left (Ne.symm now)

/-- Unless SCRAM could not be configured, the network always knows the mechanisms: from the end of
the burst on the engine is connected, and what was announced last is the list as it is. To register,
to unregister and to configure announce the list exactly if this changes the table and the engine is
connected; nothing else changes the table, and only the end of the burst announces it again. -/
theorem network_informed {options : Options} {accounts : D} {credentials : C} {entropy : Entropy}
    {engine : Engine D C}
    (created : Engine.create options accounts credentials entropy = .ok engine)
    {events : List (Event D)} (accepted : engine.acceptsAll events = true) :
    let now := engine.performAll events
    (.burst ∈ events → now.connected = true ∧
      (announcements (engine.emitAll events)).getLast? = some now.registry.mechlist) ∧
    (∀ mechanism, (now.register mechanism).1 = now.news (now.register mechanism).2) ∧
    (∀ name, (now.unregister name).1 = now.news (now.unregister name).2) ∧
    (∀ settings frames after, now.configureScram settings = (.ok frames, after) →
      frames = now.news after) ∧
    (∀ server frame, announcements (now.handle server frame).1 = [] ∧
      (now.handle server frame).2.registry = now.registry) ∧
    (∀ uid, announcements (now.userIntroduced uid).1 = [] ∧
      (now.userIntroduced uid).2.registry = now.registry) ∧
    now.sweep.2.registry = now.registry := by
  have begun : engine.Reachable := .create created
  have disconnected : engine.connected = false := by
    unfold Engine.create at created
    split at created
    · cases created
      rfl
    · cases created
  have informed : engine.Informed [] := by
    intro connected
    rw [disconnected] at connected
    cases connected
  intro now
  have reachable : now.Reachable := begun.performAll events
  have bound := Bound.of_reachable reachable
  refine ⟨?_, now.fst_register, fst_unregister bound, ?_, announcements_handle reachable, ?_, rfl⟩
  · intro burst
    have connected : now.connected = true := connected_performAll begun accepted (.inr burst)
    exact ⟨connected, informed.performAll begun accepted connected⟩
  · intro settings frames after configured
    exact news_configureScram bound configured
  · intro uid
    exact ⟨now.announcements_userIntroduced uid, now.registry_userIntroduced uid⟩

end Engine

/-! ## A network that hears of three changes -/

/-- PLAIN is registered before the end of the burst. After it SCRAM is configured with one digest,
with the same again and with another, and PLAIN is unregistered twice. -/
def changingEvents : List (Engine.Event MemoryDirectory) :=
  [.registered .plain, .burst, .configured { digest := .sha256 },
   .configured { digest := .sha256 }, .configured { digest := .sha1 }, .unregistered "PLAIN",
   .unregistered "PLAIN"]

/-- The network hears of the list at the end of the burst and of each of the three changes. -/
theorem network_informed_changing :
    let now := waitingEngine.performAll changingEvents
    waitingEngine.acceptsAll changingEvents = true ∧
    announcements (waitingEngine.emitAll changingEvents) =
      ["PLAIN", "PLAIN,SCRAM-SHA-256", "PLAIN,SCRAM-SHA-1", "SCRAM-SHA-1"] ∧
    now.connected = true ∧ now.registry.mechlist = "SCRAM-SHA-1" ∧
    (now.register .plain).1 = [(now.register .plain).2.announcement] ∧
    (now.unregister "PLAIN").1 = [] := by
  intro now
  have created : Engine.create {} waitingAccounts ⟨{}⟩ (.arithmetic 0 []) = .ok waitingEngine := rfl
  have accepted : waitingEngine.acceptsAll changingEvents = true := by decide +kernel
  have heard : announcements (waitingEngine.emitAll changingEvents) =
      ["PLAIN", "PLAIN,SCRAM-SHA-256", "PLAIN,SCRAM-SHA-1", "SCRAM-SHA-1"] := by decide +kernel
  have added : (now.register .plain).2.registry.entries ≠ now.registry.entries := by
    decide +kernel
  have absent : (now.unregister "PLAIN").2.registry.entries = now.registry.entries := by
    decide +kernel
  obtain ⟨informed, registers, unregisters, -⟩ := Engine.network_informed created accepted
  obtain ⟨connected, current⟩ := informed (.tail _ (.head _))
  refine ⟨accepted, heard, connected, ?_, ?_, ?_⟩
  · rw [heard] at current
    exact (Option.some.inj current).symm
  · exact (registers .plain).trans (if_pos ⟨connected, added⟩)
  · exact (unregisters "PLAIN").trans (Engine.news_of_same absent)

end IrcSasl
