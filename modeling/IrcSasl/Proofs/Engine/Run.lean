import IrcSasl.Proofs.Engine.Registry
import IrcSasl.Proofs.Engine.Reply
import IrcSasl.Proofs.Frames

set_option autoImplicit false

/-!
# Runs

Everything that can happen to an engine is an event, and a run is a list of events. Beside the
engine a run keeps, for every session, what its client has said since it last asked for a mechanism:
a `Dialogue` listens to the frames alone and knows nothing of the engine's own buffers. What holds
of every engine that a run can reach is collected in `Engine.Sound`.
-/

namespace IrcSasl

/-- Whether a mechanism is PLAIN, EXTERNAL or SCRAM. -/
def Mechanism.isStandard : Mechanism → Bool
  | .plain | .external | .scram _ => true
  | .scripted _ | .inert _ => false

variable {D C : Type}

namespace Engine

/-- What can happen to an engine. -/
inductive Event (D : Type) where
  /-- The uplink sends a frame for a server. -/
  | frame (server : String) (inbound : Inbound)
  /-- A client arrives on the network. -/
  | introduced (uid : String)
  /-- The uplink finishes its burst. -/
  | burst
  /-- A mechanism is registered. -/
  | registered (mechanism : Mechanism)
  /-- A mechanism is unregistered. -/
  | unregistered (name : String)
  /-- The SCRAM mechanism is configured. -/
  | configured (options : HashOptions)
  /-- Idle sessions are swept. -/
  | swept
  /-- The account directory changes. -/
  | directory (change : D → D)
  /-- Somebody else draws random bytes. -/
  | drawn (length : Nat)

/-- Whether an event offers only certain mechanisms. -/
def Event.Offers (offered : Mechanism → Prop) : Event D → Prop
  | .registered mechanism => offered mechanism
  | .configured _ => ∀ server, offered (.scram server)
  | _ => True

/-- Every event offers what may be offered without restriction. -/
theorem Event.offers_any (event : Event D) : event.Offers fun _ => True := by
  cases event with
  | configured options => exact fun _ => trivial
  | _ => trivial

variable [AccountDirectory D] [CredentialStore C]

/-- What an event does to an engine. -/
def perform (engine : Engine D C) : Event D → Engine D C
  | .frame server inbound => (engine.handle server inbound).2
  | .introduced uid => (engine.userIntroduced uid).2
  | .burst => engine.serverEob.2
  | .registered mechanism => (engine.register mechanism).2
  | .unregistered name => (engine.unregister name).2
  | .configured options => (engine.configureScram options).2
  | .swept => engine.sweep.2
  | .directory change => { engine with accounts := change engine.accounts }
  | .drawn length => { engine with env := (engine.env.draw length).2 }

end Engine

/-! ## What clients say -/

/-- A complete message of a client. -/
structure Message (D C : Type) where
  /-- The engine as the last frame of the message has found it. -/
  engine : Engine D C
  /-- The message. -/
  bytes : Bytes
  /-- What was sent in answer. -/
  answer : List Outbound

/-- What a client has said since it last asked for a mechanism. -/
structure Dialogue (D C : Type) where
  /-- The session that the request has found. -/
  found : Option Session := none
  /-- The frames of the message that is not complete yet. -/
  decoder : Frame.Decoder := .fresh
  /-- The complete messages, oldest first. -/
  messages : List (Message D C) := []

namespace Dialogue

variable [AccountDirectory D] [CredentialStore C]

/-- Listens to a frame of data. -/
def hear (dialogue : Dialogue D C) (engine : Engine D C) (server id data : String) :
    Dialogue D C :=
  match dialogue.decoder.add (Bytes.ofString data) with
  | (.ok (.complete bytes), decoder) =>
      { dialogue with
        decoder
        messages := dialogue.messages ++
          [⟨engine, bytes, (engine.handle server (.clientData id data)).1⟩] }
  | (_, decoder) => { dialogue with decoder }

/-- Listens to an event for the client of a session. -/
def observe (dialogue : Dialogue D C) (id : String) (engine : Engine D C) :
    Engine.Event D → Dialogue D C
  | .frame server (.clientData session data) =>
      if session = id then dialogue.hear engine server id data else dialogue
  | .frame _ (.startAuth session _ _) =>
      if session = id then { found := engine.sessions.find? id } else dialogue
  | _ => dialogue

end Dialogue

/-- An engine together with what the clients of its sessions have said. -/
structure Observed (D C : Type) where
  /-- The engine. -/
  engine : Engine D C
  /-- The dialogue of each session. -/
  dialogue : String → Dialogue D C

namespace Observed

/-- An engine whose clients have said nothing. -/
def opening (engine : Engine D C) : Observed D C := ⟨engine, fun _ => {}⟩

variable [AccountDirectory D] [CredentialStore C]

/-- Lets an event happen. -/
def perform (observed : Observed D C) (event : Engine.Event D) : Observed D C where
  engine := observed.engine.perform event
  dialogue := fun id => (observed.dialogue id).observe id observed.engine event

/-- Lets events happen in order. -/
def run (observed : Observed D C) (events : List (Engine.Event D)) : Observed D C :=
  events.foldl perform observed

/-- What the first engine has and every event of a kind keeps holds after every run of such events.
-/
theorem run_invariant {allowed : Engine.Event D → Prop} {holds : Observed D C → Prop}
    (keeps : ∀ observed event, allowed event → holds observed → holds (observed.perform event))
    {observed : Observed D C} (initially : holds observed) (events : List (Engine.Event D))
    (all : ∀ event ∈ events, allowed event) : holds (observed.run events) := by
  induction events generalizing observed with
  | nil => exact initially
  | cons event rest ih =>
      exact ih (keeps observed event (all event List.mem_cons_self) initially)
        fun later member => all later (List.mem_cons_of_mem _ member)

end Observed

/-! ## Events other than frames -/

namespace Engine

/-- The sessions of one engine stand in another one, and what it offers was offered there or may be
offered. -/
structure Descends (offered : Mechanism → Prop) (before after : Engine D C) : Prop where
  sessions : SessionStore.Survive before.sessions after.sessions
  registry : ∀ entry ∈ after.registry.entries,
    entry ∈ before.registry.entries ∨ offered entry.mechanism

namespace Descends

variable {offered : Mechanism → Prop}

theorem refl (engine : Engine D C) : Descends offered engine engine :=
  ⟨.refl _, fun _ member => .inl member⟩

theorem trans {first second third : Engine D C} (early : Descends offered first second)
    (late : Descends offered second third) : Descends offered first third := by
  refine ⟨early.sessions.trans late.sessions, ?_⟩
  intro entry member
  rcases late.registry entry member with earlier | new
  · exact early.registry entry earlier
  · exact .inr new

theorem of_note (engine : Engine D C) (event : Log.Event) :
    Descends offered engine (engine.note event) :=
  ⟨.refl _, fun _ member => .inl member⟩

/-- A mechanism that is added may be offered. -/
theorem add (engine : Engine D C) {mechanism : Mechanism} (allowed : offered mechanism) :
    Descends offered engine (engine.add mechanism).2 := by
  refine ⟨.refl _, ?_⟩
  intro entry member
  change entry ∈ (engine.registry.register mechanism engine.env).2.1.entries at member
  rcases engine.registry.register_cases mechanism engine.env with same | ⟨-, added⟩
  · rw [same] at member
    exact .inl member
  · rw [added] at member
    rcases List.mem_append.mp member with old | new
    · exact .inl old
    · rw [List.mem_singleton.mp new]
      exact .inr allowed

theorem remove (engine : Engine D C) (name : String) :
    Descends offered engine (engine.remove name).2 := by
  unfold Engine.remove
  cases engine.registry.find? name with
  | none => exact .refl engine
  | some _ =>
      refine ⟨.destroyAll _ _ _ _, ?_⟩
      intro entry member
      unfold Registry.unregister at member
      simp only at member
      split at member
      · exact .inl member
      · exact .inl (List.mem_of_mem_eraseP member)

theorem register (engine : Engine D C) {mechanism : Mechanism} (allowed : offered mechanism) :
    Descends offered engine (engine.register mechanism).2 := by
  rw [snd_register]
  exact add engine allowed

theorem unregister (engine : Engine D C) (name : String) :
    Descends offered engine (engine.unregister name).2 := by
  rw [snd_unregister]
  exact remove engine name

theorem ensureScram (engine : Engine D C) (options : HashOptions)
    (allowed : ∀ server, offered (.scram server)) :
    Descends offered engine (engine.ensureScram options).2 := by
  rcases engine.ensureScram_cases options with ⟨entry, -, kept⟩ | ⟨-, ⟨env, failed⟩ |
    ⟨server, env, -, -, -, added⟩⟩
  · rw [kept]
    exact .refl engine
  · rw [failed]
    exact ⟨.refl _, fun _ member => .inl member⟩
  · rw [added]
    have drawn : Descends offered engine { engine with env } :=
      ⟨.refl _, fun _ member => .inl member⟩
    exact drawn.trans (add _ (allowed server))

theorem configureScram (engine : Engine D C) (options : HashOptions)
    (allowed : ∀ server, offered (.scram server)) :
    Descends offered engine (engine.configureScram options).2 := by
  refine configureScram_invariant ?_ ?_ ?_ (refl engine)
  · exact fun middle early => early.trans (.of_note middle _)
  · exact fun middle digest _ early => early.trans (remove middle digest.scramName)
  · exact fun middle early => early.trans (ensureScram middle options allowed)

variable [AccountDirectory D]

theorem userIntroduced (engine : Engine D C) (keyed : engine.Keyed) (uid : String) :
    Descends offered engine (engine.userIntroduced uid).2 := by
  unfold Engine.userIntroduced
  cases found : engine.sessions.find? uid with
  | none => exact .refl engine
  | some session =>
      have same : session.info.uid = uid := keyed uid session found
      have destroyed : Descends offered engine
          ((engine.putSession { session with needLog := false, pending := none }).destroySession
            uid) := by
        refine ⟨?_, fun _ member => .inl member⟩
        intro id survivor foundSurvivor
        rw [find?_destroySession, find?_putSession, same] at foundSurvivor
        split at foundSurvivor
        · cases foundSurvivor
        · exact ⟨survivor, foundSurvivor, rfl⟩
      simp only
      cases session.pending with
      | none => exact destroyed
      | some pending =>
          simp only
          split
          · exact destroyed
          · obtain ⟨-, sessions, -, registry, -⟩ := applyLogin_alike
              ((engine.putSession { session with needLog := false, pending := none }).destroySession
                uid) uid pending.account pending.mechanism
            refine ⟨?_, ?_⟩
            · rw [sessions]
              exact destroyed.sessions
            · rw [registry]
              exact destroyed.registry

variable [CredentialStore C]

/-- An event other than a frame destroys sessions or marks them, and changes them in no other way.
-/
theorem perform (engine : Engine D C) (keyed : engine.Keyed) (event : Event D)
    (offers : event.Offers offered) (other : ∀ server inbound, event ≠ .frame server inbound) :
    Descends offered engine (engine.perform event) := by
  cases event with
  | frame server inbound => exact absurd rfl (other server inbound)
  | introduced uid => exact userIntroduced engine keyed uid
  | burst => exact ⟨.refl _, fun _ member => .inl member⟩
  | registered mechanism => exact register engine offers
  | unregistered name => exact unregister engine name
  | configured options => exact configureScram engine options offers
  | swept => exact ⟨.sweep _ _, fun _ member => .inl member⟩
  | directory change => exact ⟨.refl _, fun _ member => .inl member⟩
  | drawn length => exact ⟨.refl _, fun _ member => .inl member⟩

end Descends

end Engine

end IrcSasl
