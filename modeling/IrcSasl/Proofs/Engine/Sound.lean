import IrcSasl.Proofs.Engine.Run

set_option autoImplicit false

/-!
# Sound engines

What holds of every engine that a run can reach, whatever its mechanisms are: sessions stand under
their own identifiers, a session without a mechanism has nothing left over in its buffer or in what
mechanisms keep, and only a login that waits lets identities stay in it (`Session.Tidy`). Every
event keeps this (`Engine.Sound.perform`).
-/

namespace IrcSasl

variable {D C : Type} {offered : Mechanism → Prop}

/-- A session that stands under its identifier, uses only what is offered, and has nothing left over
from earlier negotiations but the identities of a login that waits. -/
structure Session.Tidy (offered : Mechanism → Prop) (id : String) (session : Session) : Prop where
  uid : session.info.uid = id
  decoder : session.decoder.clear = .fresh
  selected : ∀ registration, session.mechanism = some registration → offered registration.mechanism
  idle : session.mechanism = none → session.state = none ∧ session.decoder = .fresh
  unresolved : session.mechanism = none → session.pending = none →
    session.authc = none ∧ session.authz = none

namespace Session.Tidy

variable {id : String} {session : Session}

theorem new (id server : String) : Tidy offered id { info := { uid := id, server } } :=
  ⟨rfl, rfl, fun _ absurd => (by cases absurd), fun _ => ⟨rfl, rfl⟩, fun _ _ => ⟨rfl, rfl⟩⟩

theorem mark (tidy : session.Tidy offered id) (marked : Bool) :
    Tidy offered id { session with marked } :=
  ⟨tidy.uid, tidy.decoder, tidy.selected, tidy.idle, tidy.unresolved⟩

theorem presenting (tidy : session.Tidy offered id) (certfp : Option String) :
    (session.presenting certfp).Tidy offered id := by
  cases certfp with
  | none => exact tidy
  | some certfp => exact ⟨tidy.uid, tidy.decoder, tidy.selected, tidy.idle, tidy.unresolved⟩

theorem hostInfo (tidy : session.Tidy offered id) (host ip : String) (secure : Bool) :
    (Engine.hostInfo session host ip secure).Tidy offered id := by
  refine ⟨?_, tidy.decoder, tidy.selected, tidy.idle, tidy.unresolved⟩
  rw [← tidy.uid]
  unfold Engine.hostInfo
  simp only
  split <;> rfl

theorem deferred (tidy : session.Tidy offered id) (target : Identity) (mechanism : String) :
    (session.deferred target mechanism).Tidy offered id :=
  ⟨tidy.uid, tidy.decoder, fun _ absurd => (by cases absurd), fun _ => ⟨rfl, tidy.decoder⟩,
    fun _ absurd => (by cases absurd)⟩

/-- A mechanism that is offered is selected. -/
theorem select (tidy : session.Tidy offered id) {registration : Registration}
    (allowed : offered registration.mechanism) :
    Tidy offered id { session with mechanism := some registration } := by
  refine ⟨tidy.uid, tidy.decoder, ?_, fun absurd => (by cases absurd),
    fun absurd => (by cases absurd)⟩
  rintro _ ⟨⟩
  exact allowed

/-- A session that uses a mechanism takes up data. -/
theorem feed (tidy : session.Tidy offered id) {registration : Registration}
    (selected : session.mechanism = some registration) {frame : Bytes}
    {answer : Except Frame.FrameError Frame.Decoded} {decoder : Frame.Decoder}
    (added : session.decoder.add frame = (answer, decoder)) :
    Tidy offered id { session with decoder } := by
  have limits := session.decoder.clear_add frame
  rw [added] at limits
  refine ⟨tidy.uid, limits.trans tidy.decoder, tidy.selected, ?_, ?_⟩
  · rw [selected]
    exact fun absurd => by cases absurd
  · rw [selected]
    exact fun absurd => by cases absurd

/-- A negotiation that fails leaves nothing. -/
theorem afterFailure (tidy : session.Tidy offered id) {after : Session}
    (left : session.afterFailure = some after) : after.Tidy offered id := by
  unfold Session.afterFailure at left
  split at left
  · cases left
    exact ⟨tidy.uid, tidy.decoder, fun _ absurd => (by cases absurd),
      fun _ => ⟨rfl, tidy.decoder⟩, fun _ _ => ⟨rfl, rfl⟩⟩
  · cases left

/-- A session that a mechanism is in use in stays tidy while the mechanism works. -/
theorem kept {before after : Context D C} (kept : before.Keeps after)
    (tidy : before.session.Tidy offered id) {registration : Registration}
    (busy : before.session.mechanism = some registration) : after.session.Tidy offered id := by
  have used : after.session.mechanism = some registration := kept.mechanism.trans busy
  refine ⟨?_, ?_, ?_, ?_, ?_⟩
  · rw [kept.info]
    exact tidy.uid
  · rw [kept.decoder]
    exact tidy.decoder
  · rw [kept.mechanism]
    exact tidy.selected
  · rw [used]
    exact fun absurd => by cases absurd
  · rw [used]
    exact fun absurd => by cases absurd

end Session.Tidy

variable [AccountDirectory D]

/-- What becomes of a tidy session after a step is tidy. -/
theorem Reply.tidy_ofStep {accounts : D} {entropy : Entropy} {id : String} {session after : Session}
    {mechanism : String} {step : Step} (tidy : session.Tidy offered id)
    (left : (Reply.ofStep accounts entropy session mechanism step).session = some after) :
    after.Tidy offered id := by
  cases step with
  | more data =>
      cases left
      exact tidy
  | success =>
      simp only [Reply.ofStep] at left
      split at left
      · exact tidy.afterFailure left
      · next target _ =>
          split at left
          · cases left
          · cases left
            exact tidy.deferred target.identity mechanism
  | failure reply => exact tidy.afterFailure left
  | refused reply => exact tidy.afterFailure left

variable [CredentialStore C]

namespace Engine

theorem tidy_turn {engine : Engine D C} {id : String} {session after : Session}
    {registration : Registration} {message : Option Bytes} (tidy : session.Tidy offered id)
    (selected : session.mechanism = some registration)
    (left : (engine.turn session registration message).session = some after) :
    after.Tidy offered id := by
  have kept := registration.keeps_turn (engine.context session) message
  have tidy : (registration.turn (engine.context session) message).2.session.Tidy offered id :=
    .kept kept tidy selected
  exact Reply.tidy_ofStep tidy left

/-- What a frame makes of a tidy session is tidy. -/
theorem tidy_reply {engine : Engine D C} {session after : Session} {frame : Inbound}
    (registry : ∀ entry ∈ engine.registry.entries, offered entry.mechanism)
    (tidy : session.Tidy offered frame.session)
    (left : (engine.reply session frame).session = some after) :
    after.Tidy offered frame.session := by
  cases left_of_reply left with
  | told id host ip secure => exact tidy.hostInfo host ip secure
  | @unregistered id name certfp idle => exact tidy.presenting certfp
  | @started id name certfp registration after idle found left =>
      exact tidy_turn ((tidy.presenting certfp).select
        (registry registration (List.mem_of_find?_eq_some found))) rfl left
  | fed selected added => exact tidy.feed selected added
  | stepped selected added left => exact tidy_turn (tidy.feed selected added) selected left
  | stopped left => exact tidy.afterFailure left

/-- What holds of every engine that a run can reach. -/
structure Sound (offered : Mechanism → Prop) (engine : Engine D C) : Prop where
  registry : ∀ entry ∈ engine.registry.entries, offered entry.mechanism
  tidy : ∀ id session, engine.sessions.find? id = some session → session.Tidy offered id

namespace Sound

omit [AccountDirectory D] [CredentialStore C] in
theorem keyed {engine : Engine D C} (sound : engine.Sound offered) : engine.Keyed :=
  fun id session found => (sound.tidy id session found).uid

omit [AccountDirectory D] [CredentialStore C] in
/-- A new engine has no sessions and offers nothing. -/
theorem create {options : Options} {accounts : D} {credentials : C} {entropy : Entropy}
    {engine : Engine D C}
    (created : Engine.create options accounts credentials entropy = .ok engine) :
    engine.Sound offered := by
  unfold Engine.create at created
  split at created
  · cases created
    refine ⟨?_, ?_⟩
    · intro entry member
      cases member
    · intro id session found
      cases found
  · cases created

omit [AccountDirectory D] [CredentialStore C] in
theorem descends {before after : Engine D C} (sound : before.Sound offered)
    (descends : Descends offered before after) : after.Sound offered := by
  refine ⟨?_, ?_⟩
  · intro entry member
    rcases descends.registry entry member with earlier | new
    · exact sound.registry entry earlier
    · exact new
  · intro id session found
    obtain ⟨earlier, foundEarlier, same⟩ := descends.sessions id session found
    rw [same]
    exact (sound.tidy id earlier foundEarlier).mark session.marked

omit [AccountDirectory D] [CredentialStore C] in
/-- The session that a frame finds or begins is tidy. -/
theorem tidy_entered {engine middle : Engine D C} (sound : engine.Sound offered) {server : String}
    {frame : Inbound} {session : Session} (enters : engine.Enters server frame session middle) :
    session.Tidy offered frame.session := by
  cases found : engine.sessions.find? frame.session with
  | none =>
      rw [enters.fresh found]
      exact .new _ _
  | some earlier =>
      obtain ⟨rfl, -⟩ := enters.known earlier found
      exact (sound.tidy _ earlier found).mark false

theorem handle {engine : Engine D C} (sound : engine.Sound offered) (server : String)
    (frame : Inbound) : (engine.handle server frame).2.Sound offered := by
  rcases engine.handle_cases server frame sound.keyed with
    ⟨-, -, alike, sessions⟩ | ⟨session, middle, enters, gives⟩
  · refine ⟨?_, ?_⟩
    · rw [alike.registry]
      exact sound.registry
    · rw [sessions]
      exact sound.tidy
  · refine ⟨?_, ?_⟩
    · rw [gives.registry]
      exact sound.registry
    · intro id after found
      rw [gives.sessions id] at found
      split at found
      · next same =>
          rw [same]
          refine tidy_reply ?_ (sound.tidy_entered enters) found
          rw [enters.alike.registry]
          exact sound.registry
      · exact sound.tidy id after found

/-- Every event keeps an engine sound. -/
theorem perform {engine : Engine D C} (sound : engine.Sound offered) (event : Event D)
    (offers : event.Offers offered) : (engine.perform event).Sound offered := by
  by_cases framed : ∃ server inbound, event = .frame server inbound
  · obtain ⟨server, inbound, rfl⟩ := framed
    exact sound.handle server inbound
  · refine sound.descends (.perform engine sound.keyed event offers ?_)
    intro server inbound same
    exact framed ⟨server, inbound, same⟩

end Sound

end Engine

end IrcSasl
