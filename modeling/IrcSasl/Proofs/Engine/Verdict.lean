import IrcSasl.Proofs.Engine.Turns
import IrcSasl.Proofs.Mechanism.Effects

set_option autoImplicit false

/-!
# What mechanisms come to

`Engine.verdict?` is what the mechanism that a frame asks comes to, whatever kind of mechanism it
is. `Engine.Asks.gives` says what becomes of the frame then, and `Engine.handle_unasked` that a
frame that asks no mechanism lets nobody log in and leaves the directory alone.
-/

namespace IrcSasl

variable {D C : Type}

namespace Engine

variable [AccountDirectory D] [CredentialStore C]

/-- What a mechanism comes to at a frame, if the frame asks one. -/
def verdict? (engine : Engine D C) (server : String) (frame : Inbound) :
    Option (Step × Context D C) :=
  (engine.sessionFor server frame).bind fun (session, middle) =>
    (middle.query? session frame).map fun query =>
      query.registration.turn (middle.context query.session) query.message

/-- A frame has found or begun its session, and has asked a mechanism in it, which has come to a
step. -/
structure Asks (engine : Engine D C) (server : String) (frame : Inbound) (session : Session)
    (middle : Engine D C) (query : Query) (step : Step) (after : Context D C) : Prop where
  entered : engine.sessionFor server frame = some (session, middle)
  enters : engine.Enters server frame session middle
  asked : middle.query? session frame = some query
  turned : query.registration.turn (middle.context query.session) query.message = (step, after)

theorem asks_of_verdict? {engine : Engine D C} (keyed : engine.Keyed) {server : String}
    {frame : Inbound} {step : Step} {after : Context D C}
    (verdict : engine.verdict? server frame = some (step, after)) :
    ∃ session middle query, engine.Asks server frame session middle query step after := by
  simp only [verdict?, Option.bind_eq_some_iff, Option.map_eq_some_iff] at verdict
  obtain ⟨⟨session, middle⟩, entered, query, asked, turned⟩ := verdict
  rcases engine.sessionFor_cases server frame keyed with ⟨none, -⟩ | ⟨own, before, some, enters⟩
  · rw [none] at entered
    cases entered
  · cases some.symm.trans entered
    exact ⟨session, middle, query, some, enters, asked, turned⟩

namespace Asks

variable {engine middle : Engine D C} {server : String} {frame : Inbound} {session : Session}
  {query : Query} {step : Step} {after : Context D C}

theorem keeps (asks : engine.Asks server frame session middle query step after) :
    (middle.context query.session).Keeps after := by
  have kept := query.registration.keeps_turn (middle.context query.session) query.message
  rw [asks.turned] at kept
  exact kept

theorem works (asks : engine.Asks server frame session middle query step after) :
    (middle.context query.session).Works after := by
  have works := query.registration.works_turn (middle.context query.session) query.message
  rw [asks.turned] at works
  exact works

theorem uid (asks : engine.Asks server frame session middle query step after) :
    after.session.info.uid = frame.session := by
  rw [asks.keeps.info]
  exact (poses_of_query? asks.asked).uid.trans asks.enters.uid

theorem selected (asks : engine.Asks server frame session middle query step after) :
    after.session.mechanism = some query.registration :=
  asks.keeps.mechanism.trans (poses_of_query? asks.asked).selected

/-- The login that waits is still the one that the frame has found. -/
theorem pending (asks : engine.Asks server frame session middle query step after) :
    after.session.pending = session.pending := by
  rw [asks.keeps.session]
  exact (poses_of_query? asks.asked).pending

/-- The mechanism has at most replaced stored hashes. -/
theorem rehashed (asks : engine.Asks server frame session middle query step after) :
    Rehashed engine.accounts after.accounts := by
  rw [← asks.enters.alike.accounts]
  exact asks.works.accounts

/-- What the mechanism has come to decides what becomes of the frame. -/
theorem gives (asks : engine.Asks server frame session middle query step after) :
    engine.Gives frame.session
      { Reply.ofStep after.accounts after.env.entropy after.session query.registration.name
          step with
        frames := (after.mechlist.map (.mechanismList frame.session)).toList ++
          (Reply.ofStep after.accounts after.env.entropy after.session query.registration.name
            step).frames }
      (engine.handle server frame) := by
  have given := handle_gives asks.entered asks.enters
  rw [reply_of_query? asks.asked] at given
  unfold turn at given
  rw [asks.turned, (poses_of_query? asks.asked).uid, asks.enters.uid] at given
  exact given

/-- A mechanism that is asked about a message is asked about the one that has arrived. -/
theorem arrival (asks : engine.Asks server frame session middle query step after)
    {message : Bytes} (complete : query.message = some message) :
    engine.arrival? frame = some ⟨query.session, query.registration, message⟩ := by
  have asked := asks.asked
  cases frame with
  | startAuth id name certfp =>
      simp only [query?] at asked
      split at asked
      · cases asked
      · obtain ⟨registration, -, rfl⟩ := Option.map_eq_some_iff.mp asked
        cases complete
  | clientData id data =>
      simp only [query?, Option.bind_eq_some_iff] at asked
      obtain ⟨registration, selected, asked⟩ := asked
      split at asked
      · next other decoder added =>
          cases asked
          cases complete
          cases found : engine.sessions.find? id with
          | none =>
              have idle : session = { info := { uid := id, server } } := asks.enters.fresh found
              rw [idle] at selected
              cases selected
          | some earlier =>
              obtain ⟨rfl, -⟩ := asks.enters.known earlier found
              exact arrival?_of_complete found selected added
      · cases asked
  | hostInfo id host ip secure => cases asked
  | done id => cases asked

/-- The mechanism that is asked is one that is offered. -/
theorem offered {offered : Mechanism → Prop}
    (asks : engine.Asks server frame session middle query step after)
    (sound : engine.Sound offered) : offered query.registration.mechanism := by
  have asked := asks.asked
  cases frame with
  | startAuth id name certfp =>
      simp only [query?] at asked
      split at asked
      · cases asked
      · obtain ⟨registration, found, rfl⟩ := Option.map_eq_some_iff.mp asked
        rw [asks.enters.alike.registry] at found
        exact sound.registry registration (List.mem_of_find?_eq_some found)
  | clientData id data =>
      simp only [query?, Option.bind_eq_some_iff] at asked
      obtain ⟨registration, selected, asked⟩ := asked
      split at asked
      · cases asked
        exact (sound.tidy_entered asks.enters).selected registration selected
      · cases asked
  | hostInfo id host ip secure => cases asked
  | done id => cases asked

/-- The engine that handles the frame runs the mechanism. -/
theorem handle_eq (asks : engine.Asks server frame session middle query step after) :
    ∃ sessions, engine.handle server frame =
      ({ middle with sessions } : Engine D C).run query.session query.message := by
  have asked := asks.asked
  unfold handle
  rw [asks.entered]
  cases frame with
  | startAuth id name certfp =>
      simp only [query?] at asked
      split at asked
      · cases asked
      · next proper =>
          obtain ⟨registration, found, rfl⟩ := Option.map_eq_some_iff.mp asked
          obtain ⟨short, idle⟩ := not_or.mp proper
          have idle : session.mechanism = none := by simpa using idle
          have idle : (session.presenting certfp).mechanism = none :=
            (session.mechanism_presenting certfp).trans idle
          have found : (middle.putSession (session.presenting certfp)).registry.find? name =
              some registration := found
          change ∃ sessions, middle.startAuth session name certfp = _
          rw [middle.startAuth_presenting]
          unfold startAuth
          simp only [if_neg short, idle, found]
          exact ⟨_, rfl⟩
  | clientData id data =>
      simp only [query?, Option.bind_eq_some_iff] at asked
      obtain ⟨registration, selected, asked⟩ := asked
      split at asked
      · next message decoder added =>
          cases asked
          simp only [clientData, selected, added]
          exact ⟨_, rfl⟩
      · cases asked
  | hostInfo id host ip secure => cases asked
  | done id => cases asked

end Asks

/-- A frame that asks no mechanism lets nobody log in, and leaves the directory and the logins that
wait as they are. -/
theorem handle_unasked {engine : Engine D C} (keyed : engine.Keyed) {server : String}
    {frame : Inbound} (unasked : engine.verdict? server frame = none) :
    (∀ id name, .login id name ∉ (engine.handle server frame).1) ∧
      (engine.handle server frame).2.accounts = engine.accounts := by
  rcases engine.sessionFor_cases server frame keyed with ⟨none, unknown⟩ | ⟨session, middle, some,
    enters⟩
  · have ignored : engine.handle server frame =
        ([], engine.note (.sessionUnknown frame.session)) := by
      simp only [handle, none]
    rw [ignored]
    exact ⟨fun _ _ => List.not_mem_nil, rfl⟩
  · have gives := handle_gives some enters
    have idle : Reply.Idle middle.accounts session (middle.reply session frame) := by
      refine idle_of_unasked ?_
      simpa only [verdict?, some, Option.bind_some, Option.map_eq_none_iff] using unasked
    rw [gives.frames, gives.accounts, idle.accounts, enters.alike.accounts]
    exact ⟨idle.frames, rfl⟩

/-- A client logs in only at a frame at which its mechanism succeeds, as the account that it is
granted. -/
theorem login_of_verdict? {engine : Engine D C} (keyed : engine.Keyed) {server id name : String}
    {frame : Inbound} (emitted : .login id name ∈ (engine.handle server frame).1) :
    id = frame.session ∧ ∃ session middle query after target,
      engine.Asks server frame session middle query .success after ∧
      after.session.granted after.accounts = some target ∧ name = target.name := by
  cases verdict : engine.verdict? server frame with
  | none =>
      obtain ⟨silent, -⟩ := handle_unasked keyed verdict
      exact absurd emitted (silent id name)
  | some result =>
      obtain ⟨step, after⟩ := result
      obtain ⟨session, middle, query, asks⟩ := asks_of_verdict? keyed verdict
      rw [asks.gives.frames] at emitted
      rcases List.mem_append.mp emitted with listed | emitted
      · simp at listed
      · obtain ⟨rfl, own, target, chosen, named⟩ := Reply.login_mem_ofStep emitted
        exact ⟨own.trans asks.uid, session, middle, query, after, target, asks, chosen, named⟩

/-! ## Reachable engines -/

/-- A new engine is here, or an event has led here from such an engine. -/
inductive Reachable : Engine D C → Prop where
  | create {options : Options} {accounts : D} {credentials : C} {entropy : Entropy}
      {engine : Engine D C}
      (created : Engine.create options accounts credentials entropy = .ok engine) :
      Reachable engine
  | perform {engine : Engine D C} (reachable : Reachable engine) (event : Event D) :
      Reachable (engine.perform event)

/-- Whatever its mechanisms are, a reachable engine is sound. -/
theorem Reachable.sound {engine : Engine D C} (reachable : engine.Reachable) :
    engine.Sound fun _ => True := by
  induction reachable with
  | create created => exact .create created
  | perform _ event sound => exact sound.perform event event.offers_any

/-- Lets events happen in order. -/
def performAll (engine : Engine D C) (events : List (Event D)) : Engine D C :=
  events.foldl perform engine

theorem performAll_append (engine : Engine D C) (early late : List (Event D)) :
    engine.performAll (early ++ late) = (engine.performAll early).performAll late :=
  List.foldl_append

theorem Reachable.performAll {engine : Engine D C} (reachable : engine.Reachable)
    (events : List (Event D)) : (engine.performAll events).Reachable := by
  induction events generalizing engine with
  | nil => exact reachable
  | cons event rest ih => exact ih (reachable.perform event)

end Engine

end IrcSasl
