import IrcSasl.Proofs.Engine.Faithful

set_option autoImplicit false

/-!
# Frames that ask a mechanism

A frame asks a mechanism to start or to take a step on a message, or it asks none
(`Engine.query?`). A standard mechanism is asked for a decision by the frames that complete a
message of its client. `Engine.decision?` is what it decides, and `Engine.handle_decided` what comes
of that. No other frame lets anybody log in or changes an account (`Engine.handle_undecided`).
-/

namespace IrcSasl

variable {D C : Type}

/-- What a mechanism is asked: to start in a session, or to take a step on a message. -/
structure Query where
  /-- The session, as the mechanism finds it. -/
  session : Session
  /-- The mechanism. -/
  registration : Registration
  /-- The message, or nothing if the mechanism is to start. -/
  message : Option Bytes

/-- A message of a client that has arrived completely. -/
structure Arrival where
  /-- The session, which has taken up the last frame of the message. -/
  session : Session
  /-- The mechanism that the message is for. -/
  registration : Registration
  /-- The message. -/
  message : Bytes

/-- A reply lets nobody log in, and leaves the accounts and the login that waits as they are. -/
structure Reply.Idle (accounts : D) (session : Session) (reply : Reply D) : Prop where
  frames : ∀ id name, .login id name ∉ reply.frames
  accounts : reply.accounts = accounts
  pending : ∀ after, reply.session = some after → after.pending = session.pending

/-- A reply that logs nobody in is idle if it keeps the accounts, and the session with the login
that waits in it. -/
theorem Reply.Idle.of_kept {accounts : D} {session kept : Session} {reply : Reply D}
    (frames : ∀ id name, .login id name ∉ reply.frames) (same : reply.accounts = accounts)
    (left : reply.session = some kept) (pending : kept.pending = session.pending) :
    reply.Idle accounts session := by
  refine ⟨frames, same, ?_⟩
  intro after found
  rw [← pending, Option.some.inj (left.symm.trans found)]

/-- A negotiation that fails leaves the login that waits. -/
theorem Session.pending_afterFailure {session after : Session}
    (left : session.afterFailure = some after) : after.pending = session.pending := by
  unfold Session.afterFailure at left
  split at left
  · cases left
    rfl
  · cases left

namespace Engine

/-- What a frame asks a mechanism in the session that it has found. -/
def query? (engine : Engine D C) (session : Session) : Inbound → Option Query
  | .startAuth _ name certfp =>
      if Limits.mechanismNameLength < name.utf8ByteSize ∨ session.mechanism.isSome then none
      else
        (engine.registry.find? name).map fun registration =>
          ⟨{ session.presenting certfp with mechanism := some registration }, registration, none⟩
  | .clientData _ data =>
      session.mechanism.bind fun registration =>
        match session.decoder.add (Bytes.ofString data) with
        | (.ok (.complete message), decoder) =>
            some ⟨{ session with decoder }, registration, some message⟩
        | _ => none
  | _ => none

/-- A session in which a mechanism is asked uses that mechanism, and is otherwise the session that
the frame has found. -/
structure Poses (session : Session) (query : Query) : Prop where
  selected : query.session.mechanism = some query.registration
  uid : query.session.info.uid = session.info.uid
  pending : query.session.pending = session.pending

theorem poses_of_query? {engine : Engine D C} {session : Session} {frame : Inbound} {query : Query}
    (asked : engine.query? session frame = some query) : Poses session query := by
  cases frame with
  | startAuth id name certfp =>
      simp only [query?] at asked
      split at asked
      · cases asked
      · obtain ⟨registration, -, rfl⟩ := Option.map_eq_some_iff.mp asked
        exact ⟨rfl, session.uid_presenting certfp, session.pending_presenting certfp⟩
  | clientData id data =>
      simp only [query?, Option.bind_eq_some_iff] at asked
      obtain ⟨registration, selected, asked⟩ := asked
      split at asked
      · cases asked
        exact ⟨selected, rfl, rfl⟩
      · cases asked
  | hostInfo id host ip secure => cases asked
  | done id => cases asked

/-- The message that a frame completes. -/
def arrival? (engine : Engine D C) : Inbound → Option Arrival
  | .clientData id data => do
      let session ← engine.sessions.find? id
      let registration ← session.mechanism
      match session.decoder.add (Bytes.ofString data) with
      | (.ok (.complete message), decoder) =>
          some ⟨{ session.unmarked with decoder }, registration, message⟩
      | _ => none
  | _ => none

variable [AccountDirectory D] [CredentialStore C]

/-- What a mechanism decides on a message that has arrived. -/
def decide (engine : Engine D C) (arrival : Arrival) : Step × Context D C :=
  arrival.registration.step (engine.context arrival.session) arrival.message

/-- What a mechanism decides at a frame, if the frame completes a message. -/
def decision? (engine : Engine D C) (inbound : Inbound) : Option (Step × Context D C) :=
  (engine.arrival? inbound).map engine.decide

theorem decision?_of_arrival {engine : Engine D C} {inbound : Inbound} {arrival : Arrival}
    (arrived : engine.arrival? inbound = some arrival) :
    engine.decision? inbound = some (engine.decide arrival) := by
  rw [decision?, arrived, Option.map_some]

omit [AccountDirectory D] [CredentialStore C] in
/-- Only a frame of data completes a message, and only in a session that has a mechanism. -/
theorem arrival?_eq_some {engine : Engine D C} {inbound : Inbound} {arrival : Arrival}
    (arrived : engine.arrival? inbound = some arrival) :
    ∃ data session decoder, inbound = .clientData inbound.session data ∧
      engine.sessions.find? inbound.session = some session ∧
      session.mechanism = some arrival.registration ∧
      session.decoder.add (Bytes.ofString data) = (.ok (.complete arrival.message), decoder) ∧
      arrival.session = { session.unmarked with decoder } := by
  cases inbound with
  | clientData id data =>
      simp only [arrival?, Option.bind_eq_bind, Option.bind_eq_some_iff] at arrived
      obtain ⟨session, found, registration, selected, arrived⟩ := arrived
      split at arrived
      · next message decoder added =>
          cases arrived
          exact ⟨data, session, decoder, rfl, found, selected, added, rfl⟩
      · cases arrived
  | _ => cases arrived

/-- A frame that completes a message comes to what its mechanism decides. -/
theorem handle_decided {engine : Engine D C} (keyed : engine.Keyed) (server : String)
    {inbound : Inbound} {arrival : Arrival} (arrived : engine.arrival? inbound = some arrival) :
    engine.Gives inbound.session (engine.turn arrival.session arrival.registration
      (some arrival.message)) (engine.handle server inbound) := by
  obtain ⟨data, session, decoder, frame, found, selected, added, fed⟩ := arrival?_eq_some arrived
  generalize inbound.session = id at frame found
  subst frame
  rcases engine.handle_cases server (.clientData id data) keyed with
    ⟨unknown, -⟩ | ⟨entered, middle, enters, gives⟩
  · rw [show (Inbound.clientData id data).session = id from rfl, found] at unknown
    cases unknown
  · obtain ⟨rfl, env⟩ := enters.known session found
    have completed : middle.reply session.unmarked (.clientData id data) =
        middle.turn arrival.session arrival.registration (some arrival.message) := by
      rw [fed]
      exact reply_complete selected added
    rw [completed] at gives
    have context : middle.context arrival.session = engine.context arrival.session := by
      unfold Engine.context
      rw [enters.alike.accounts, enters.alike.credentials, enters.alike.registry, env]
    unfold turn at gives ⊢
    rw [context] at gives
    exact gives

/-- A turn that has no list of mechanisms for the client comes to what its step does. -/
theorem turn_of_quiet {engine : Engine D C} {arrival : Arrival} {step : Step} {after : Context D C}
    (stepped : engine.decide arrival = (step, after)) (quiet : after.mechlist = none) :
    engine.turn arrival.session arrival.registration (some arrival.message) =
      .ofStep after.accounts after.env.entropy after.session arrival.registration.name step := by
  have taken : arrival.registration.turn (engine.context arrival.session) (some arrival.message) =
      (step, after) := stepped
  unfold turn
  rw [taken]
  simp only [quiet, Option.map_none, Option.toList_none, List.nil_append]

omit [AccountDirectory D] [CredentialStore C] in
theorem idle_refusal (engine : Engine D C) (session other : Session) :
    Reply.Idle engine.accounts other (engine.refusal session) := by
  refine ⟨?_, rfl, ?_⟩
  · intro id name member
    simp [refusal] at member
  · intro after left
    cases left

/-- A frame that asks a mechanism comes to a turn of the mechanism. -/
theorem reply_of_query? {engine : Engine D C} {session : Session} {frame : Inbound} {query : Query}
    (asked : engine.query? session frame = some query) :
    engine.reply session frame = engine.turn query.session query.registration query.message := by
  cases frame with
  | startAuth id name certfp =>
      simp only [query?] at asked
      split at asked
      · cases asked
      · next proper =>
          obtain ⟨registration, found, rfl⟩ := Option.map_eq_some_iff.mp asked
          obtain ⟨short, idle⟩ := not_or.mp proper
          have idle : session.mechanism = none := by simpa using idle
          simp only [reply, if_neg short, session.mechanism_presenting, idle, found]
  | clientData id data =>
      simp only [query?, Option.bind_eq_some_iff] at asked
      obtain ⟨registration, selected, asked⟩ := asked
      split at asked
      · next message decoder added =>
          cases asked
          exact reply_complete selected added
      · cases asked
  | hostInfo id host ip secure => cases asked
  | done id => cases asked

/-- A frame that asks no mechanism lets nobody log in. -/
theorem idle_of_unasked {engine : Engine D C} {session : Session} {frame : Inbound}
    (unasked : engine.query? session frame = none) :
    Reply.Idle engine.accounts session (engine.reply session frame) := by
  cases frame with
  | hostInfo id host ip secure => exact .of_kept (fun _ _ => List.not_mem_nil) rfl rfl rfl
  | startAuth id name certfp =>
      simp only [query?] at unasked
      simp only [reply]
      split
      · exact idle_refusal engine _ _
      · next short =>
          split
          · exact idle_refusal engine _ _
          · next idle =>
              rw [session.mechanism_presenting] at idle
              rw [if_neg (by simp [short, idle]), Option.map_eq_none_iff] at unasked
              rw [unasked]
              exact .of_kept (by simp) rfl rfl (session.pending_presenting certfp)
  | clientData id data =>
      simp only [query?] at unasked
      simp only [reply]
      split
      · exact idle_refusal engine _ _
      · next registration selected =>
          rw [selected, Option.bind_some] at unasked
          split
          · exact .of_kept (fun _ _ => List.not_mem_nil) rfl rfl rfl
          · next message decoder added =>
              rw [added] at unasked
              cases unasked
          · exact idle_refusal engine _ _
          · exact idle_refusal engine _ _
  | done id =>
      exact ⟨fun _ _ => List.not_mem_nil, rfl, fun after left => Session.pending_afterFailure left⟩

/-- When a standard mechanism is selected nothing is decided yet. -/
theorem idle_start (engine : Engine D C) (session : Session) {registration : Registration}
    (standard : registration.mechanism.isStandard = true) :
    Reply.Idle engine.accounts session (engine.turn session registration none) := by
  unfold turn
  simp only [Registration.turn]
  rcases registration.start_cases (engine.context session) standard with
    done | ⟨after, done, near⟩
  · rw [done]
    exact .of_kept (by simp [Reply.ofStep, context]) rfl rfl rfl
  · rw [done]
    refine ⟨?_, near.accounts, ?_⟩
    · intro id name member
      have quiet : after.mechlist = none := near.mechlist
      simp [Reply.ofStep, replyFrames, quiet] at member
    · intro left failed
      have failed : after.session.afterFailure = some left := failed
      rw [near.keeps.afterFailure] at failed
      exact Session.pending_afterFailure failed

/-- A frame that completes no message decides nothing. -/
theorem idle_reply {engine : Engine D C} {session : Session} {frame : Inbound}
    (registry : ∀ entry ∈ engine.registry.entries, entry.mechanism.Standard)
    (incomplete : ∀ id data message, frame = .clientData id data → session.mechanism.isSome →
      (session.decoder.add (Bytes.ofString data)).1 ≠ .ok (.complete message)) :
    Reply.Idle engine.accounts session (engine.reply session frame) := by
  cases asked : engine.query? session frame with
  | none => exact idle_of_unasked asked
  | some query =>
      rw [reply_of_query? asked]
      have pending := (poses_of_query? asked).pending
      cases frame with
      | startAuth id name certfp =>
          simp only [query?] at asked
          split at asked
          · cases asked
          · obtain ⟨registration, found, rfl⟩ := Option.map_eq_some_iff.mp asked
            have standard := registry registration (List.mem_of_find?_eq_some found)
            have started := engine.idle_start
              { session.presenting certfp with mechanism := some registration } standard
            exact ⟨started.frames, started.accounts,
              fun after left => (started.pending after left).trans pending⟩
      | clientData id data =>
          simp only [query?, Option.bind_eq_some_iff] at asked
          obtain ⟨registration, selected, asked⟩ := asked
          split at asked
          · next message decoder added =>
              have complete := incomplete id data message rfl (by rw [selected]; rfl)
              rw [added] at complete
              exact absurd rfl complete
          · cases asked
      | hostInfo id host ip secure => cases asked
      | done id => cases asked

omit [AccountDirectory D] [CredentialStore C] in
theorem arrival?_of_complete {engine : Engine D C} {id data : String} {session : Session}
    {registration : Registration} {message : Bytes} {decoder : Frame.Decoder}
    (found : engine.sessions.find? id = some session)
    (selected : session.mechanism = some registration)
    (added : session.decoder.add (Bytes.ofString data) = (.ok (.complete message), decoder)) :
    engine.arrival? (.clientData id data) =
      some ⟨{ session.unmarked with decoder }, registration, message⟩ := by
  simp only [arrival?, found, Option.bind_eq_bind, Option.bind_some]
  cases session with
  | mk info mechanism state decoder authc authz pending needLog marked =>
      cases selected
      simp only [Option.bind_some]
      simp only at added
      rw [added]

omit [AccountDirectory D] [CredentialStore C] in
/-- A login that waits in the session that a frame has found has waited there before. -/
theorem Enters.waited {engine middle : Engine D C} {server : String} {frame : Inbound}
    {session : Session} (enters : engine.Enters server frame session middle)
    {pending : PendingLogin} (waits : session.pending = some pending) :
    ∃ before, engine.sessions.find? frame.session = some before ∧
      before.pending = some pending := by
  rw [enters.same.2.1, Option.bind_eq_some_iff] at waits
  exact waits

/-- A frame that completes no message lets nobody log in, now or later, and leaves the accounts as
they are. -/
theorem handle_undecided {engine : Engine D C} (sound : engine.Sound Mechanism.Standard)
    (server : String) {inbound : Inbound} (undecided : engine.arrival? inbound = none) :
    (∀ id name, .login id name ∉ (engine.handle server inbound).1) ∧
      (engine.handle server inbound).2.accounts = engine.accounts ∧
      ∀ id after pending, (engine.handle server inbound).2.sessions.find? id = some after →
        after.pending = some pending →
        ∃ before, engine.sessions.find? id = some before ∧ before.pending = some pending := by
  rcases engine.handle_cases server inbound sound.keyed with
    ⟨unknown, frames, alike, sessions⟩ | ⟨session, middle, enters, gives⟩
  · rw [frames, alike.accounts, sessions]
    exact ⟨fun _ _ => List.not_mem_nil, rfl, fun _ after _ found same => ⟨after, found, same⟩⟩
  · have idle : Reply.Idle middle.accounts session (middle.reply session inbound) := by
      refine idle_reply ?_ ?_
      · rw [enters.alike.registry]
        exact sound.registry
      · rintro id data message rfl busy complete
        obtain ⟨registration, selected⟩ := Option.isSome_iff_exists.mp busy
        cases found : engine.sessions.find? id with
        | none =>
            rw [enters.fresh found] at selected
            cases selected
        | some earlier =>
            obtain ⟨rfl, -⟩ := enters.known earlier found
            have added : earlier.decoder.add (Bytes.ofString data) =
                (.ok (.complete message), (earlier.decoder.add (Bytes.ofString data)).2) :=
              Prod.ext complete rfl
            rw [arrival?_of_complete found selected added] at undecided
            cases undecided
    refine ⟨?_, ?_, ?_⟩
    · rw [gives.frames]
      exact idle.frames
    · rw [gives.accounts, idle.accounts, enters.alike.accounts]
    · intro id after pending left waits
      rw [gives.sessions id] at left
      split at left
      · next same =>
          rw [same]
          exact enters.waited ((idle.pending after left).symm.trans waits)
      · exact ⟨after, left, waits⟩

/-- Only a step that succeeds lets a client log in, as the account that it is granted. -/
theorem login_of_turn {engine : Engine D C} {session : Session} {registration : Registration}
    {message : Bytes} {id name : String}
    (emitted : .login id name ∈ (engine.turn session registration (some message)).frames) :
    id = session.info.uid ∧ ∃ after target,
      registration.step (engine.context session) message = (.success, after) ∧
      after.session.granted after.accounts = some target ∧ name = target.name := by
  have kept := registration.keeps_step (engine.context session) message
  unfold turn at emitted
  simp only [Registration.turn] at emitted
  cases stepped : registration.step (engine.context session) message with
  | mk step after =>
      rw [stepped] at emitted kept
      have info : after.session.info.uid = session.info.uid := by
        rw [kept.info]
        rfl
      rcases List.mem_append.mp emitted with listed | emitted
      · simp at listed
      · obtain ⟨rfl, own, target, chosen, named⟩ := Reply.login_mem_ofStep emitted
        exact ⟨own.trans info, after, target, rfl, chosen, named⟩

/-- A client logs in when a frame completes a message on which its mechanism succeeds. -/
theorem login_decided {engine : Engine D C} (sound : engine.Sound Mechanism.Standard)
    {server id name : String} {inbound : Inbound}
    (emitted : .login id name ∈ (engine.handle server inbound).1) :
    inbound.session = id ∧ ∃ after target, engine.decision? inbound = some (.success, after) ∧
      after.session.granted after.accounts = some target ∧ name = target.name := by
  cases arrived : engine.arrival? inbound with
  | none =>
      obtain ⟨silent, -⟩ := handle_undecided sound server arrived
      exact absurd emitted (silent id name)
  | some arrival =>
      rw [(handle_decided sound.keyed server arrived).frames] at emitted
      obtain ⟨own, after, target, stepped, chosen, named⟩ := login_of_turn emitted
      obtain ⟨data, session, decoder, -, found, -, -, fed⟩ := arrival?_eq_some arrived
      have uid : arrival.session.info.uid = inbound.session := by
        rw [fed]
        exact sound.keyed _ session found
      have decided : engine.decision? inbound = some (.success, after) :=
        (decision?_of_arrival arrived).trans (congrArg some stepped)
      exact ⟨(own.trans uid).symm, after, target, decided, chosen, named⟩

end Engine

/-! ## Reachable engines -/

variable [AccountDirectory D] [CredentialStore C]

/-- A run of a new engine that offers nothing but PLAIN, EXTERNAL and SCRAM leads here. -/
inductive Observed.Reachable : Observed D C → Prop where
  | run {options : Options} {accounts : D} {credentials : C} {entropy : Entropy}
      {engine : Engine D C}
      (created : Engine.create options accounts credentials entropy = .ok engine)
      (events : List (Engine.Event D))
      (offers : ∀ event ∈ events, event.Offers Mechanism.Standard) :
      Reachable ((Observed.opening engine).run events)

/-- Whether an event offers only PLAIN, EXTERNAL and SCRAM. -/
def Engine.Event.isStandard : Engine.Event D → Bool
  | .registered mechanism => mechanism.isStandard
  | _ => true

/-- A run of such events leads to a reachable engine. -/
theorem Observed.Reachable.of_all {options : Options} {accounts : D} {credentials : C}
    {entropy : Entropy} {engine : Engine D C} {events : List (Engine.Event D)}
    (created : Engine.create options accounts credentials entropy = .ok engine)
    (standard : events.all Engine.Event.isStandard = true) :
    Reachable ((Observed.opening engine).run events) := by
  refine .run created events ?_
  intro event member
  have standard := List.all_eq_true.mp standard event member
  cases event with
  | registered mechanism => exact standard
  | configured options => exact fun _ => rfl
  | _ => trivial

theorem Observed.Reachable.faithful {observed : Observed D C} (reachable : observed.Reachable) :
    observed.Faithful := by
  cases reachable with
  | run created events offers => exact (Observed.Faithful.opening created).run events offers

/-- The message that a frame has completed, with what was sent in answer. -/
def Observed.heard (observed : Observed D C) (server : String) (inbound : Inbound)
    (arrival : Arrival) : Message D C :=
  ⟨observed.engine, arrival.message, (observed.engine.handle server inbound).1⟩

/-- What a client has said explains the session that has taken up its message. -/
theorem Observed.Faithful.progress {observed : Observed D C} (faithful : observed.Faithful)
    {inbound : Inbound} {arrival : Arrival}
    (arrived : observed.engine.arrival? inbound = some arrival) :
    Progress inbound.session arrival.registration.mechanism (observed.dialogue inbound.session)
      arrival.session := by
  obtain ⟨data, session, decoder, -, found, selected, -, fed⟩ := Engine.arrival?_eq_some arrived
  rw [fed]
  exact (faithful.explained _ session _ found selected).progress.of_same rfl rfl rfl

/-- A frame that completes a message adds it to what the client has said. -/
theorem Observed.Faithful.messages {observed : Observed D C} (faithful : observed.Faithful)
    (server : String) {inbound : Inbound} {arrival : Arrival}
    (arrived : observed.engine.arrival? inbound = some arrival) :
    ((observed.perform (.frame server inbound)).dialogue inbound.session).messages =
      ((observed.dialogue inbound.session).answered
        (observed.heard server inbound arrival)).messages := by
  obtain ⟨data, session, decoder, frame, found, selected, added, -⟩ :=
    Engine.arrival?_eq_some arrived
  have explained := faithful.explained _ session arrival.registration found selected
  have heard : (observed.perform (.frame server inbound)).dialogue inbound.session =
      (observed.dialogue inbound.session).hear observed.engine server inbound.session data := by
    rw [frame]
    exact if_pos rfl
  rw [heard]
  unfold Dialogue.hear
  rw [← explained.decoder, added, ← frame]
  rfl

/-- A mechanism has decided at a frame, told from what the client has said: in its session, as it is
when it has taken up the frame, the mechanism takes a step on the message that the frame completes.
-/
structure Observed.Decided (observed : Observed D C) (server : String) (inbound : Inbound)
    (session fed : Session) (registration : Registration) (message : Message D C) (step : Step)
    (after : Context D C) : Prop where
  found : observed.engine.sessions.find? inbound.session = some session
  selected : session.mechanism = some registration
  standard : registration.mechanism.isStandard = true
  info : fed.info = session.info
  authc : fed.authc = session.authc
  progress : Progress inbound.session registration.mechanism (observed.dialogue inbound.session) fed
  heard : message.engine = observed.engine
  messages : ((observed.perform (.frame server inbound)).dialogue inbound.session).messages =
    ((observed.dialogue inbound.session).answered message).messages
  stepped : registration.step (observed.engine.context fed) message.bytes = (step, after)
  uid : after.session.info.uid = inbound.session
  left : (observed.dialogue inbound.session).found.bind Session.pending = none →
    (observed.dialogue inbound.session).leftAuthc = none ∧
      (observed.dialogue inbound.session).leftAuthz = none
  gives : after.mechlist = none →
    observed.engine.Gives inbound.session
      (.ofStep after.accounts after.env.entropy after.session registration.name step)
      (observed.engine.handle server inbound)

/-- Every decision is told from what the client has said. -/
theorem Observed.Faithful.decided {observed : Observed D C} (faithful : observed.Faithful)
    (server : String) {inbound : Inbound} {step : Step} {after : Context D C}
    (decided : observed.engine.decision? inbound = some (step, after)) :
    ∃ session fed registration message,
      observed.Decided server inbound session fed registration message step after := by
  obtain ⟨arrival, arrived, stepped⟩ := Option.map_eq_some_iff.mp decided
  obtain ⟨data, session, decoder, frame, found, selected, added, fed⟩ :=
    Engine.arrival?_eq_some arrived
  have explained := faithful.explained _ session arrival.registration found selected
  have info : arrival.session.info = session.info := by
    rw [fed]
    rfl
  refine ⟨session, arrival.session, arrival.registration,
    observed.heard server inbound arrival, found, selected,
    (faithful.sound.tidy _ session found).selected _ selected, info, ?_,
    faithful.progress arrived, rfl, faithful.messages server arrived, stepped, ?_, explained.left,
    ?_⟩
  · rw [fed]
    rfl
  · have kept := arrival.registration.keeps_step (observed.engine.context arrival.session)
      arrival.message
    unfold Engine.decide at stepped
    rw [stepped] at kept
    rw [kept.info]
    exact (congrArg SessionInfo.uid info).trans (faithful.sound.keyed _ session found)
  · intro quiet
    have gives := Engine.handle_decided faithful.sound.keyed server arrived
    rw [Engine.turn_of_quiet stepped quiet] at gives
    exact gives

namespace Observed.Decided

variable {observed : Observed D C} {server : String} {inbound : Inbound} {session fed : Session}
  {registration : Registration} {message : Message D C} {step : Step} {after : Context D C}

/-- What has been decided is right by what the client has said. -/
theorem verdict
    (decided : observed.Decided server inbound session fed registration message step after) :
    Verdict inbound.session registration.mechanism (observed.dialogue inbound.session)
      session.info.certfp message after step := by
  have alike : message.engine.Alike observed.engine := by
    rw [decided.heard]
    exact .refl observed.engine
  have verdict := decided.progress.verdict decided.standard alike decided.stepped
  rw [decided.info] at verdict
  exact verdict

/-- Only a login that waits can have left somebody in the session. -/
theorem waits
    (decided : observed.Decided server inbound session fed registration message step after)
    (left : (observed.dialogue inbound.session).leftAuthc.isSome ∨
      (observed.dialogue inbound.session).leftAuthz.isSome) :
    ((observed.dialogue inbound.session).found.bind Session.pending).isSome := by
  cases waits : (observed.dialogue inbound.session).found.bind Session.pending with
  | some pending => rfl
  | none =>
      obtain ⟨authc, authz⟩ := decided.left waits
      rw [authc, authz] at left
      rcases left with absurd | absurd
      · cases absurd
      · cases absurd

end Observed.Decided

end IrcSasl
