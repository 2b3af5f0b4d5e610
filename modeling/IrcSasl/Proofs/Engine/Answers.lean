import IrcSasl.Proofs.Engine.Binding
import IrcSasl.Proofs.Engine.Deferred
import IrcSasl.Proofs.Engine.Policy

set_option autoImplicit false

/-!
# What frames are answered with

The frames that one frame is answered with have one of a few shapes, and the shape tells what has
become of the session (`Engine.Answers`). So the end of a negotiation is told to the client once, or
it was brought about by something else than an answer (`Engine.answers_disciplined`).
-/

namespace IrcSasl

/-! ## Answers -/

/-- The session that a frame to the uplink is about. -/
def Outbound.session? : Outbound → Option String
  | .networkMechanismList _ => none
  | .mechanismList session _ | .serverData session _ | .outcome session _ | .login session _
  | .notice session _ => some session

/-- Whether a frame tells how the negotiation of a session has ended. -/
def Outbound.isOutcome (id : String) : Outbound → Bool
  | .outcome session _ => session = id
  | _ => false

/-- What a mechanism has sent before it has come to a step, and the data that it has to say. -/
def Outbound.spoken (id : String) (listed : Option String) (chunks : List String) : List Outbound :=
  (listed.map (.mechanismList id)).toList ++ chunks.map (.serverData id)

/-- A session that only waits for its client to log in. -/
structure Session.Waiting (session : Session) : Prop where
  pending : session.pending.isSome
  mechanism : session.mechanism = none
  state : session.state = none
  authc : session.authc = none
  authz : session.authz = none
  buffer : session.decoder.buffer = []

theorem Session.Waiting.afterFailure {session after : Session}
    (left : session.afterFailure = some after) :
    after.Waiting ∧ after.pending = session.pending := by
  unfold Session.afterFailure at left
  split at left
  · next waits =>
      cases left
      exact ⟨⟨waits, rfl, rfl, rfl, rfl, rfl⟩, rfl⟩
  · cases left

variable {D C : Type}

/-- Of the mechanisms PLAIN, EXTERNAL and SCRAM none lists the mechanisms and then succeeds. -/
theorem Registration.mechlist_of_success [AccountDirectory D] [CredentialStore C]
    {registration : Registration} {before after : Context D C} {message : Option Bytes}
    (standard : registration.mechanism.isStandard = true)
    (turned : registration.turn before message = (.success, after)) :
    after.mechlist = before.mechlist := by
  cases message with
  | none =>
      rcases registration.start_cases before standard with done | ⟨middle, done, -⟩
      · cases done.symm.trans turned
      · cases done.symm.trans turned
  | some message =>
      simp only [turn, step] at turned
      split at turned
      · obtain ⟨step, middle, result, near, -⟩ := Plain.step_cases before message
        cases result.symm.trans turned
        exact near.mechlist
      · obtain ⟨step, middle, result, near, -⟩ := External.step_cases before message
        cases result.symm.trans turned
        exact near.mechlist
      · next server scram =>
          unfold Scram.Server.step at turned
          split at turned
          · obtain ⟨step, middle, result, -, -, cases⟩ := server.clientFirst_cases before message
            cases result.symm.trans turned
            rcases cases with ⟨reply, absurd⟩ | ⟨_, _, _, _, -, -, -, -, -, absurd⟩
            · cases absurd
            · cases absurd
          · split at turned
            · obtain ⟨step, middle, result, -, -, -, mechlist, -⟩ :=
                Scram.acknowledge_cases before _
              cases result.symm.trans turned
              exact mechlist
            · obtain ⟨step, middle, result, -, -, -, -, mechlist, -⟩ :=
                Scram.clientFinal_cases before _ message
              cases result.symm.trans turned
              exact mechlist
          · cases turned
      · next script scripted =>
          rw [scripted] at standard
          cases standard
      · cases turned

/-- A message has a frame, even if it is empty. -/
theorem Frame.ofMessage_ne_nil (message : Bytes) : ofMessage message ≠ [] := by
  obtain ⟨full, tail, -, -, -, -, frames⟩ :=
    @toList_ofMessage Limits.frameLength (by decide) (by decide) message
  rw [ofMessage, frames]
  simp

namespace Engine

/-- The name of the mechanism that a frame asks for, or that its data is for. -/
def addressed? (engine : Engine D C) : Inbound → Option String
  | .startAuth _ name _ => some name
  | .clientData id _ => (engine.sessions.find? id).bind Session.mechanismName
  | .hostInfo .. | .done _ => none

/-- A mechanism has come to a step at a frame, or the session was ended: with data for the client,
with a failure, or with a login that is applied at once or waits for the client. Before a login only
certain mechanisms list the mechanisms. -/
inductive Concludes [AccountDirectory D] (listing : String → Prop) (engine : Engine D C)
    (frame : Inbound) (result : List Outbound × Engine D C) : Prop where
  | data (listed : Option String) (chunks : List String) {session : Session} (some : chunks ≠ [])
      (frames : result.1 = Outbound.spoken frame.session listed chunks)
      (left : result.2.sessions.find? frame.session = .some session)
      (busy : session.mechanism.isSome)
  | failure (listed : Option String) (chunks : List String)
      (frames : result.1 =
        Outbound.spoken frame.session listed chunks ++ [.outcome frame.session .failure])
      (left : ∀ session, result.2.sessions.find? frame.session = some session →
        session.Waiting ∧
          session.pending = (engine.sessions.find? frame.session).bind Session.pending)
  | success (listed : Option String) {mechanism : String} {accounts : D} {key : AccountId}
      {target : Account} (addressed : engine.addressed? frame = some mechanism)
      (allowed : listed.isSome → listing mechanism)
      (rehashed : Rehashed engine.accounts accounts)
      (found : AccountDirectory.findById accounts key = some target)
      (frames : result.1 = Outbound.spoken frame.session listed [] ++
        [.login frame.session target.name, .outcome frame.session .success])
      (left : result.2.sessions.find? frame.session = none ∧
          result.2.accounts = (AccountDirectory.login accounts frame.session target.id).2 ∨
        ∃ session, result.2.sessions.find? frame.session = some session ∧
          session.mechanism = none ∧ session.pending = some ⟨target.identity, mechanism⟩ ∧
          result.2.accounts = accounts)

/-- What a frame is answered with, and what becomes of its session: nothing if it belongs to no
session, if the client has stopped or if the frame is only taken up; a list of the mechanisms if the
client has asked for one that there is not; or what a mechanism has come to. -/
inductive Answers [AccountDirectory D] (listing : String → Prop) (engine : Engine D C)
    (frame : Inbound) (result : List Outbound × Engine D C) : Prop where
  | ignored (frames : result.1 = []) (unknown : engine.sessions.find? frame.session = none)
      (absent : result.2.sessions.find? frame.session = none)
  | stopped (frames : result.1 = []) (done : frame = .done frame.session)
  | taken {session : Session} (frames : result.1 = [])
      (left : result.2.sessions.find? frame.session = some session)
      (same : session.mechanism = (engine.sessions.find? frame.session).bind Session.mechanism)
  | unregistered {name : String} {certfp : Option String} {session : Session}
      (frames : result.1 = [.mechanismList frame.session engine.registry.mechlist])
      (asked : frame = .startAuth frame.session name certfp)
      (absent : engine.registry.find? name = none)
      (left : result.2.sessions.find? frame.session = some session)
      (idle : session.mechanism = none)
      (before : (engine.sessions.find? frame.session).bind Session.mechanism = none)
  | concluded (concludes : engine.Concludes listing frame result)
      (other : frame ≠ .done frame.session)

theorem Gives.left {engine : Engine D C} {id : String} {reply : Reply D}
    {result : List Outbound × Engine D C} (gives : engine.Gives id reply result) :
    result.2.sessions.find? id = reply.session := by
  rw [gives.sessions]
  exact if_pos rfl

variable [AccountDirectory D]

/-- A frame that ends the negotiation with its session. -/
theorem concludes_refusal {listing : String → Prop} {engine middle : Engine D C}
    {frame : Inbound} {session : Session} {result : List Outbound × Engine D C}
    (gives : engine.Gives frame.session (middle.refusal session) result)
    (own : session.info.uid = frame.session) : engine.Concludes listing frame result := by
  refine .failure none [] ?_ ?_
  · rw [gives.frames, ← own]
    rfl
  · intro left found
    rw [gives.left] at found
    cases found

variable [CredentialStore C]

/-- A frame that asks no mechanism is taken up, ends its session or finds that there is no such
mechanism. -/
theorem answers_of_unasked {listing : String → Prop} {engine middle : Engine D C} {server : String}
    {frame : Inbound} {session : Session} {result : List Outbound × Engine D C}
    (enters : engine.Enters server frame session middle)
    (unasked : middle.query? session frame = none)
    (gives : engine.Gives frame.session (middle.reply session frame) result) :
    engine.Answers listing frame result := by
  obtain ⟨used, -⟩ := enters.same
  have left := gives.left
  cases frame with
  | hostInfo id host ip secure => exact .taken gives.frames left used
  | startAuth id name certfp =>
      have refused : Inbound.startAuth id name certfp ≠ .done id := by simp
      have own : (session.presenting certfp).info.uid = id :=
        (session.uid_presenting certfp).trans enters.uid
      simp only [reply, session.mechanism_presenting] at gives left
      split at gives
      · exact .concluded (concludes_refusal gives own) refused
      · next short =>
          rw [if_neg short] at left
          split at gives
          · exact .concluded (concludes_refusal gives own) refused
          · next idle =>
              rw [query?, if_neg (not_or.mpr ⟨short, by simp [idle]⟩), Option.map_eq_none_iff]
                at unasked
              rw [idle] at used
              simp only [unasked, idle] at gives left
              refine .unregistered ?_ rfl ?_ left
                ((session.mechanism_presenting certfp).trans idle) used.symm
              · rw [gives.frames, own, enters.alike.registry]
                rfl
              · rw [← enters.alike.registry]
                exact unasked
  | clientData id data =>
      have refused : Inbound.clientData id data ≠ .done id := by simp
      cases selected : session.mechanism with
      | none =>
          simp only [reply, selected] at gives
          exact .concluded (concludes_refusal gives enters.uid) refused
      | some registration =>
          rw [query?, selected, Option.bind_some] at unasked
          cases added : session.decoder.add (Bytes.ofString data) with
          | mk decoded decoder =>
              simp only [reply, selected, added] at gives left unasked
              cases decoded with
              | error cause => exact .concluded (concludes_refusal gives enters.uid) refused
              | ok progress =>
                  cases progress with
                  | incomplete => exact .taken gives.frames left (selected.symm.trans used)
                  | complete message => cases unasked
                  | abort => exact .concluded (concludes_refusal gives enters.uid) refused
  | done id => exact .stopped gives.frames rfl

/-! ## What mechanisms come to -/

omit [AccountDirectory D] [CredentialStore C] in
theorem replyFrames_eq (id : String) (reply : Bytes) :
    replyFrames id reply =
      (if reply.isEmpty then [] else Frame.ofMessage reply).map (.serverData id) := by
  unfold replyFrames
  split <;> rfl

/-- The mechanism that a frame asks is the one that it is for, and is registered. -/
theorem Asks.registered {engine middle : Engine D C} {server : String} {frame : Inbound}
    {session : Session} {query : Query} {step : Step} {after : Context D C}
    (asks : engine.Asks server frame session middle query step after)
    (attached : engine.Attached) :
    engine.addressed? frame = some query.registration.name ∧
      engine.registry.find? query.registration.name = some query.registration := by
  have asked := asks.asked
  cases frame with
  | startAuth id name certfp =>
      simp only [query?] at asked
      split at asked
      · cases asked
      · obtain ⟨registration, found, rfl⟩ := Option.map_eq_some_iff.mp asked
        rw [asks.enters.alike.registry] at found
        have own : registration.name = name := by simpa using List.find?_some found
        rw [own]
        exact ⟨rfl, found⟩
  | clientData id data =>
      simp only [query?, Option.bind_eq_some_iff] at asked
      obtain ⟨registration, selected, asked⟩ := asked
      rw [asks.enters.same.1, Option.bind_eq_some_iff] at selected
      obtain ⟨earlier, found, selected⟩ := selected
      split at asked
      · cases asked
        have member := attached.registered _ earlier registration found selected
        refine ⟨?_, Registry.find?_of_mem attached.orderly.distinct member⟩
        have found : engine.sessions.find? id = some earlier := found
        rw [addressed?, found, Option.bind_some, Session.mechanismName, selected]
        rfl
      · cases asked
  | hostInfo id host ip secure => cases asked
  | done id => cases asked

/-- Whether the mechanism of a name is none of PLAIN, EXTERNAL and SCRAM. -/
def Custom (engine : Engine D C) (name : String) : Prop :=
  ∃ registration, engine.registry.find? name = some registration ∧
    registration.mechanism.isStandard = false

/-- What a mechanism has come to is told, and decides what becomes of the session. -/
theorem concludes_of_asks {engine middle : Engine D C} {server : String} {frame : Inbound}
    {session : Session} {query : Query} {step : Step} {after : Context D C}
    (asks : engine.Asks server frame session middle query step after)
    (attached : engine.Attached) :
    engine.Concludes engine.Custom frame (engine.handle server frame) := by
  have gives := asks.gives
  have left := gives.left
  have frames := gives.frames
  have pending := asks.pending.trans asks.enters.same.2.1
  have failed (chunks : List String)
      (said : (engine.handle server frame).1 =
        (after.mechlist.map (.mechanismList frame.session)).toList ++
          (chunks.map (.serverData frame.session) ++ [.outcome frame.session .failure]))
      (ended : (engine.handle server frame).2.sessions.find? frame.session =
        after.session.afterFailure) :
      engine.Concludes engine.Custom frame (engine.handle server frame) := by
    refine .failure after.mechlist chunks ?_ ?_
    · rw [said, ← List.append_assoc]
      rfl
    · intro remains found
      obtain ⟨waiting, same⟩ := Session.Waiting.afterFailure (ended.symm.trans found)
      exact ⟨waiting, same.trans pending⟩
  cases step with
  | more data =>
      refine .data after.mechlist _ (Frame.ofMessage_ne_nil data) ?_ left
        (Option.isSome_of_eq_some asks.selected)
      simp only [Reply.ofStep, asks.uid] at frames
      exact frames
  | success =>
      simp only [Reply.ofStep, asks.uid] at frames left gives
      cases chosen : after.session.granted after.accounts with
      | none =>
          simp only [chosen] at frames left
          exact failed [] frames left
      | some target =>
          obtain ⟨source, claims, -⟩ := Session.granted_eq_some_iff.mp chosen
          obtain ⟨acting, -, found⟩ := Option.bind_eq_some_iff.mp claims.target
          obtain ⟨addressed, registered⟩ := asks.registered attached
          refine .success after.mechlist addressed ?_ asks.rehashed found ?_ ?_
          · intro listed
            refine ⟨query.registration, registered, ?_⟩
            refine Bool.eq_false_iff.mpr fun standard => ?_
            have quiet := query.registration.mechlist_of_success standard asks.turned
            rw [quiet] at listed
            cases listed
          · simp only [chosen] at frames
            split at frames
            · simpa [Outbound.spoken] using frames
            · simpa [Outbound.spoken] using frames
          · simp only [chosen] at left gives
            split at gives
            · next online =>
                rw [if_pos online] at left
                exact .inl ⟨left, gives.accounts⟩
            · next offline =>
                rw [if_neg offline] at left
                exact .inr ⟨_, left, rfl, rfl, gives.accounts⟩
  | failure reply =>
      simp only [Reply.ofStep, asks.uid, replyFrames_eq] at frames
      exact failed _ frames left
  | refused reply =>
      simp only [Reply.ofStep, asks.uid, replyFrames_eq] at frames
      exact failed _ frames left

/-- Every frame is answered. -/
theorem answers_handle {engine : Engine D C} (keyed : engine.Keyed) (attached : engine.Attached)
    (server : String) (frame : Inbound) :
    engine.Answers engine.Custom frame (engine.handle server frame) := by
  cases verdict : engine.verdict? server frame with
  | none =>
      rcases engine.sessionFor_cases server frame keyed with ⟨none, unknown⟩ | ⟨session, middle,
        entered, enters⟩
      · have ignored : engine.handle server frame =
            ([], engine.note (.sessionUnknown frame.session)) := by
          simp only [handle, none]
        rw [ignored]
        exact .ignored rfl unknown unknown
      · refine answers_of_unasked enters ?_ (handle_gives entered enters)
        simpa only [verdict?, entered, Option.bind_some, Option.map_eq_none_iff] using verdict
  | some result =>
      obtain ⟨step, after⟩ := result
      obtain ⟨session, middle, query, asks⟩ := asks_of_verdict? keyed verdict
      refine .concluded (concludes_of_asks asks attached) ?_
      intro done
      have asked := asks.asked
      rw [done] at asked
      cases asked

omit [CredentialStore C] in
/-- All frames in an answer are for the client of the session. -/
theorem Answers.session {listing : String → Prop} {engine : Engine D C} {frame : Inbound}
    {result : List Outbound × Engine D C} (answers : engine.Answers listing frame result) :
    ∀ sent ∈ result.1, sent.session? = some frame.session := by
  have spoken (listed : Option String) (chunks : List String) :
      ∀ sent ∈ Outbound.spoken frame.session listed chunks, sent.session? = some frame.session := by
    simp [Outbound.spoken, Outbound.session?, or_imp, forall_and]
  have closing (listed : Option String) (chunks : List String) (last : List Outbound)
      (own : ∀ sent ∈ last, sent.session? = some frame.session) :
      ∀ sent ∈ Outbound.spoken frame.session listed chunks ++ last,
        sent.session? = some frame.session := by
    intro sent member
    rcases List.mem_append.mp member with early | late
    · exact spoken listed chunks sent early
    · exact own sent late
  cases answers with
  | ignored frames => simp [frames]
  | stopped frames => simp [frames]
  | taken frames => simp [frames]
  | unregistered frames => simp [frames, Outbound.session?]
  | concluded concludes =>
      cases concludes with
      | data listed chunks some frames =>
          rw [frames]
          exact spoken listed chunks
      | failure listed chunks frames =>
          rw [frames]
          exact closing listed chunks _ (by simp [Outbound.session?])
      | success listed addressed allowed rehashed found frames =>
          rw [frames]
          exact closing listed [] _ (by simp [Outbound.session?])

/-! ## Outcomes -/

/-- How often the client of a session is told how its negotiation has ended. -/
def outcomes (id : String) (frames : List Outbound) : Nat := frames.countP (Outbound.isOutcome id)

/-- Whether a mechanism is in use in a session. -/
def negotiates (engine : Engine D C) (id : String) : Bool :=
  ((engine.sessions.find? id).bind Session.mechanism).isSome

omit [AccountDirectory D] [CredentialStore C] in
theorem outcomes_append (id : String) (frames more : List Outbound) :
    outcomes id (frames ++ more) = outcomes id frames + outcomes id more := List.countP_append

theorem outcomes_spoken (id : String) (listed : Option String) (chunks : List String) :
    outcomes id (Outbound.spoken id listed chunks) = 0 := by
  cases listed <;> simp [outcomes, Outbound.spoken, Outbound.isOutcome]

omit [CredentialStore C] in
/-- What a mechanism has come to ends the negotiation exactly if the client is told so. -/
theorem Concludes.ends {listing : String → Prop} {engine : Engine D C} {frame : Inbound}
    {result : List Outbound × Engine D C} (concludes : engine.Concludes listing frame result) :
    outcomes frame.session result.1 = 0 ∧ result.2.negotiates frame.session = true ∨
      outcomes frame.session result.1 = 1 ∧ result.2.negotiates frame.session = false := by
  cases concludes with
  | data listed chunks some frames left busy =>
      refine .inl ⟨?_, ?_⟩
      · rw [frames, outcomes_spoken]
      · rw [negotiates, left]
        exact busy
  | failure listed chunks frames left =>
      refine .inr ⟨?_, ?_⟩
      · rw [frames, outcomes_append, outcomes_spoken]
        simp [outcomes, Outbound.isOutcome]
      · unfold negotiates
        cases found : result.2.sessions.find? frame.session with
        | none => rfl
        | some session => simp [(left session found).1.mechanism]
  | success listed addressed allowed rehashed found frames left =>
      refine .inr ⟨?_, ?_⟩
      · rw [frames, outcomes_append, outcomes_spoken]
        simp [outcomes, Outbound.isOutcome]
      · rcases left with ⟨gone, -⟩ | ⟨session, left, idle, -⟩
        · simp [negotiates, gone]
        · simp [negotiates, left, idle]

/-! ## Runs -/

/-- The frames that the engine sends at an event. -/
def emit (engine : Engine D C) : Event D → List Outbound
  | .frame server inbound => (engine.handle server inbound).1
  | .introduced uid => (engine.userIntroduced uid).1
  | .burst => engine.serverEob.1
  | .registered mechanism => (engine.register mechanism).1
  | .unregistered name => (engine.unregister name).1
  | .configured options =>
      match (engine.configureScram options).1 with
      | .ok frames => frames
      | .error _ => []
  | .swept | .directory _ | .drawn _ => []

/-- The frames that the engine sends at events in order. -/
def emitAll (engine : Engine D C) : List (Event D) → List Outbound
  | [] => []
  | event :: rest => engine.emit event ++ (engine.perform event).emitAll rest

/-- Whether a mechanism is in use in a session after each of several events. -/
def negotiatesAll (engine : Engine D C) (id : String) : List (Event D) → Bool
  | [] => true
  | event :: rest =>
      (engine.perform event).negotiates id && (engine.perform event).negotiatesAll id rest

/-- Whether an event can end the negotiation of a session and tell the client nothing: it stops, it
arrives on the network, its mechanism is removed, or its session is swept. -/
def Event.withdraws (id : String) : Event D → Bool
  | .frame _ inbound => inbound = .done id
  | .introduced uid => uid = id
  | .unregistered _ | .configured _ | .swept => true
  | .burst | .registered _ | .directory _ | .drawn _ => false

/-- Whether an event is a frame of a client that does not stop. -/
def Event.speaks (id : String) : Event D → Bool
  | .frame _ inbound => inbound.session = id && inbound ≠ .done id
  | _ => false

theorem emitAll_append (engine : Engine D C) (events more : List (Event D)) :
    engine.emitAll (events ++ more) =
      engine.emitAll events ++ (engine.performAll events).emitAll more := by
  induction events generalizing engine with
  | nil => rfl
  | cons event rest ih =>
      rw [List.cons_append, emitAll, emitAll, ih, List.append_assoc]
      rfl

omit [AccountDirectory D] [CredentialStore C] in
theorem outcomes_publish (engine : Engine D C) (id : String) : outcomes id engine.publish = 0 := by
  unfold publish
  split
  · rfl
  · rfl

/-- No client is told about its negotiation at an event that is no frame. -/
theorem outcomes_emit_of_other (engine : Engine D C) (id : String) {event : Event D}
    (unframed : ∀ server inbound, event ≠ .frame server inbound) :
    outcomes id (engine.emit event) = 0 := by
  cases event with
  | frame server inbound => exact absurd rfl (unframed server inbound)
  | introduced uid =>
      simp only [emit, userIntroduced]
      split
      · rfl
      · split
        · rfl
        · split
          · rfl
          · rfl
  | burst => rfl
  | registered mechanism =>
      simp only [emit, register]
      split
      · exact outcomes_publish _ id
      · rfl
  | unregistered name =>
      simp only [emit, unregister]
      split
      · exact outcomes_publish _ id
      · rfl
  | configured options =>
      simp only [emit, configureScram]
      generalize configureDigests options Digest.all false _ = configured
      obtain ⟨outcome, after⟩ := configured
      cases outcome with
      | error cause => rfl
      | ok changed =>
          cases changed with
          | false => rfl
          | true => exact outcomes_publish after id
  | swept => rfl
  | directory change => rfl
  | drawn length => rfl

/-- A frame says nothing about the sessions of other clients, and leaves them. -/
theorem outcomes_handle_of_ne {engine : Engine D C} (keyed : engine.Keyed)
    (attached : engine.Attached) (server : String) {frame : Inbound} {id : String}
    (other : frame.session ≠ id) :
    outcomes id (engine.handle server frame).1 = 0 ∧
      (engine.handle server frame).2.negotiates id = engine.negotiates id := by
  refine ⟨List.countP_eq_zero.mpr ?_, ?_⟩
  · intro sent member told
    have own := (answers_handle keyed attached server frame).session sent member
    cases sent <;> simp [Outbound.isOutcome, Outbound.session?] at told own
    exact other (own.symm.trans told)
  · rw [negotiates, find?_handle_of_ne keyed server (Ne.symm other)]
    rfl

/-- At an event while a mechanism is in use in a session, either the client is told that its
negotiation has ended, which is then the end of it, or it goes on or is withdrawn without a word. -/
theorem emit_cases {engine : Engine D C} (bound : engine.Bound) (attached : engine.Attached)
    {id : String} (busy : engine.negotiates id = true) (event : Event D) :
    outcomes id (engine.emit event) = 0 ∧
        ((engine.perform event).negotiates id = true ∨ event.withdraws id = true) ∨
      outcomes id (engine.emit event) = 1 ∧ (engine.perform event).negotiates id = false ∧
        event.speaks id = true := by
  by_cases framed : ∃ server inbound, event = .frame server inbound
  · obtain ⟨server, inbound, rfl⟩ := framed
    by_cases own : inbound.session = id
    · subst own
      have answers := answers_handle bound.keyed attached server inbound
      change outcomes _ (engine.handle server inbound).1 = 0 ∧
          ((engine.handle server inbound).2.negotiates _ = true ∨ _) ∨
        outcomes _ (engine.handle server inbound).1 = 1 ∧
          (engine.handle server inbound).2.negotiates _ = false ∧ _
      cases answers with
      | ignored frames unknown =>
          rw [negotiates, unknown] at busy
          cases busy
      | stopped frames done =>
          refine .inl ⟨by rw [frames]; rfl, .inr ?_⟩
          exact decide_eq_true done
      | taken frames left same =>
          refine .inl ⟨by rw [frames]; rfl, .inl ?_⟩
          rw [negotiates, left, Option.bind_some, same]
          exact busy
      | unregistered frames asked absent left idle before =>
          rw [negotiates, before] at busy
          cases busy
      | concluded concludes other =>
          rcases concludes.ends with ⟨silent, still⟩ | ⟨told, ended⟩
          · exact .inl ⟨silent, .inl still⟩
          · exact .inr ⟨told, ended, by simp [Event.speaks, other]⟩
    · obtain ⟨silent, same⟩ := outcomes_handle_of_ne bound.keyed attached server own
      exact .inl ⟨silent, .inl (same.trans busy)⟩
  · have unframed : ∀ server inbound, event ≠ .frame server inbound :=
      fun server inbound same => framed ⟨server, inbound, same⟩
    refine .inl ⟨outcomes_emit_of_other engine id unframed, ?_⟩
    cases event with
    | frame server inbound => exact absurd rfl (unframed server inbound)
    | introduced uid =>
        by_cases own : uid = id
        · exact .inr (decide_eq_true own)
        · refine .inl ?_
          change (engine.userIntroduced uid).2.negotiates id = true
          rw [negotiates, find?_userIntroduced bound.keyed, if_neg (Ne.symm own)]
          exact busy
    | registered mechanism =>
        refine .inl ?_
        change (engine.register mechanism).2.negotiates id = true
        rw [snd_register]
        exact busy
    | unregistered name => exact .inr rfl
    | configured options => exact .inr rfl
    | swept => exact .inr rfl
    | burst => exact .inl busy
    | directory change => exact .inl busy
    | drawn length => exact .inl busy

/-- While a mechanism is in use in a session its client is not told that its negotiation has ended.
-/
theorem outcomes_emitAll {engine : Engine D C} (reachable : engine.Reachable) {id : String}
    (busy : engine.negotiates id = true) {events : List (Event D)}
    (goes : engine.negotiatesAll id events = true) :
    outcomes id (engine.emitAll events) = 0 ∧ (engine.performAll events).negotiates id = true := by
  induction events generalizing engine with
  | nil => exact ⟨rfl, busy⟩
  | cons event rest ih =>
      rw [negotiatesAll, Bool.and_eq_true] at goes
      obtain ⟨silent, still⟩ := ih (reachable.perform event) goes.1 goes.2
      refine ⟨?_, still⟩
      rw [emitAll, outcomes_append, silent]
      rcases emit_cases (.of_reachable reachable) (.of_reachable reachable) busy event with
        ⟨quiet, -⟩ | ⟨-, ended, -⟩
      · exact quiet
      · rw [goes.1] at ended
        cases ended

/-- A frame that asks for a registered mechanism where none is in use has the mechanism start. -/
theorem concludes_startAuth {engine : Engine D C} (keyed : engine.Keyed)
    (attached : engine.Attached) (server : String) {id name : String} {certfp : Option String}
    (short : name.utf8ByteSize ≤ Limits.mechanismNameLength)
    (registered : (engine.registry.find? name).isSome) (idle : engine.negotiates id = false) :
    engine.Concludes engine.Custom (.startAuth id name certfp)
      (engine.handle server (.startAuth id name certfp)) := by
  obtain ⟨registration, found⟩ := Option.isSome_iff_exists.mp registered
  rcases engine.sessionFor_cases server (.startAuth id name certfp) keyed with
    ⟨none, -⟩ | ⟨session, middle, entered, enters⟩
  · simp [sessionFor] at none
  · have free : session.mechanism = none := by
      rw [enters.same.1]
      simpa [negotiates, Inbound.session] using idle
    have asked : middle.query? session (.startAuth id name certfp) = some
        ⟨{ session.presenting certfp with mechanism := some registration }, registration,
          none⟩ := by
      rw [query?, if_neg (not_or.mpr ⟨Nat.not_lt.mpr short, by simp [free]⟩),
        enters.alike.registry, found]
      rfl
    exact concludes_of_asks ⟨entered, enters, asked, rfl⟩ attached

/-- Whatever mechanisms there are, each frame is answered in one of a few ways, for its own session,
which is left as the answer says; before a login the mechanisms are listed only by a mechanism that
is none of PLAIN, EXTERNAL and SCRAM. So from the frame that selects a mechanism to the end of the
negotiation the client is told one outcome, at the end, by a frame that is not the one by which it
stops; or it is told none, and it has stopped or arrived, or its mechanism was removed or its
session swept. -/
theorem answers_disciplined {engine : Engine D C} (reachable : engine.Reachable) :
    (∀ server frame, engine.Answers engine.Custom frame (engine.handle server frame) ∧
      ∀ sent ∈ (engine.handle server frame).1, sent.session? = some frame.session) ∧
    ∀ server id name certfp, name.utf8ByteSize ≤ Limits.mechanismNameLength →
      (engine.registry.find? name).isSome → engine.negotiates id = false →
      let selecting : Event D := .frame server (.startAuth id name certfp)
      ((engine.perform selecting).negotiates id = false →
        outcomes id (engine.emit selecting) = 1) ∧
      ∀ middle, engine.negotiatesAll id (selecting :: middle) = true →
        outcomes id (engine.emitAll (selecting :: middle)) = 0 ∧
        ∀ last, (engine.performAll (selecting :: middle ++ [last])).negotiates id = false →
          outcomes id (engine.emitAll (selecting :: middle ++ [last])) = 1 ∧
              last.speaks id = true ∨
            outcomes id (engine.emitAll (selecting :: middle ++ [last])) = 0 ∧
              last.withdraws id = true := by
  have bound := Bound.of_reachable reachable
  have attached := Attached.of_reachable reachable
  refine ⟨?_, ?_⟩
  · intro server frame
    have answers := answers_handle bound.keyed attached server frame
    exact ⟨answers, answers.session⟩
  · intro server id name certfp short registered idle selecting
    have starts : outcomes id (engine.emit selecting) = 0 ∧
          (engine.perform selecting).negotiates id = true ∨
        outcomes id (engine.emit selecting) = 1 ∧
          (engine.perform selecting).negotiates id = false :=
      (concludes_startAuth bound.keyed attached server short registered idle).ends
    refine ⟨?_, ?_⟩
    · intro ended
      rcases starts with ⟨-, still⟩ | ⟨told, -⟩
      · rw [ended] at still
        cases still
      · exact told
    · intro middle goes
      rw [negotiatesAll, Bool.and_eq_true] at goes
      obtain ⟨busy, goes⟩ := goes
      have silent : outcomes id (engine.emit selecting) = 0 := by
        rcases starts with ⟨silent, -⟩ | ⟨-, ended⟩
        · exact silent
        · rw [busy] at ended
          cases ended
      have begun := reachable.perform selecting
      obtain ⟨quiet, still⟩ := outcomes_emitAll begun busy goes
      have none : outcomes id (engine.emitAll (selecting :: middle)) = 0 := by
        rw [emitAll, outcomes_append, silent, quiet]
      refine ⟨none, ?_⟩
      intro last ended
      have total : outcomes id (engine.emitAll (selecting :: middle ++ [last])) =
          outcomes id ((engine.performAll (selecting :: middle)).emit last) := by
        rw [emitAll_append, outcomes_append, none, Nat.zero_add, emitAll, emitAll, List.append_nil]
      have after : engine.performAll (selecting :: middle ++ [last]) =
          (engine.performAll (selecting :: middle)).perform last := List.foldl_append
      rw [after] at ended
      rw [total]
      have reached := reachable.performAll (selecting :: middle)
      rcases emit_cases (.of_reachable reached) (.of_reachable reached) still last with
        ⟨quiet, goes | withdraws⟩ | ⟨told, -, speaks⟩
      · have goes : ((engine.performAll (selecting :: middle)).perform last).negotiates id = true :=
          goes
        rw [ended] at goes
        cases goes
      · exact .inr ⟨quiet, withdraws⟩
      · exact .inl ⟨told, speaks⟩

end Engine

/-! ## A list before a login -/

/-- A mechanism that logs every client in as `alice` and has the mechanisms listed before. -/
def listingScript : Script where
  name := "LISTING"
  passwordBased := false
  start := [.authcid "alice", .recalc ⟨1⟩ [], .success]
  steps := []
  inner := { digest := .sha1, mockKey := [], mockIterations := 1, mockSaltLength := 8 }

/-- An engine that offers this mechanism and PLAIN. -/
def listingEngine : Engine MemoryDirectory PasswordHasher :=
  waitingEngine.performAll [.registered .plain, .registered (.scripted listingScript)]

set_option maxRecDepth 100000 in
/-- The client is sent the list, its login and the outcome. If no mechanism could list the
mechanisms before a login, this would be no answer. -/
theorem not_answers_listing :
    let frame : Inbound := .startAuth "U1" "LISTING" none
    listingEngine.Reachable ∧
    (listingEngine.handle "hub" frame).1 =
      [.mechanismList "U1" "PLAIN,LISTING", .login "U1" "alice", .outcome "U1" .success] ∧
    ¬listingEngine.Answers (fun _ => False) frame (listingEngine.handle "hub" frame) := by
  intro frame
  have sent : (listingEngine.handle "hub" frame).1 =
      [.mechanismList "U1" "PLAIN,LISTING", .login "U1" "alice", .outcome "U1" .success] := by
    decide +kernel
  refine ⟨reachable_waitingEngine.performAll _, sent, ?_⟩
  intro answers
  cases answers with
  | ignored frames => cases sent.symm.trans frames
  | stopped frames => cases sent.symm.trans frames
  | taken frames => cases sent.symm.trans frames
  | unregistered frames => cases sent.symm.trans frames
  | concluded concludes =>
      cases concludes with
      | data listed chunks some frames =>
          have same := sent.symm.trans frames
          cases listed <;> cases chunks <;> simp [Outbound.spoken] at same
      | failure listed chunks frames =>
          have last := congrArg List.getLast? (sent.symm.trans frames)
          simp at last
      | success listed addressed allowed rehashed found frames =>
          have same := sent.symm.trans frames
          cases listed with
          | none => simp [Outbound.spoken] at same
          | some mechanisms => exact allowed rfl

set_option maxRecDepth 100000 in
/-- A client that asks for PLAIN and sends a password is told one outcome. One that stops instead is
told none. -/
theorem answers_disciplined_listing :
    let selecting : Engine.Event MemoryDirectory := .frame "hub" (.startAuth "U1" "PLAIN" none)
    let other : Engine.Event MemoryDirectory := .frame "hub" (.startAuth "U2" "LISTING" none)
    let sent last := listingEngine.emitAll [selecting, other, last]
    listingEngine.Answers listingEngine.Custom (.startAuth "U1" "LISTING" none)
      (listingEngine.handle "hub" (.startAuth "U1" "LISTING" none)) ∧
    Engine.outcomes "U1" (sent (.frame "hub" waitingFrame)) = 1 ∧
    Engine.outcomes "U1" (sent (.frame "hub" (.done "U1"))) = 0 := by
  intro selecting other sent
  have reachable : listingEngine.Reachable := reachable_waitingEngine.performAll _
  obtain ⟨answers, negotiations⟩ := Engine.answers_disciplined reachable
  have registered : (listingEngine.registry.find? "PLAIN").isSome := by decide +kernel
  have idle : listingEngine.negotiates "U1" = false := by decide +kernel
  have goes : listingEngine.negotiatesAll "U1" [selecting, other] = true := by decide +kernel
  have ended : (listingEngine.performAll
      [selecting, other, .frame "hub" waitingFrame]).negotiates "U1" = false := by decide +kernel
  have stopped : (listingEngine.performAll
      [selecting, other, .frame "hub" (.done "U1")]).negotiates "U1" = false := by decide +kernel
  obtain ⟨-, middle⟩ := negotiations "hub" "U1" "PLAIN" none (by decide) registered idle
  obtain ⟨-, ends⟩ := middle [other] goes
  refine ⟨(answers "hub" _).1, ?_, ?_⟩
  · rcases ends (.frame "hub" waitingFrame) ended with ⟨told, -⟩ | ⟨-, absurd⟩
    · exact told
    · cases absurd
  · rcases ends (.frame "hub" (.done "U1")) stopped with ⟨-, absurd⟩ | ⟨silent, -⟩
    · cases absurd
    · exact silent

end IrcSasl
