import IrcSasl.Proofs.Engine.Turns

set_option autoImplicit false

/-!
# Messages in several frames

However many frames a message of a client takes, it comes to one turn of the session's mechanism
(`Engine.handleAll_gives`).
-/

namespace IrcSasl.Engine

variable {D C : Type} [AccountDirectory D] [CredentialStore C]

/-- A frame that leaves its message open changes nothing but the buffer of its session. -/
theorem handle_incomplete {engine : Engine D C} (server : String) {id data : String}
    {session : Session} {registration : Registration} {decoder : Frame.Decoder}
    (found : engine.sessions.find? id = some session)
    (selected : session.mechanism = some registration)
    (added : session.decoder.add (Bytes.ofString data) = (.ok .incomplete, decoder)) :
    engine.handle server (.clientData id data) =
      ([], (engine.putSession session.unmarked).putSession { session.unmarked with decoder }) := by
  have entered : engine.sessionFor server (.clientData id data) =
      some (session.unmarked, engine.putSession session.unmarked) := by
    simp only [sessionFor, found, Option.map_some]
    rfl
  have fed : session.unmarked.decoder.add (Bytes.ofString data) = (.ok .incomplete, decoder) :=
    added
  have busy : session.unmarked.mechanism = some registration := selected
  simp only [handle, entered, clientData, fed]
  split
  · next none =>
      rw [busy] at none
      cases none
  · rfl

/-- Frames that come to a message are a turn on that message. The induction hands one frame after
the other to the engine. -/
theorem handleAll_gives {engine : Engine D C} (keyed : engine.Keyed) (server : String) {id : String}
    {session : Session} {registration : Registration} {frames : List String} {message : Bytes}
    (found : engine.sessions.find? id = some session)
    (selected : session.mechanism = some registration)
    (whole : session.decoder.assemble? frames = some message) :
    engine.Gives id
      (engine.turn { session.unmarked with decoder := session.decoder.clear } registration
        (some message))
      (engine.handleAll server (frames.map (.clientData id))) := by
  induction frames generalizing engine session with
  | nil => cases whole
  | cons frame rest ih =>
      rw [List.map_cons, handleAll]
      rcases Frame.Decoder.assemble?_cons whole with
        ⟨decoder, added, whole⟩ | ⟨decoder, added, nothing⟩
      · have cleared : decoder.clear = session.decoder.clear := by
          rw [← Frame.Decoder.clear_add session.decoder (Bytes.ofString frame), added]
        let buffered : Session := { session.unmarked with decoder }
        let middle := (engine.putSession session.unmarked).putSession buffered
        have uid : session.info.uid = id := keyed id session found
        have sessions (other : String) : middle.sessions.find? other =
            if other = id then some buffered else engine.sessions.find? other := by
          rw [find?_putSession, find?_putSession, ← uid]
          by_cases same : other = session.info.uid
          · exact (if_pos same).trans (if_pos same).symm
          · exact ((if_neg same).trans (if_neg same)).trans (if_neg same).symm
        have keyedMiddle : middle.Keyed := by
          intro other stored foundOther
          rw [sessions other] at foundOther
          split at foundOther
          · next same =>
              cases foundOther
              exact uid.trans same.symm
          · exact keyed other stored foundOther
        have foundMiddle : middle.sessions.find? id = some buffered := by
          rw [sessions, if_pos rfl]
        have gives := ih keyedMiddle foundMiddle selected whole
        simp only [buffered, cleared] at gives
        rw [handle_incomplete server found selected added]
        exact gives.of_before rfl rfl fun other different => by rw [sessions, if_neg different]
      · subst nothing
        have cleared := Frame.Decoder.eq_clear_of_complete added
        subst cleared
        have given := handle_decided keyed server (arrival?_of_complete found selected added)
        simp only [List.map_nil, handleAll, List.append_nil]
        exact given

/-! ## Sessions in use -/

omit [AccountDirectory D] [CredentialStore C] in
/-- A reply that leaves a session under its identifier leaves the others under theirs. -/
theorem Gives.keyed {engine : Engine D C} {id : String} {reply : Reply D}
    {result : List Outbound × Engine D C} (given : engine.Gives id reply result)
    (keyed : engine.Keyed) (own : ∀ session, reply.session = some session → session.info.uid = id) :
    result.2.Keyed := by
  intro other session found
  rw [given.sessions other] at found
  split at found
  · next same => exact (own session found).trans same.symm
  · exact keyed other session found

/-- A session after the frames of a message were put together. -/
def fed (session : Session) : Session :=
  { session.unmarked with decoder := session.decoder.clear }

/-- The messages of a session go to a mechanism. -/
structure Handles (engine : Engine D C) (id : String) (registration : Registration)
    (session : Session) : Prop where
  keyed : engine.Keyed
  found : engine.sessions.find? id = some session
  selected : session.mechanism = some registration

namespace Handles

variable {engine : Engine D C} {id : String} {registration : Registration} {session : Session}
  (handles : engine.Handles id registration session) (server : String) {frames : List String}
  {message : Bytes} {after : Context D C}

include handles

/-- No step gives a session another identifier. -/
theorem uid {step : Step}
    (stepped : registration.step (engine.context (fed session)) message = (step, after)) :
    after.session.info.uid = id := by
  have kept := registration.keeps_step (engine.context (fed session)) message
  rw [stepped] at kept
  rw [kept.info]
  exact handles.keyed id session handles.found

variable (whole : session.decoder.assemble? frames = some message)

include whole

/-- Frames that come to a message are a step of the mechanism on that message. -/
theorem gives {step : Step}
    (stepped : registration.step (engine.context (fed session)) message = (step, after))
    (quiet : after.mechlist = none) :
    engine.Gives id
      (.ofStep after.accounts after.env.entropy after.session registration.name step)
      (engine.handleAll server (frames.map (.clientData id))) := by
  have given : engine.Gives id (engine.turn (fed session) registration (some message)) _ :=
    handleAll_gives handles.keyed server handles.found handles.selected whole
  let arrival : Arrival := ⟨fed session, registration, message⟩
  have decided : engine.decide arrival = (step, after) := stepped
  rw [turn_of_quiet decided quiet] at given
  exact given

/-- After a message that the mechanism answers it handles the next one. -/
theorem answers {data : Bytes}
    (stepped : registration.step (engine.context (fed session)) message = (.more data, after))
    (quiet : after.mechlist = none) :
    let result := engine.handleAll server (frames.map (.clientData id))
    result.1 = (Frame.ofMessage data).map (.serverData id) ∧
      result.2.accounts = after.accounts ∧ result.2.credentials = engine.credentials ∧
      result.2.Handles id registration after.session ∧
      after.session.decoder = session.decoder.clear := by
  intro result
  have given := handles.gives server whole stepped quiet
  have uid := handles.uid stepped
  have kept := registration.keeps_step (engine.context (fed session)) message
  rw [stepped] at kept
  refine ⟨?_, given.accounts, given.credentials, ⟨?_, ?_, ?_⟩, kept.decoder⟩
  · rw [given.frames]
    simp only [Reply.ofStep, uid]
  · refine given.keyed handles.keyed ?_
    rintro _ ⟨⟩
    exact uid
  · rw [given.sessions, if_pos rfl]
    rfl
  · rw [kept.mechanism]
    exact handles.selected

end Handles

/-- The mechanism of a session waits for a message of its client. -/
structure Listens (engine : Engine D C) (id : String) (registration : Registration)
    (session : Session) : Prop where
  keyed : engine.Keyed
  found : engine.sessions.find? id = some session
  selected : session.mechanism = some registration
  decoder : session.decoder = .fresh

namespace Listens

variable {engine : Engine D C} {id : String} {registration : Registration} {session : Session}

omit [AccountDirectory D] [CredentialStore C] in
theorem handles (listens : engine.Listens id registration session) :
    engine.Handles id registration session :=
  ⟨listens.keyed, listens.found, listens.selected⟩

omit [AccountDirectory D] [CredentialStore C] in
theorem fed_eq (listens : engine.Listens id registration session) :
    fed session = session.unmarked := by
  have clear : session.decoder.clear = session.decoder := by
    rw [listens.decoder]
    rfl
  rw [fed, clear]
  rfl

omit [AccountDirectory D] [CredentialStore C] in
/-- A message that fits into the buffer is put together from its frames. -/
theorem whole (listens : engine.Listens id registration session) {message : Bytes}
    (short : message.length ≤ Limits.bufferLengthRaw) :
    session.decoder.assemble? (Frame.ofMessage message) = some message := by
  rw [listens.decoder]
  exact Frame.Decoder.assemble?_ofMessage short

/-- A message that fits into the buffer is a turn of the mechanism. -/
theorem receive_gives (listens : engine.Listens id registration session) (server : String)
    {message : Bytes} (short : message.length ≤ Limits.bufferLengthRaw) :
    engine.Gives id (engine.turn session.unmarked registration (some message))
      (engine.receive server id message) := by
  rw [← listens.fed_eq]
  exact handleAll_gives listens.keyed server listens.found listens.selected (listens.whole short)

/-- The frame `+` is a turn on an empty message. -/
theorem acknowledge_gives (listens : engine.Listens id registration session) (server : String) :
    engine.Gives id (engine.turn session.unmarked registration (some []))
      (engine.handle server (.clientData id "+")) := by
  have gives := listens.receive_gives server
    (by decide : ([] : Bytes).length ≤ Limits.bufferLengthRaw)
  have same : engine.receive server id [] = engine.handle server (.clientData id "+") := by
    simp only [receive, Frame.ofMessage_nil, List.map_cons, List.map_nil, handleAll,
      List.append_nil]
    rfl
  rw [same] at gives
  exact gives

/-- After a message that the mechanism answers it waits for the next one. -/
theorem more (listens : engine.Listens id registration session) (server : String) {message : Bytes}
    (short : message.length ≤ Limits.bufferLengthRaw) {data : Bytes} {after : Context D C}
    (stepped : registration.step (engine.context session.unmarked) message = (.more data, after))
    (quiet : after.mechlist = none) :
    (engine.receive server id message).1 = (Frame.ofMessage data).map (.serverData id) ∧
      (engine.receive server id message).2.accounts = after.accounts ∧
      (engine.receive server id message).2.credentials = engine.credentials ∧
      (engine.receive server id message).2.Listens id registration after.session := by
  rw [← listens.fed_eq] at stepped
  obtain ⟨frames, accounts, credentials, handles, decoder⟩ :=
    listens.handles.answers server (listens.whole short) stepped quiet
  refine ⟨frames, accounts, credentials, handles.keyed, handles.found, handles.selected, ?_⟩
  rw [decoder, listens.decoder]
  rfl

end Listens

/-- Nothing goes on in a session: no mechanism is in use and no login waits. -/
def Idle (engine : Engine D C) (id : String) : Prop :=
  ∀ session, engine.sessions.find? id = some session →
    session.mechanism = none ∧ session.pending = none

omit [AccountDirectory D] [CredentialStore C] in
/-- A frame of a session where nothing goes on finds it so. -/
theorem Idle.entered {engine middle : Engine D C} {server : String} {frame : Inbound}
    {session : Session} (idle : engine.Idle frame.session)
    (enters : engine.Enters server frame session middle) :
    session.mechanism = none ∧ session.pending = none := by
  cases found : engine.sessions.find? frame.session with
  | none =>
      rw [enters.fresh found]
      exact ⟨rfl, rfl⟩
  | some earlier =>
      obtain ⟨rfl, -⟩ := enters.known earlier found
      exact idle earlier found

/-- A session without mechanism that is asked for SCRAM takes it up, and asks for a message. -/
theorem reply_scram {engine : Engine D C} {session : Session} {id : String} {digest : Digest}
    {registration : Registration} {scram : Scram.Server} (unused : session.mechanism = none)
    (registered : engine.registry.find? digest.scramName = some registration)
    (used : registration.mechanism = .scram scram) (certfp : Option String) :
    engine.reply session (.startAuth id digest.scramName certfp) =
      ⟨(Frame.ofMessage []).map (.serverData session.info.uid), engine.accounts,
        engine.env.entropy,
        some { session.presenting certfp with mechanism := some registration }⟩ := by
  have short : ¬Limits.mechanismNameLength < digest.scramName.utf8ByteSize := by
    cases digest <;> decide
  simp only [reply, if_neg short, registered]
  split
  · next busy =>
      rw [session.mechanism_presenting, unused] at busy
      cases busy
  · simp only [turn, Registration.turn, Registration.start, used, Reply.ofStep, context,
      Option.map_none, Option.toList_none, List.nil_append, session.uid_presenting]

/-- A client that asks for SCRAM where nothing goes on is asked for its first message. -/
theorem listens_of_startAuth {offered : Mechanism → Prop} {engine : Engine D C}
    (sound : engine.Sound offered) (server : String) {id : String} (idle : engine.Idle id)
    {digest : Digest} {registration : Registration} {scram : Scram.Server}
    (registered : engine.registry.find? digest.scramName = some registration)
    (used : registration.mechanism = .scram scram) (certfp : Option String) :
    let result := engine.handle server (.startAuth id digest.scramName certfp)
    ∃ session, session.state = none ∧ session.authz = none ∧
      result.1 = (Frame.ofMessage []).map (.serverData id) ∧
      result.2.Listens id registration session ∧ result.2.accounts = engine.accounts ∧
      result.2.credentials = engine.credentials ∧
      result.2.env.entropy = engine.env.entropy := by
  intro result
  rcases engine.sessionFor_cases server (.startAuth id digest.scramName certfp) sound.keyed with
    ⟨absent, -⟩ | ⟨session, middle, entered, enters⟩
  · simp [sessionFor] at absent
  have gives := handle_gives entered enters
  obtain ⟨unused, waitless⟩ := Idle.entered idle enters
  have registered : middle.registry.find? digest.scramName = some registration := by
    rw [enters.alike.registry]
    exact registered
  have own : session.info.uid = id := enters.uid
  rw [reply_scram unused registered used certfp, own] at gives
  have tidy := (sound.tidy_entered enters).presenting certfp
  obtain ⟨state, decoder⟩ := tidy.idle ((session.mechanism_presenting certfp).trans unused)
  obtain ⟨-, authz⟩ := tidy.unresolved ((session.mechanism_presenting certfp).trans unused)
    ((session.pending_presenting certfp).trans waitless)
  refine ⟨{ session.presenting certfp with mechanism := some registration }, state, authz,
    gives.frames, ⟨?_, ?_, rfl, decoder⟩, ?_, gives.credentials,
    gives.entropy.trans enters.alike.entropy⟩
  · refine gives.keyed sound.keyed ?_
    rintro _ ⟨⟩
    exact tidy.uid
  · exact (gives.sessions id).trans (if_pos rfl)
  · exact gives.accounts.trans enters.alike.accounts

end IrcSasl.Engine
