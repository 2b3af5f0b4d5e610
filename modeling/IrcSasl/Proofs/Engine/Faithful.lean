import IrcSasl.Proofs.Negotiation

set_option autoImplicit false

/-!
# Every negotiation is explained

In every engine that a run of PLAIN, EXTERNAL and SCRAM can reach, what the clients have said
explains what their sessions hold (`Observed.Faithful.run`).
-/

namespace IrcSasl

variable {D C : Type} [AccountDirectory D] [CredentialStore C]

/-- The mechanisms that clients can be offered in a run are PLAIN, EXTERNAL and SCRAM. -/
def Mechanism.Standard (mechanism : Mechanism) : Prop := mechanism.isStandard = true

/-- The dialogue of a session explains what the session holds. Only a login that waits can have left
identities to it. -/
structure Dialogue.Explains (id : String) (dialogue : Dialogue D C) (registration : Registration)
    (session : Session) : Prop where
  decoder : session.decoder = dialogue.decoder
  progress : Progress id registration.mechanism dialogue session
  left : dialogue.found.bind Session.pending = none →
    dialogue.leftAuthc = none ∧ dialogue.leftAuthz = none

/-- An observed engine is sound, and what its clients have said explains every negotiation. -/
structure Observed.Faithful (observed : Observed D C) : Prop where
  sound : observed.engine.Sound Mechanism.Standard
  explained : ∀ id session registration, observed.engine.sessions.find? id = some session →
    session.mechanism = some registration →
    (observed.dialogue id).Explains id registration session

/-- Only a step that asks for more leaves a mechanism in use. -/
theorem Reply.more_of_busy {accounts : D} {entropy : Entropy} {session after : Session}
    {mechanism : String} {step : Step} {registration : Registration}
    (left : (Reply.ofStep accounts entropy session mechanism step).session = some after)
    (busy : after.mechanism = some registration) :
    (∃ data, step = .more data) ∧ after = session := by
  have idle {after : Session} (left : session.afterFailure = some after) :
      after.mechanism = none := by
    unfold Session.afterFailure at left
    split at left
    · cases left
      rfl
    · cases left
  cases step with
  | more data =>
      cases left
      exact ⟨⟨data, rfl⟩, rfl⟩
  | success =>
      simp only [Reply.ofStep] at left
      split at left
      · rw [idle left] at busy
        cases busy
      · split at left
        · cases left
        · cases left
          cases busy
  | failure reply =>
      rw [idle left] at busy
      cases busy
  | refused reply =>
      rw [idle left] at busy
      cases busy

namespace Observed.Faithful

variable {observed : Observed D C}

theorem opening {options : Options} {accounts : D} {credentials : C} {entropy : Entropy}
    {engine : Engine D C}
    (created : Engine.create options accounts credentials entropy = .ok engine) :
    (Observed.opening engine).Faithful := by
  have sound : engine.Sound Mechanism.Standard := .create created
  refine ⟨sound, ?_⟩
  intro id session registration found
  unfold Engine.create at created
  split at created
  · cases created
    cases found
  · cases created

/-- Events other than frames leave every negotiation explained. -/
theorem descends (faithful : observed.Faithful) {event : Engine.Event D}
    (offers : event.Offers Mechanism.Standard)
    (other : ∀ server inbound, event ≠ .frame server inbound) :
    (observed.perform event).Faithful := by
  have descends : Engine.Descends Mechanism.Standard observed.engine
      (observed.engine.perform event) :=
    .perform observed.engine faithful.sound.keyed event offers other
  refine ⟨faithful.sound.descends descends, ?_⟩
  intro id session registration found busy
  obtain ⟨earlier, foundEarlier, same⟩ := descends.sessions id session found
  have silent : (observed.perform event).dialogue id = observed.dialogue id := by
    cases event with
    | frame server inbound => exact absurd rfl (other server inbound)
    | _ => rfl
  rw [silent]
  rw [same] at busy
  obtain ⟨decoder, progress, left⟩ := faithful.explained id earlier registration foundEarlier busy
  rw [same]
  exact ⟨decoder, progress.of_same rfl rfl rfl, left⟩

/-- What a client has said with one more message explains what the turn on the message leaves. -/
theorem explains_turn {middle : Engine D C} {dialogue : Dialogue D C} {id : String}
    {session after : Session} {registration used : Registration} {message : Message D C}
    (alike : message.engine.Alike middle) (uid : session.info.uid = id)
    (selected : session.mechanism = some registration)
    (standard : registration.mechanism.isStandard = true)
    (explained : dialogue.Explains id registration session) (decoder : Frame.Decoder)
    (answer : message.answer =
      (middle.turn { session with decoder } registration (some message.bytes)).frames)
    (left : (middle.turn { session with decoder } registration (some message.bytes)).session =
      some after)
    (busy : after.mechanism = some used) :
    used = registration ∧ after.decoder = decoder ∧
      Progress id registration.mechanism (dialogue.answered message) after := by
  have fed : Progress id registration.mechanism dialogue { session with decoder } :=
    explained.progress.of_same rfl rfl rfl
  have kept := registration.keeps_turn (middle.context { session with decoder })
    (some message.bytes)
  unfold Engine.turn at left answer
  simp only [Registration.turn] at left answer kept
  cases stepped : registration.step (middle.context { session with decoder }) message.bytes with
  | mk step ctx =>
      rw [stepped] at left answer kept
      obtain ⟨⟨reply, rfl⟩, rfl⟩ := Reply.more_of_busy left busy
      have verdict : Verdict id registration.mechanism dialogue session.info.certfp message ctx
          (.more reply) := Progress.verdict standard alike fed stepped
      obtain ⟨quiet, progress⟩ := verdict.of_more
      have sent : message.answer = (Frame.ofMessage reply).map (.serverData id) := by
        have uid : ctx.session.info.uid = id := by
          rw [kept.info]
          exact uid
        rw [answer, quiet]
        simp only [Option.map_none, Option.toList_none, List.nil_append, Reply.ofStep, uid]
      have same : used = registration := by
        rw [kept.mechanism] at busy
        exact (Option.some.inj (selected.symm.trans busy)).symm
      exact ⟨same, kept.decoder, progress sent⟩

/-- What a client has said up to a frame of data explains what the session holds after it. -/
theorem explains_data {engine middle : Engine D C} {dialogue : Dialogue D C}
    {server id data : String} {session after : Session} {registration used : Registration}
    (alike : engine.Alike middle) (uid : session.info.uid = id)
    (gives : engine.Gives id (middle.reply session (.clientData id data))
      (engine.handle server (.clientData id data)))
    (selected : session.mechanism = some registration)
    (standard : registration.mechanism.isStandard = true)
    (explained : dialogue.Explains id registration session)
    (left : (middle.reply session (.clientData id data)).session = some after)
    (busy : after.mechanism = some used) :
    (dialogue.hear engine server id data).Explains id used after := by
  have answer := gives.frames
  unfold Dialogue.hear
  rw [← explained.decoder]
  cases added : session.decoder.add (Bytes.ofString data) with
  | mk decoded decoder =>
      match decoded with
      | .ok .incomplete =>
          rw [Engine.reply_incomplete selected added] at left
          cases left
          cases selected.symm.trans busy
          have heard : Progress id registration.mechanism { dialogue with decoder } session :=
            explained.progress.of_dialogue rfl rfl
          exact ⟨rfl, heard.of_same rfl rfl rfl, explained.left⟩
      | .ok (.complete bytes) =>
          rw [Engine.reply_complete selected added] at left answer
          let message : Message D C :=
            ⟨engine, bytes, (engine.handle server (.clientData id data)).1⟩
          have alike : message.engine.Alike middle := alike
          obtain ⟨rfl, kept, progress⟩ :=
            explains_turn alike uid selected standard explained decoder answer left busy
          exact ⟨kept, progress.of_dialogue rfl rfl, explained.left⟩
      | .ok .abort =>
          rw [Engine.reply_spoiled (by rw [added]; simp) (by rw [added]; simp)] at left
          cases left
      | .error cause =>
          rw [Engine.reply_spoiled (by rw [added]; simp) (by rw [added]; simp)] at left
          cases left

/-- What a client has said once it has asked for a mechanism, which is nothing, explains what the
session holds. -/
theorem explains_start {engine middle : Engine D C} {id server name : String}
    {certfp : Option String} {session after : Session} {used : Registration}
    (sound : engine.Sound Mechanism.Standard)
    (enters : engine.Enters server (.startAuth id name certfp) session middle)
    (left : (middle.reply session (.startAuth id name certfp)).session = some after)
    (busy : after.mechanism = some used) :
    ({ found := engine.sessions.find? id } : Dialogue D C).Explains id used after := by
  have tidy : (session.presenting certfp).Tidy Mechanism.Standard id :=
    (sound.tidy_entered enters).presenting certfp
  have known : (session.presenting certfp).authc =
        ({ found := engine.sessions.find? id } : Dialogue D C).leftAuthc ∧
      (session.presenting certfp).authz =
        ({ found := engine.sessions.find? id } : Dialogue D C).leftAuthz ∧
      (session.presenting certfp).pending = (engine.sessions.find? id).bind Session.pending := by
    rw [session.authc_presenting, session.authz_presenting, session.pending_presenting]
    cases found : engine.sessions.find? id with
    | none =>
        rw [enters.fresh found]
        exact ⟨rfl, rfl, rfl⟩
    | some earlier =>
        obtain ⟨rfl, -⟩ := enters.known earlier found
        exact ⟨rfl, rfl, rfl⟩
  simp only [Engine.reply] at left
  generalize session.presenting certfp = session at tidy known left
  split at left
  · cases left
  · split at left
    · cases left
    · next idle =>
        obtain ⟨state, decoder⟩ := tidy.idle idle
        obtain ⟨authc, authz, pending⟩ := known
        have unresolved := tidy.unresolved idle
        rw [authc, authz, pending] at unresolved
        split at left
        · cases left
          rw [idle] at busy
          cases busy
        · next registration found =>
            have standard : registration.mechanism.isStandard = true := by
              have member := List.mem_of_find?_eq_some found
              rw [enters.alike.registry] at member
              exact sound.registry registration member
            let started : Session := { session with mechanism := some registration }
            unfold Engine.turn at left
            simp only [Registration.turn] at left
            rcases registration.start_cases (middle.context started) standard with
              done | ⟨refused, done, near⟩
            · rw [show registration.start (middle.context
                { session with mechanism := some registration }) = _ from done] at left
              cases left
              cases busy
              exact ⟨decoder, .silent rfl state authc authz, unresolved⟩
            · rw [show registration.start (middle.context
                { session with mechanism := some registration }) = _ from done] at left
              obtain ⟨⟨data, absurd⟩, -⟩ := Reply.more_of_busy left busy
              cases absurd

/-- What a client has said explains what its session holds when a frame has found it. -/
theorem entered (faithful : observed.Faithful) {server : String} {inbound : Inbound}
    {session : Session} {middle : Engine D C} {registration : Registration}
    (enters : observed.engine.Enters server inbound session middle)
    (selected : session.mechanism = some registration) :
    (observed.dialogue inbound.session).Explains inbound.session registration session := by
  cases known : observed.engine.sessions.find? inbound.session with
  | none =>
      rw [enters.fresh known] at selected
      cases selected
  | some earlier =>
      obtain ⟨rfl, -⟩ := enters.known earlier known
      obtain ⟨decoder, progress, left⟩ :=
        faithful.explained inbound.session earlier registration known selected
      exact ⟨decoder, progress.of_same rfl rfl rfl, left⟩

/-- A frame leaves every negotiation explained. -/
theorem frame (faithful : observed.Faithful) (server : String) (inbound : Inbound) :
    (observed.perform (.frame server inbound)).Faithful := by
  refine ⟨faithful.sound.handle server inbound, ?_⟩
  intro id session registration found busy
  replace found : (observed.engine.handle server inbound).2.sessions.find? id =
      some session := found
  -- What a session holds is only touched, and its client only heard, by its own frames.
  have silent (other : id ≠ inbound.session) :
      (observed.perform (.frame server inbound)).dialogue id = observed.dialogue id := by
    cases inbound with
    | startAuth own name certfp => exact if_neg (Ne.symm other)
    | clientData own data => exact if_neg (Ne.symm other)
    | _ => rfl
  rcases observed.engine.handle_cases server inbound faithful.sound.keyed with
    ⟨unknown, -, -, sessions⟩ | ⟨entered, middle, enters, gives⟩
  · rw [sessions] at found
    have other : id ≠ inbound.session := by
      rintro rfl
      rw [unknown] at found
      cases found
    rw [silent other]
    exact faithful.explained id session registration found busy
  · rw [gives.sessions id] at found
    by_cases own : id = inbound.session
    · rw [if_pos own] at found
      subst own
      cases inbound with
      | hostInfo own host ip secure =>
          cases found
          obtain ⟨decoder, progress, left⟩ := faithful.entered enters busy
          exact ⟨decoder, progress.of_same rfl rfl rfl, left⟩
      | startAuth own name certfp =>
          have explained := explains_start faithful.sound enters found busy
          have restarted : (observed.perform (.frame server (.startAuth own name certfp))).dialogue
              own = { found := observed.engine.sessions.find? own } := if_pos rfl
          rw [show (Inbound.startAuth own name certfp).session = own from rfl, restarted]
          exact explained
      | clientData own data =>
          have heard : (observed.perform (.frame server (.clientData own data))).dialogue own =
              (observed.dialogue own).hear observed.engine server own data := if_pos rfl
          rw [show (Inbound.clientData own data).session = own from rfl, heard]
          cases selected : entered.mechanism with
          | none =>
              have refused : middle.reply entered (.clientData own data) =
                  middle.refusal entered := by
                simp only [Engine.reply, selected]
              rw [refused] at found
              cases found
          | some used =>
              have standard := (faithful.sound.tidy_entered enters).selected used selected
              exact explains_data enters.alike enters.uid gives selected standard
                (faithful.entered enters selected) found busy
      | done own =>
          replace found : entered.afterFailure = some session := found
          unfold Session.afterFailure at found
          split at found
          · cases found
            cases busy
          · cases found
    · rw [if_neg own] at found
      rw [silent own]
      exact faithful.explained id session registration found busy

/-- After every run, what the clients have said explains every negotiation. -/
theorem run (faithful : observed.Faithful) (events : List (Engine.Event D))
    (offers : ∀ event ∈ events, event.Offers Mechanism.Standard) :
    (observed.run events).Faithful := by
  refine Observed.run_invariant ?_ faithful events offers
  intro observed event offers faithful
  by_cases framed : ∃ server inbound, event = .frame server inbound
  · obtain ⟨server, inbound, rfl⟩ := framed
    exact faithful.frame server inbound
  · refine faithful.descends offers ?_
    intro server inbound same
    exact framed ⟨server, inbound, same⟩

end Observed.Faithful

end IrcSasl
