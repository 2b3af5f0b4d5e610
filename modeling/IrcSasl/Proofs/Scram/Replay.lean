import IrcSasl.Proofs.Engine.Consistency
import IrcSasl.Proofs.Scram.Attributes
import IrcSasl.Proofs.Scram.Challenge

set_option autoImplicit false

/-!
# Replayed messages

A final message names the combined nonce of its exchange. Exchanges of different random bytes have
different nonces, however long the clients make theirs, and a message that carries the nonce of
another exchange is refused before its proof is looked at (`Engine.replay_refused`). What an
exchange is opened with stays until it ends: `Advances` says what a step makes of the state of a
mechanism, and `Engine.Conducts` ties an exchange of a run to its random bytes.
-/

namespace IrcSasl

namespace Scram

/-! ## Messages with the nonce of another exchange -/

namespace Attributes

/-- An attribute whose field stands in a message that can be read is read. -/
theorem get?_of_mem_field {before : List UInt8} {fields : List Bytes} {attributes : Attributes}
    {name : UInt8} {value : Bytes} (read : readFields before fields = .ok attributes)
    (member : field (name, value) ∈ fields) :
    attributes.get? name = some value ∧ name ∉ before := by
  induction fields generalizing before attributes with
  | nil => cases member
  | cons text rest ih =>
      rw [readFields] at read
      split at read
      · cases read
      · next first kept head =>
          split at read
          · cases read
          · next others tail =>
              cases read
              rcases List.mem_cons.mp member with rfl | later
              · unfold readField at head
                simp only [field] at head
                split at head
                · cases head
                · split at head
                  · cases head
                  · next unseen =>
                      cases value with
                      | nil => cases head
                      | cons symbol value =>
                          cases head
                          exact ⟨by simp [get?], by simpa using unseen⟩
              · obtain ⟨found, unseen⟩ := ih tail later
                obtain ⟨other, unseen⟩ := List.ne_and_not_mem_of_not_mem_cons unseen
                refine ⟨?_, unseen⟩
                rw [get?, List.find?_cons_of_neg (by simpa using Ne.symm other)]
                exact found

end Attributes

/-- A message carries a nonce if one of its fields is the attribute `r` with that value. -/
def Carries (message nonce : Bytes) : Prop :=
  Attributes.field (0x72, nonce) ∈ Fields.split Attributes.comma message

instance (message nonce : Bytes) : Decidable (Carries message nonce) :=
  inferInstanceAs (Decidable (_ ∈ _))

namespace Exchange

/-- Two states of one exchange: what was settled by the first message is the same. -/
structure SameOpening (first later : Exchange) : Prop where
  nonce : later.nonce = first.nonce
  clientFirst : later.clientFirst = first.clientFirst
  header64 : later.header64 = first.header64
  serverFirst : later.serverFirst = first.serverFirst

theorem SameOpening.refl (exchange : Exchange) : SameOpening exchange exchange :=
  ⟨rfl, rfl, rfl, rfl⟩

theorem SameOpening.trans {first second third : Exchange} (early : SameOpening first second)
    (late : SameOpening second third) : SameOpening first third :=
  ⟨late.nonce.trans early.nonce, late.clientFirst.trans early.clientFirst,
    late.header64.trans early.header64, late.serverFirst.trans early.serverFirst⟩

/-- Random bytes of one length can be told from the combined nonce, whatever the client's part is:
they are what the end of the nonce stands for. -/
theorem serverNonce_of_nonce {first second : ClientFirst}
    (printable : ClientFirst.isNonce first.nonce = true)
    (printable' : ClientFirst.isNonce second.nonce = true) {credential other : Credential}
    {account account' : Option AccountId} {serverNonce otherNonce : Bytes}
    (width : serverNonce.length = otherNonce.length)
    (same : (start first credential account serverNonce).nonce =
      (start second other account' otherNonce).nonce) : serverNonce = otherNonce := by
  have bytes := Bytes.ofString_inj.mpr same
  rw [ofString_nonce _ _ _ printable, ofString_nonce _ _ _ printable'] at bytes
  have lengths : (Base64.encode serverNonce).length = (Base64.encode otherNonce).length := by
    rw [Base64.length_encode, Base64.length_encode, width]
  have texts : Base64.encode serverNonce = Base64.encode otherNonce :=
    List.append_inj_right' bytes lengths
  have decoded := congrArg Base64.decode? texts
  simpa using decoded

/-- The proof of a message with another nonce is not read. -/
theorem readProof_of_carried {exchange : Exchange} {message nonce : Bytes}
    (carries : Carries message nonce) (other : nonce ≠ Bytes.ofString exchange.nonce) :
    ∃ fault, exchange.readProof message = .error fault := by
  cases read : exchange.readProof message with
  | error fault => exact ⟨fault, rfl⟩
  | ok proof =>
      obtain ⟨attributes, listed, accepted⟩ := readProof_eq_ok_iff.mp read
      obtain ⟨-, -, named, -⟩ := proofOf_eq_ok_iff.mp accepted
      unfold Attributes.parse at listed
      split at listed
      · cases listed
      · obtain ⟨carried, -⟩ := Attributes.get?_of_mem_field listed carries
        exact absurd (Option.some.inj (carried.symm.trans named)) other

end Exchange

variable {D C : Type} [AccountDirectory D]

/-- A final message whose proof cannot be read is refused, which notes no more than that. -/
theorem clientFinal_of_unread (ctx : Context D C) {exchange : Exchange} {message : Bytes}
    {fault : Fault} (unread : exchange.readProof message = .error fault) :
    ∃ told, clientFinal ctx exchange message = refuse ctx told := by
  unfold clientFinal
  split
  · exact ⟨_, rfl⟩
  · split
    · exact ⟨_, rfl⟩
    · rw [unread]
      exact ⟨_, rfl⟩

variable [CredentialStore C]

/-- A SCRAM server that waits for the proof refuses a message whose proof cannot be read. -/
theorem Server.step_of_unread (server : Server) {ctx : Context D C} {exchange : Exchange}
    (held : ctx.session.state = some (.scram exchange)) (waits : exchange.complete = false)
    {message : Bytes} {fault : Fault} (unread : exchange.readProof message = .error fault) :
    ∃ told, server.step ctx message = refuse ctx told := by
  rw [server.step_of_waits held waits]
  exact clientFinal_of_unread ctx unread

end Scram

/-! ## What a step makes of the state of a mechanism -/

/-- The exchange that a mechanism keeps. -/
def MechanismState.exchange? : MechanismState → Option Scram.Exchange
  | .scram exchange => some exchange
  | .text _ | .number _ => none

theorem MechanismState.eq_of_exchange? {state : MechanismState} {exchange : Scram.Exchange}
    (held : state.exchange? = some exchange) : state = .scram exchange := by
  cases state with
  | scram other =>
      cases held
      rfl
  | text => cases held
  | number => cases held

/-- What a step that asks for more may make of what the mechanism keeps, given the random bytes at
hand: it keeps it, it keeps something of its own, it opens an exchange, or it goes on with one. -/
inductive Advances (entropy : Entropy) : Option MechanismState → Option MechanismState → Prop where
  | same (state : Option MechanismState) : Advances entropy state state
  | noted (before : Option MechanismState) {state : MechanismState}
      (own : state.exchange? = none) : Advances entropy before (some state)
  | opened {first : Scram.ClientFirst} (credential : Credential) (account : Option AccountId)
      {serverNonce : Bytes} (printable : Scram.ClientFirst.isNonce first.nonce = true)
      (drawn : (entropy.fill Limits.nonceLengthRaw).1 = some serverNonce) :
      Advances entropy none (some (.scram (.start first credential account serverNonce)))
  | continued {exchange later : Scram.Exchange} (opening : exchange.SameOpening later) :
      Advances entropy (some (.scram exchange)) (some (.scram later))

/-- A state of its own comes to no exchange. -/
theorem Advances.of_own {entropy : Entropy} {before middle after : Option MechanismState}
    (early : middle = before ∨ ∃ state, middle = some state ∧ state.exchange? = none)
    (late : Advances entropy middle after) : Advances entropy before after := by
  rcases early with rfl | ⟨state, rfl, own⟩
  · exact late
  · cases late with
    | same => exact .noted _ own
    | noted _ own => exact .noted _ own
    | continued => cases own

section

variable {D C : Type} [AccountDirectory D]

omit [AccountDirectory D] in
theorem Context.Near.advances {before after : Context D C} (near : before.Near after) :
    Advances before.env.entropy before.session.state after.session.state := by
  rw [near.state]
  exact .same _

variable [CredentialStore C]

theorem Scram.Server.advances_step {server : Scram.Server} {ctx after : Context D C}
    {message data : Bytes} (stepped : server.step ctx message = (.more data, after)) :
    Advances ctx.env.entropy ctx.session.state after.session.state := by
  unfold step at stepped
  split at stepped
  · next idle =>
      obtain ⟨step, left, first, -, -, cases⟩ := server.clientFirst_cases ctx message
      cases first.symm.trans stepped
      rcases cases with
        ⟨reply, absurd⟩ |
        ⟨first, credential, account, serverNonce, parsed, drawn, -, state, -⟩
      · cases absurd
      · rw [idle, state]
        exact .opened credential account (ClientFirst.isNonce_of_parse parsed) drawn
  · next exchange held =>
      split at stepped
      · obtain ⟨step, left, third, -, -, -, -, -, cases⟩ := acknowledge_cases ctx exchange
        cases third.symm.trans stepped
        rcases cases with absurd | ⟨absurd, -⟩ <;> cases absurd
      · obtain ⟨step, left, second, -, -, -, -, -, cases⟩ := clientFinal_cases ctx exchange message
        cases second.symm.trans stepped
        rcases cases with ⟨reply, absurd⟩ | ⟨proof, -, ⟨-, state, -⟩ | ⟨-, absurd⟩⟩
        · cases absurd
        · rw [held, state]
          exact .continued ⟨rfl, rfl, rfl, rfl⟩
        · cases absurd
  · cases stepped

namespace Script

/-- An action that does not end the step keeps the state of the mechanism, or replaces it by one of
its own. -/
theorem state_act (ctx : Context D C) (action : Action) :
    ((act ctx action).session.state = ctx.session.state ∨
      ∃ state, (act ctx action).session.state = some state ∧ state.exchange? = none) ∧
      (act ctx action).env.entropy = ctx.env.entropy := by
  cases action with
  | authcid name =>
      obtain ⟨id, after, resolved, near, -⟩ := ctx.resolveAuthcid_cases name
      simp only [act, resolved]
      exact ⟨.inl near.state, near.entropy⟩
  | authzid name =>
      obtain ⟨id, after, resolved, near, -⟩ := ctx.resolveAuthzid_cases name
      simp only [act, resolved]
      exact ⟨.inl near.state, near.entropy⟩
  | setText text => exact ⟨.inr ⟨.text text, rfl, rfl⟩, rfl⟩
  | setNumber number => exact ⟨.inr ⟨.number number, rfl, rfl⟩, rfl⟩
  | appendText text =>
      simp only [act]
      split
      · exact ⟨.inr ⟨_, rfl, rfl⟩, rfl⟩
      · exact ⟨.inl rfl, rfl⟩
  | state =>
      simp only [act]
      split <;> exact ⟨.inl rfl, rfl⟩
  | rewrite id hash =>
      simp only [act]
      split <;> exact ⟨.inl rfl, rfl⟩
  | _ => exact ⟨.inl rfl, rfl⟩

theorem advances_run {inner : Scram.Server} {message data : Bytes} {actions : List Action}
    {ctx after : Context D C} (ran : run inner message actions ctx = (.more data, after)) :
    Advances ctx.env.entropy ctx.session.state after.session.state := by
  fun_induction run inner message actions ctx with
  | case1 => cases ran
  | case2 | case3 =>
      cases ran
      exact .same _
  | case4 | case5 | case6 => cases ran
  | case7 => exact Scram.Server.advances_step ran
  | case8 action rest ctx _ _ _ _ _ _ ih =>
      obtain ⟨state, entropy⟩ := state_act ctx action
      have following := ih ran
      rw [entropy] at following
      exact .of_own state following

end Script

/-- What a mechanism that asks for more makes of its state. -/
theorem Registration.advances_turn {registration : Registration} {ctx after : Context D C}
    {message : Option Bytes} {data : Bytes}
    (turned : registration.turn ctx message = (.more data, after)) :
    Advances ctx.env.entropy ctx.session.state after.session.state := by
  cases message with
  | none =>
      change registration.start ctx = _ at turned
      unfold start at turned
      split at turned
      · unfold External.start at turned
        split at turned
        · cases turned
        · cases turned
          exact .same _
      · exact Script.advances_run turned
      · cases turned
        exact .same _
  | some message =>
      change registration.step ctx message = _ at turned
      unfold step at turned
      split at turned
      · obtain ⟨step, left, stepped, near, -⟩ := Plain.step_cases ctx message
        cases stepped.symm.trans turned
        exact near.advances
      · obtain ⟨step, left, stepped, near, -⟩ := External.step_cases ctx message
        cases stepped.symm.trans turned
        exact near.advances
      · exact Scram.Server.advances_step turned
      · have advances := Script.advances_run turned
        exact advances
      · cases turned

end

/-! ## What a run makes of it -/

namespace Engine

variable {D C : Type}

/-- A client begins a negotiation. -/
def Event.Begins (id : String) : Event D → Prop
  | .frame _ (.startAuth session _ _) => session = id
  | _ => False

/-- What may become of the mechanism and the state of a session at an event that begins a
negotiation in it or does not. -/
inductive Moves (engine : Engine D C) (id : String) (begins : Prop) (after : Session) : Prop where
  | stays (state : after.state = engine.state? id)
      (mechanism : after.mechanism = engine.mechanism? id)
  | works (asked : begins ∨ (engine.mechanism? id).isSome)
      (advances : Advances engine.env.entropy (engine.state? id) after.state)
  | rests (mechanism : after.mechanism = none) (state : after.state = none)

section

variable [AccountDirectory D] [CredentialStore C]

theorem moves_turn {engine middle : Engine D C} {id : String} {begins : Prop}
    {session after : Session} {registration : Registration} {message : Option Bytes}
    (left : (middle.turn session registration message).session = some after)
    (entropy : middle.env.entropy = engine.env.entropy) (state : session.state = engine.state? id)
    (asked : begins ∨ (engine.mechanism? id).isSome) :
    engine.Moves id begins after := by
  have kept := registration.keeps_turn (middle.context session) message
  unfold turn at left
  generalize turned : registration.turn (middle.context session) message = outcome at kept left
  obtain ⟨step, ctx⟩ := outcome
  rcases Reply.session_ofStep left with ⟨⟨data, rfl⟩, rfl⟩ | ⟨target, -, rfl⟩ | failed
  · have advances := Registration.advances_turn turned
    rw [context, entropy, state] at advances
    exact .works asked advances
  · exact .rests rfl rfl
  · unfold Session.afterFailure at failed
    split at failed
    · cases failed
      exact .rests rfl rfl
    · cases failed

theorem moves_reply {engine middle : Engine D C} {server : String} {frame : Inbound}
    {session after : Session} (enters : engine.Enters server frame session middle)
    (left : (middle.reply session frame).session = some after) :
    engine.Moves frame.session ((Event.frame server frame : Event D).Begins frame.session)
      after := by
  obtain ⟨mechanism, -⟩ := enters.same
  have state := enters.state
  have entropy := enters.alike.entropy
  have kept (certfp : Option String) : (session.presenting certfp).state = session.state := by
    cases certfp <;> rfl
  cases left_of_reply left with
  | told id host ip secure => exact .stays state mechanism
  | @unregistered id name certfp idle =>
      refine .stays ((kept certfp).trans state) ?_
      exact (session.mechanism_presenting certfp).trans mechanism
  | @started id name certfp registration after idle found left =>
      exact moves_turn left entropy ((kept certfp).trans state) (.inl rfl)
  | fed selected added => exact .stays state mechanism
  | stepped selected added left =>
      exact moves_turn left entropy state
        (.inr (Option.isSome_of_eq_some (mechanism.symm.trans selected)))
  | stopped left =>
      unfold Session.afterFailure at left
      split at left
      · cases left
        exact .rests rfl rfl
      · cases left

/-- What an event makes of the mechanism of a session and of what it keeps. -/
theorem moves_perform {engine : Engine D C} (sound : engine.Sound fun _ => True) (event : Event D)
    {id : String} {after : Session}
    (left : (engine.perform event).sessions.find? id = some after) :
    engine.Moves id (event.Begins id) after := by
  have stays {earlier : Session} (found : engine.sessions.find? id = some earlier)
      (state : after.state = earlier.state) (mechanism : after.mechanism = earlier.mechanism) :
      engine.Moves id (event.Begins id) after := by
    refine .stays ?_ ?_
    · rw [state?, found, Option.bind_some, state]
    · rw [mechanism?, found, Option.bind_some, mechanism]
  by_cases framed : ∃ server inbound, event = .frame server inbound
  · obtain ⟨server, inbound, rfl⟩ := framed
    change (engine.handle server inbound).2.sessions.find? id = some after at left
    rcases engine.handle_cases server inbound sound.keyed with
      ⟨-, -, -, sessions⟩ | ⟨session, middle, enters, gives⟩
    · rw [sessions] at left
      exact stays left rfl rfl
    · rw [gives.sessions id] at left
      split at left
      · next same =>
          subst same
          exact moves_reply enters left
      · exact stays left rfl rfl
  · have descends : Descends (fun _ => True) engine (engine.perform event) :=
      .perform engine sound.keyed event event.offers_any fun server inbound same =>
        framed ⟨server, inbound, same⟩
    obtain ⟨earlier, found, same⟩ := descends.sessions id after left
    rw [same]
    rw [same] at stays
    exact stays found rfl rfl

omit [AccountDirectory D] [CredentialStore C] in
/-- An exchange goes on as it was opened. -/
theorem sameOpening_of_moves {engine : Engine D C} {id : String} {begins : Prop} {after : Session}
    {held later : Scram.Exchange} (moves : engine.Moves id begins after)
    (before : engine.state? id = some (.scram held)) (state : after.state = some (.scram later)) :
    held.SameOpening later := by
  cases moves with
  | stays same mechanism =>
      rw [before, state] at same
      cases same
      exact .refl _
  | works asked advances =>
      rw [before, state] at advances
      cases advances with
      | same => exact .refl _
      | noted _ own => cases own
      | continued opening => exact opening
  | rests mechanism none =>
      rw [state] at none
      cases none

end

/-- The exchange that a mechanism keeps, if it keeps one, is as it was opened, and no other can be
opened before the client begins anew: a mechanism that keeps nothing is in use no more. -/
def Retained (first : Scram.Exchange) (mechanism : Option Registration) :
    Option MechanismState → Prop
  | some (.scram later) => first.SameOpening later
  | some _ => True
  | none => mechanism = none

theorem Retained.advances {first : Scram.Exchange} {mechanism left : Option Registration}
    {entropy : Entropy} {before after : Option MechanismState}
    (retained : Retained first mechanism before) (busy : mechanism.isSome)
    (advances : Advances entropy before after) : Retained first left after := by
  cases advances with
  | same =>
      match before, retained with
      | none, idle =>
          rw [show mechanism = none from idle] at busy
          cases busy
      | some (.scram _), opening => exact opening
      | some (.text _), _ => trivial
      | some (.number _), _ => trivial
  | @noted _ state own =>
      match state with
      | .scram exchange => cases own
      | .text _ => trivial
      | .number _ => trivial
  | opened =>
      rw [show mechanism = none from retained] at busy
      cases busy
  | continued opening =>
      have early : first.SameOpening _ := retained
      exact early.trans opening

variable [AccountDirectory D] [CredentialStore C]

theorem Retained.perform {engine : Engine D C} (sound : engine.Sound fun _ => True) {id : String}
    {first : Scram.Exchange} (retained : Retained first (engine.mechanism? id) (engine.state? id))
    (event : Event D) (goesOn : ¬ event.Begins id) :
    Retained first ((engine.perform event).mechanism? id) ((engine.perform event).state? id) := by
  cases left : (engine.perform event).sessions.find? id with
  | none =>
      rw [state?, mechanism?, left]
      exact rfl
  | some after =>
      rw [state?, mechanism?, left, Option.bind_some, Option.bind_some]
      cases moves_perform sound event left with
      | stays state mechanism =>
          rw [state, mechanism]
          exact retained
      | works asked advances => exact retained.advances (asked.resolve_left goesOn) advances
      | rests mechanism state =>
          rw [mechanism, state]
          exact rfl

theorem Retained.performAll {engine : Engine D C} (sound : engine.Sound fun _ => True)
    {id : String} {first : Scram.Exchange}
    (retained : Retained first (engine.mechanism? id) (engine.state? id))
    (events : List (Event D)) (goesOn : ∀ event ∈ events, ¬ event.Begins id) :
    Retained first ((engine.performAll events).mechanism? id)
      ((engine.performAll events).state? id) := by
  induction events generalizing engine with
  | nil => exact retained
  | cons event rest ih =>
      exact ih (sound.perform event event.offers_any)
        (retained.perform sound event (goesOn event List.mem_cons_self)) fun later member =>
          goesOn later (List.mem_cons_of_mem _ member)

/-! ## Exchanges of runs -/

/-- In a run, a session has opened an exchange with these random bytes, and has come to hold it like
this since. -/
inductive Conducts (id : String) (serverNonce : Bytes) : Engine D C → Scram.Exchange → Prop where
  | opened {engine : Engine D C} {exchange : Scram.Exchange} (reachable : engine.Reachable)
      (event : Event D) (idle : engine.state? id = none)
      (drawn : (engine.env.draw Limits.nonceLengthRaw).1 = some serverNonce)
      (held : (engine.perform event).state? id = some (.scram exchange)) :
      Conducts id serverNonce (engine.perform event) exchange
  | continued {engine : Engine D C} {earlier exchange : Scram.Exchange}
      (conducts : Conducts id serverNonce engine earlier) (event : Event D)
      (held : (engine.perform event).state? id = some (.scram exchange)) :
      Conducts id serverNonce (engine.perform event) exchange

omit [AccountDirectory D] [CredentialStore C] in
theorem session_of_state? {engine : Engine D C} {id : String} {state : MechanismState}
    (held : engine.state? id = some state) :
    ∃ session, engine.sessions.find? id = some session ∧ session.state = some state :=
  Option.bind_eq_some_iff.mp held

namespace Conducts

variable {engine : Engine D C} {id : String} {serverNonce : Bytes} {exchange : Scram.Exchange}

theorem reachable (conducts : engine.Conducts id serverNonce exchange) : engine.Reachable := by
  induction conducts with
  | opened reachable event => exact reachable.perform event
  | continued _ event _ ih => exact ih.perform event

theorem held (conducts : engine.Conducts id serverNonce exchange) :
    engine.state? id = some (.scram exchange) := by
  cases conducts with
  | opened _ _ _ _ held => exact held
  | continued _ _ held => exact held

/-- An exchange still is what its first message and its random bytes have made of it. -/
theorem opening (conducts : engine.Conducts id serverNonce exchange) :
    serverNonce.length = Limits.nonceLengthRaw ∧ ∃ first credential account,
      Scram.ClientFirst.isNonce first.nonce = true ∧
      (Scram.Exchange.start first credential account serverNonce).SameOpening exchange := by
  induction conducts with
  | @opened engine exchange reachable event idle drawn held =>
      refine ⟨Entropy.length_fill (Prod.ext drawn rfl), ?_⟩
      obtain ⟨after, left, state⟩ := session_of_state? held
      cases moves_perform reachable.sound event left with
      | stays same mechanism =>
          rw [state, idle] at same
          cases same
      | works asked advances =>
          rw [idle, state] at advances
          cases advances with
          | noted _ own => cases own
          | @opened first credential account other printable fresh =>
              cases drawn.symm.trans fresh
              exact ⟨first, credential, account, printable, .refl _⟩
      | rests mechanism none =>
          rw [state] at none
          cases none
  | @continued engine earlier exchange conducts event held ih =>
      obtain ⟨length, first, credential, account, printable, opening⟩ := ih
      obtain ⟨after, left, state⟩ := session_of_state? held
      have moves := moves_perform conducts.reachable.sound event left
      exact ⟨length, first, credential, account, printable,
        opening.trans (sameOpening_of_moves moves conducts.held state)⟩

end Conducts

/-- A message that has arrived for an exchange is refused with an error. Its proof is not looked at,
it counts against nobody, and the exchange stays as it was. -/
structure Repels (engine : Engine D C) (uplink : String) (inbound : Inbound) (arrival : Arrival)
    (exchange : Scram.Exchange) : Prop where
  held : arrival.session.state = some (.scram exchange)
  unread : ∀ proof, exchange.readProof arrival.message ≠ .ok proof
  refused : ∃ (fault : Scram.Fault) (after : Context D C),
    engine.decision? inbound = some (.refused (Scram.errorReply fault.token), after) ∧
    after.session = arrival.session ∧
    (engine.handle uplink inbound).1 = Scram.rejection inbound.session fault.token
  accounts : (engine.handle uplink inbound).2.accounts = engine.accounts

/-- A SCRAM server repels a message whose proof cannot be read. -/
theorem repels_of_unread {engine : Engine D C} (keyed : engine.Keyed) (uplink : String)
    {inbound : Inbound} {arrival : Arrival} (arrived : engine.arrival? inbound = some arrival)
    {server : Scram.Server} (scram : arrival.registration.mechanism = .scram server)
    {exchange : Scram.Exchange} (held : arrival.session.state = some (.scram exchange))
    (waits : exchange.complete = false) {fault : Scram.Fault}
    (unread : exchange.readProof arrival.message = .error fault) :
    engine.Repels uplink inbound arrival exchange := by
  have state : (engine.context arrival.session).session.state = some (.scram exchange) := held
  obtain ⟨told, stepped⟩ := server.step_of_unread state waits unread
  have decided : engine.decide arrival = Scram.refuse (engine.context arrival.session) told :=
    (Registration.step_of_scram scram _ _).trans stepped
  have given := handle_decided keyed uplink arrived
  rw [turn_of_quiet decided rfl] at given
  have uid : arrival.session.info.uid = inbound.session := by
    obtain ⟨data, session, decoder, -, found, -, -, fed⟩ := arrival?_eq_some arrived
    rw [fed]
    exact keyed inbound.session session found
  refine ⟨held, fun proof read => ?_, ⟨told, _, (decision?_of_arrival arrived).trans
    (congrArg some decided), rfl, ?_⟩, given.accounts⟩
  · rw [unread] at read
    cases read
  · rw [given.frames, Scram.rejection, ← uid]
    rfl

/-- Two exchanges of any runs that were opened with different random bytes have different nonces. A
message that carries the nonce of the first one and arrives while the second one waits for its proof
is refused by every SCRAM server: the step notes the fault and does nothing else. And what the first
message has settled of an exchange stays for as long as the negotiation lasts. -/
theorem replay_refused {D' C' : Type} [AccountDirectory D'] [CredentialStore C']
    {engine : Engine D C} {other : Engine D' C'} {id id' : String} {serverNonce otherNonce : Bytes}
    {first second : Scram.Exchange} (earlier : engine.Conducts id serverNonce first)
    (later : other.Conducts id' otherNonce second) (differ : serverNonce ≠ otherNonce) :
    first.nonce ≠ second.nonce ∧
    (∀ (server : Scram.Server) (ctx : Context D' C') (message : Bytes),
      ctx.session.state = some (.scram second) → second.complete = false →
      Scram.Carries message (Bytes.ofString first.nonce) →
      ∃ fault, server.step ctx message = Scram.refuse ctx fault) ∧
    (∀ uplink inbound arrival server, inbound.session = id' →
      other.arrival? inbound = some arrival → arrival.registration.mechanism = .scram server →
      second.complete = false → Scram.Carries arrival.message (Bytes.ofString first.nonce) →
      other.Repels uplink inbound arrival second) ∧
    ∀ events, (∀ event ∈ events, ¬ event.Begins id) → ∀ held,
      (engine.performAll events).state? id = some (.scram held) → first.SameOpening held := by
  have nonces : first.nonce ≠ second.nonce := by
    obtain ⟨length, opening, credential, account, printable, begun⟩ := earlier.opening
    obtain ⟨length', opening', credential', account', printable', begun'⟩ := later.opening
    intro same
    rw [begun.nonce, begun'.nonce] at same
    exact differ (Scram.Exchange.serverNonce_of_nonce printable printable'
      (length.trans length'.symm) same)
  have unread {message : Bytes} (carries : Scram.Carries message (Bytes.ofString first.nonce)) :
      ∃ fault, second.readProof message = .error fault :=
    Scram.Exchange.readProof_of_carried carries fun same => nonces (Bytes.ofString_inj.mp same)
  refine ⟨nonces, ?_, ?_, ?_⟩
  · intro server ctx message held waits carries
    obtain ⟨fault, unread⟩ := unread carries
    exact server.step_of_unread held waits unread
  · intro uplink inbound arrival server same arrived scram waits carries
    obtain ⟨fault, unread⟩ := unread carries
    refine repels_of_unread later.reachable.sound.keyed uplink arrived scram ?_ waits unread
    obtain ⟨data, session, decoder, -, found, -, -, fed⟩ := arrival?_eq_some arrived
    obtain ⟨session', found', state⟩ := session_of_state? later.held
    rw [same] at found
    cases found.symm.trans found'
    rw [fed]
    exact state
  · intro events goesOn held left
    have retained : Retained first (engine.mechanism? id) (engine.state? id) := by
      rw [earlier.held]
      exact .refl first
    have retained := retained.performAll earlier.reachable.sound events goesOn
    rw [left] at retained
    exact retained

end Engine

/-! ## A proof that is sent in another session -/

/-- Two clients open exchanges with the same account, one after the other. -/
def pencilPair : List (Engine.Event MemoryDirectory) :=
  [.registered (.scram pencilServer),
   .frame "hub" (.startAuth "U1" "SCRAM-SHA-1" none),
   .frame "hub" (.startAuth "U2" "SCRAM-SHA-1" none),
   .frame "hub" (.clientData "U1" "biwsbj1hbGljZSxyPWFiY2RlZmdo"),
   .frame "hub" (.clientData "U2" "biwsbj1hbGljZSxyPWFiY2RlZmdo")]

/-- The final message of the first of these exchanges, sent in the session of the second. -/
def pencilReplay : Inbound :=
  .clientData "U2" <|
    "Yz1iaXdzLHI9YWJjZGVmZ2hBQXNXSVN3M1FrMVlZMjU1aEkrYXBiQzd4dEhjNS9MOUNCTWVLVFEvU2xW" ++
    "Z2EzYUJqSmVp" ++ "cmJqRHp0bms3L29GLHA9RVZXTStOWG1OT2J2WGgyT3Q2K1dZaWdpT2w0PQ=="

theorem reachable_pencilPair (length : Nat) :
    (pencilEngine.performAll (pencilPair.take length)).Reachable := by
  have created : Engine.create {} pencilAccounts ⟨{}⟩ (.arithmetic 0 []) = .ok pencilEngine := rfl
  exact (Engine.Reachable.create created).performAll _

set_option maxRecDepth 100000 in
/-- The proof of one client is refused in the session of the other, and the exchange of the first
is as it was. -/
theorem replay_refused_pencil :
    ∃ serverNonce otherNonce first second arrival held,
      serverNonce ≠ otherNonce ∧
      (pencilEngine.performAll pencilPair).Conducts "U1" serverNonce first ∧
      (pencilEngine.performAll pencilPair).Conducts "U2" otherNonce second ∧
      first.nonce ≠ second.nonce ∧
      Scram.Carries arrival.message (Bytes.ofString first.nonce) ∧
      (pencilEngine.performAll pencilPair).Repels "hub" pencilReplay arrival second ∧
      (pencilEngine.performAll (pencilPair ++ [.frame "hub" pencilReplay])).state? "U1" =
        some (.scram held) ∧ first.SameOpening held := by
  have exchanges : ∃ one ∈ (pencilEngine.performAll pencilPair).state? "U1",
      ∃ other ∈ (pencilEngine.performAll pencilPair).state? "U2",
      ∃ first ∈ one.exchange?, ∃ second ∈ other.exchange?,
      ∃ arrival ∈ (pencilEngine.performAll pencilPair).arrival? pencilReplay,
        arrival.registration.mechanism = .scram pencilServer ∧ second.complete = false ∧
        Scram.Carries arrival.message (Bytes.ofString first.nonce) := by decide +kernel
  have draws : ∃ serverNonce ∈ ((pencilEngine.performAll (pencilPair.take 3)).env.draw
        Limits.nonceLengthRaw).1,
      ∃ otherNonce ∈ ((pencilEngine.performAll (pencilPair.take 4)).env.draw
        Limits.nonceLengthRaw).1, serverNonce ≠ otherNonce := by decide +kernel
  have idle : (pencilEngine.performAll (pencilPair.take 3)).state? "U1" = none ∧
      (pencilEngine.performAll (pencilPair.take 4)).state? "U2" = none := by decide +kernel
  have kept : (pencilEngine.performAll (pencilPair.take 4)).state? "U1" =
        (pencilEngine.performAll pencilPair).state? "U1" ∧
      (pencilEngine.performAll (pencilPair ++ [.frame "hub" pencilReplay])).state? "U1" =
        (pencilEngine.performAll pencilPair).state? "U1" := by decide +kernel
  obtain ⟨one, heldOne, other, heldOther, first, isFirst, second, isSecond, arrival, arrived, scram,
    waits, carries⟩ := exchanges
  obtain ⟨serverNonce, drawn, otherNonce, drawnOther, differ⟩ := draws
  cases MechanismState.eq_of_exchange? isFirst
  cases MechanismState.eq_of_exchange? isSecond
  have earlier : (pencilEngine.performAll pencilPair).Conducts "U1" serverNonce first :=
    .continued (.opened (reachable_pencilPair 3)
      (.frame "hub" (.clientData "U1" "biwsbj1hbGljZSxyPWFiY2RlZmdo")) idle.1 drawn
      (kept.1.trans heldOne))
      (.frame "hub" (.clientData "U2" "biwsbj1hbGljZSxyPWFiY2RlZmdo")) heldOne
  have later : (pencilEngine.performAll pencilPair).Conducts "U2" otherNonce second :=
    .opened (reachable_pencilPair 4)
      (.frame "hub" (.clientData "U2" "biwsbj1hbGljZSxyPWFiY2RlZmdo")) idle.2 drawnOther heldOther
  obtain ⟨nonces, -, repels, stays⟩ := Engine.replay_refused earlier later differ
  have left := kept.2.trans heldOne
  rw [Engine.performAll, List.foldl_append] at left
  refine ⟨serverNonce, otherNonce, first, second, arrival, first, differ, earlier, later, nonces,
    carries, repels "hub" pencilReplay arrival pencilServer rfl arrived scram waits carries,
    kept.2.trans heldOne, ?_⟩
  refine stays [.frame "hub" pencilReplay] ?_ first left
  rintro event (_ | ⟨_, ⟨⟩⟩)
  exact id

end IrcSasl
