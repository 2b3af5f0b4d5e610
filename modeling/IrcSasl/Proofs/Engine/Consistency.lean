import IrcSasl.Proofs.Credential
import IrcSasl.Proofs.Engine.Verdict
import IrcSasl.Proofs.Scram.Soundness

set_option autoImplicit false

/-!
# Consistent sessions

How the fields of a session belong together between two events, in every run of PLAIN, EXTERNAL and
SCRAM (`Session.Consistent`), and what of a client's connection never changes while its session
lives (`SessionInfo.Settles`). Of the steps of a mechanism only those that ask for more leave its
state and the identities in the session, so these carry the invariant; all others fall back on what
a finished mechanism leaves.
-/

namespace IrcSasl

/-! ## What belongs together -/

/-- The keys of a credential have the length of its digest. -/
structure Credential.Sized (credential : Credential) : Prop where
  serverKey : credential.serverKey.length = credential.digest.outputLength
  storedKey : credential.storedKey.length = credential.digest.outputLength

/-- A kind of store that reads from hashes only keys of the length of their digest. -/
def CredentialStore.Sized (C : Type) [CredentialStore C] : Prop :=
  ∀ (store : C) hash credential, extract store hash = some credential → credential.Sized

theorem PasswordHasher.sized : CredentialStore.Sized PasswordHasher := by
  intro hasher hash credential extracted
  have storable := Credential.storable_of_ofHash? extracted
  exact ⟨storable.serverKey, storable.storedKey⟩

theorem Scram.Server.sized_mockCredential (server : Scram.Server) (name : String) :
    (server.mockCredential name).Sized :=
  ⟨Digest.length_hmac .., Digest.length_hash ..⟩

/-- An exchange belongs to a server and to who the client is. -/
structure Scram.Exchange.Fits (exchange : Scram.Exchange) (server : Scram.Server)
    (authc : Option Identity) : Prop where
  digest : exchange.credential.digest = server.digest
  sized : exchange.credential.Sized
  account : ∀ id, exchange.account = some id → authc.map Identity.id = some id

/-- How the fields of a session belong together. -/
structure Session.Consistent (id : String) (session : Session) : Prop where
  uid : session.info.uid = id
  state : ∀ state, session.state = some state → ∃ registration server exchange,
    session.mechanism = some registration ∧ registration.mechanism = .scram server ∧
    state = .scram exchange ∧ exchange.Fits server session.authc
  buffered : session.decoder.buffer ≠ [] → session.mechanism.isSome
  whole : 400 ∣ session.decoder.buffer.length
  bounded : session.decoder.buffer.length ≤ 4000
  authz : session.authz.isSome → session.authc.isSome
  needLog : session.needLog = true ↔ session.pending.isSome
  address : session.info.ip.isSome = session.info.host.isSome

/-- What is known about a client is known for good: its server, its host and address once they are
known, and that its connection is secure. -/
structure SessionInfo.Settles (before after : SessionInfo) : Prop where
  server : after.server = before.server
  host : ∀ host, before.host = some host → after.host = some host
  ip : ∀ ip, before.ip = some ip → after.ip = some ip
  secure : before.secure = true → after.secure = true

namespace SessionInfo.Settles

theorem refl (info : SessionInfo) : info.Settles info :=
  ⟨rfl, fun _ known => known, fun _ known => known, fun secure => secure⟩

theorem trans {first second third : SessionInfo} (early : first.Settles second)
    (late : second.Settles third) : first.Settles third := by
  refine ⟨late.server.trans early.server, ?_, ?_, fun secure => late.secure (early.secure secure)⟩
  · intro host known
    exact late.host host (early.host host known)
  · intro ip known
    exact late.ip ip (early.ip ip known)

end SessionInfo.Settles

/-! ## One session -/

theorem Frame.Decoder.length_of_incomplete {decoder after : Decoder} {frame : Bytes}
    (added : decoder.add frame = (.ok .incomplete, after)) :
    after.buffer.length = decoder.buffer.length + decoder.width ∧
      after.buffer.length ≤ decoder.limit := by
  rcases decoder.add_cases frame with ⟨-, full, fits, kept⟩ | ⟨ended, -⟩
  · rw [added] at kept
    cases kept
    exact ⟨by rw [List.length_append, full], fits⟩
  · rw [added] at ended
    exact absurd rfl ended

namespace Session.Consistent

variable {id : String} {session : Session}

theorem new (id server : String) : Consistent id { info := { uid := id, server } } where
  uid := rfl
  state _ absurd := by cases absurd
  buffered full := (full rfl).elim
  whole := Nat.dvd_zero 400
  bounded := Nat.zero_le 4000
  authz absurd := by cases absurd
  needLog := by simp
  address := rfl

theorem mark (consistent : session.Consistent id) (marked : Bool) :
    Consistent id { session with marked } :=
  { consistent with }

theorem presenting (consistent : session.Consistent id) (certfp : Option String) :
    (session.presenting certfp).Consistent id := by
  cases certfp with
  | none => exact consistent
  | some certfp => exact { consistent with }

theorem hostInfo (consistent : session.Consistent id) (host ip : String) (secure : Bool) :
    (Engine.hostInfo session host ip secure).Consistent id := by
  unfold Engine.hostInfo
  simp only
  split
  · exact { consistent with address := rfl }
  · exact { consistent with }

/-- A mechanism is selected where none is in use. -/
theorem select (consistent : session.Consistent id) (idle : session.mechanism = none)
    (registration : Registration) :
    Consistent id { session with mechanism := some registration } := by
  refine { consistent with state := ?_, buffered := fun _ => rfl }
  intro state kept
  obtain ⟨used, server, exchange, selected, -⟩ := consistent.state state kept
  rw [idle] at selected
  cases selected

/-- A frame that leaves its message open is a full one. -/
theorem feed (consistent : session.Consistent id) (limits : session.decoder.clear = .fresh)
    (busy : session.mechanism.isSome) {frame : Bytes} {decoder : Frame.Decoder}
    (added : session.decoder.add frame = (.ok .incomplete, decoder)) :
    Consistent id { session with decoder } := by
  obtain ⟨length, fits⟩ := Frame.Decoder.length_of_incomplete added
  have width : session.decoder.width = 400 := congrArg Frame.Decoder.width limits
  have limit : session.decoder.limit = 4096 := congrArg Frame.Decoder.limit limits
  have whole := consistent.whole
  refine { consistent with buffered := fun _ => busy, whole := ?_, bounded := ?_ }
  · change 400 ∣ decoder.buffer.length
    omega
  · change decoder.buffer.length ≤ 4000
    omega

theorem clear (consistent : session.Consistent id) :
    Consistent id { session with decoder := session.decoder.clear } :=
  { consistent with
    buffered := fun full => (full rfl).elim
    whole := Nat.dvd_zero 400
    bounded := Nat.zero_le 4000 }

/-- What a negotiation that fails leaves is consistent. -/
theorem afterFailure (consistent : session.Consistent id) {after : Session}
    (left : session.afterFailure = some after) : after.Consistent id := by
  unfold Session.afterFailure at left
  split at left
  · cases left
    exact { consistent.clear with
      state := fun _ absurd => (by cases absurd)
      buffered := fun full => (full rfl).elim
      authz := fun absurd => by cases absurd }
  · cases left

end Session.Consistent

variable {D C : Type}

/-- Where a step may lie between two contexts, what the mechanism keeps and the identities decide
whether the session is still consistent. -/
theorem Session.Consistent.keep {before after : Context D C} {id : String}
    (consistent : before.session.Consistent id) (kept : before.Keeps after)
    (state : ∀ state, after.session.state = some state → ∃ registration server exchange,
      before.session.mechanism = some registration ∧ registration.mechanism = .scram server ∧
      state = .scram exchange ∧ exchange.Fits server after.session.authc)
    (authz : after.session.authz.isSome → after.session.authc.isSome) :
    after.session.Consistent id := by
  have same := kept.session
  generalize after.session = session at same state authz
  rw [same]
  exact { consistent with state, authz }

/-- A login that is deferred leaves a consistent session. -/
theorem Session.Consistent.defer {before after : Context D C} {id : String}
    (consistent : before.session.Consistent id) (kept : before.Keeps after)
    (somebody : after.session.authc.isSome) (target : Identity) (mechanism : String) :
    (after.session.deferred target mechanism).Consistent id := by
  have same := kept.session
  generalize after.session = session at same somebody
  rw [same]
  exact { consistent.clear with
    state := fun _ absurd => (by cases absurd)
    buffered := fun full => (full rfl).elim
    authz := fun _ => somebody
    needLog := by simp [Session.deferred] }

theorem Session.info_afterFailure {session after : Session}
    (left : session.afterFailure = some after) : after.info = session.info := by
  unfold Session.afterFailure at left
  split at left
  · cases left
    rfl
  · cases left

theorem Session.settles_presenting (session : Session) (certfp : Option String) :
    session.info.Settles (session.presenting certfp).info := by
  cases certfp with
  | none => exact .refl _
  | some certfp => exact ⟨rfl, fun _ known => known, fun _ known => known, fun _ => rfl⟩

/-- The host and the address of a client are told once. -/
theorem Session.settles_hostInfo (session : Session)
    (address : session.info.ip.isSome = session.info.host.isSome) (host ip : String)
    (secure : Bool) : session.info.Settles (Engine.hostInfo session host ip secure).info := by
  unfold Engine.hostInfo
  simp only
  split
  · next unknown =>
      rw [Option.isNone_iff_eq_none] at unknown
      rw [unknown, Option.isSome_none, Option.isSome_eq_false_iff] at address
      refine ⟨rfl, ?_, ?_, ?_⟩
      · rw [unknown]
        exact fun _ absurd => by cases absurd
      · rw [Option.isNone_iff_eq_none.mp address]
        exact fun _ absurd => by cases absurd
      · intro secure
        simp [secure]
  · refine ⟨rfl, fun _ known => known, fun _ known => known, ?_⟩
    intro secure
    simp [secure]

/-! ## Steps -/

variable [AccountDirectory D]

/-- What is left of a session after a step: the session itself if more is asked for, the session
with a deferred login, or what a failure leaves. -/
theorem Reply.session_ofStep {accounts : D} {entropy : Entropy} {session after : Session}
    {mechanism : String} {step : Step}
    (left : (ofStep accounts entropy session mechanism step).session = some after) :
    (∃ data, step = .more data) ∧ after = session ∨
      (∃ target, session.authc.isSome ∧ after = session.deferred target mechanism) ∨
      session.afterFailure = some after := by
  cases step with
  | more data =>
      cases left
      exact .inl ⟨⟨data, rfl⟩, rfl⟩
  | success =>
      simp only [ofStep] at left
      split at left
      · exact .inr (.inr left)
      · next target chosen =>
          split at left
          · cases left
          · cases left
            refine .inr (.inl ⟨target.identity, ?_, rfl⟩)
            unfold Session.granted granted at chosen
            cases authc : session.authc with
            | none => simp [authc] at chosen
            | some identity => rfl
  | failure reply => exact .inr (.inr left)
  | refused reply => exact .inr (.inr left)

namespace Scram

variable [CredentialStore C]

/-- The exchange that a first message opens belongs to the server and to who the client is. -/
theorem Credited.fits {server : Server} {accounts : D} {credentials : C} {first : ClientFirst}
    {authc authz : Option Identity} {credential : Credential} {account : Option AccountId}
    {after : Session} (sized : CredentialStore.Sized C)
    (credited : Credited server accounts credentials first authc authz credential account after)
    (serverNonce : Bytes) :
    (Exchange.start first credential account serverNonce).Fits server after.authc := by
  cases credited with
  | mock unknown made nobody sameAuthc sameAuthz =>
      subst made nobody
      exact ⟨rfl, server.sized_mockCredential first.authcid, fun _ absurd => by cases absurd⟩
  | stored identified somebody found allowed hashed password extracted digest =>
      refine ⟨digest, sized _ _ _ extracted, ?_⟩
      intro id named
      rw [identified.authc]
      exact somebody.symm.trans named

theorem Credited.authc_of_authz {server : Server} {accounts : D} {credentials : C}
    {first : ClientFirst} {authc authz : Option Identity} {credential : Credential}
    {account : Option AccountId} {after : Session} (before : authz.isSome → authc.isSome)
    (credited : Credited server accounts credentials first authc authz credential account after) :
    after.authz.isSome → after.authc.isSome := by
  cases credited with
  | mock unknown made nobody sameAuthc sameAuthz =>
      rw [sameAuthc, sameAuthz]
      exact before
  | stored identified =>
      rw [identified.authc]
      exact fun _ => rfl

/-- A step of SCRAM that asks for more leaves a consistent session: it has opened an exchange, or
has completed one. -/
theorem Server.consistent_step {server : Server} {before after : Context D C} {id : String}
    {registration : Registration} {message data : Bytes} (sized : CredentialStore.Sized C)
    (consistent : before.session.Consistent id)
    (selected : before.session.mechanism = some registration)
    (scram : registration.mechanism = .scram server)
    (stepped : server.step before message = (.more data, after)) : after.session.Consistent id := by
  have kept := Scram.keeps_step server before message
  rw [stepped] at kept
  unfold step at stepped
  split at stepped
  · obtain ⟨step, ctx, result, -, -, cases⟩ := server.clientFirst_cases before message
    rw [result] at stepped
    cases stepped
    rcases cases with ⟨reply, absurd⟩ | ⟨first, credential, account, serverNonce, -, -, credited,
      opened, -⟩
    · cases absurd
    refine consistent.keep kept ?_ (credited.authc_of_authz consistent.authz)
    intro state stored
    cases opened.symm.trans stored
    exact ⟨registration, server, _, selected, scram, rfl, credited.fits sized serverNonce⟩
  · next exchange held =>
      obtain ⟨used, own, same, busy, scram, held, fits⟩ := consistent.state _ held
      cases held
      split at stepped
      · obtain ⟨step, ctx, result, -, -, -, -, -, cases⟩ := acknowledge_cases before exchange
        rw [result] at stepped
        cases stepped
        rcases cases with absurd | ⟨absurd, -⟩
        · cases absurd
        · cases absurd
      · obtain ⟨step, ctx, result, -, -, authc, authz, -, cases⟩ :=
          clientFinal_cases before exchange message
        rw [result] at stepped
        cases stepped
        rcases cases with ⟨reply, absurd⟩ | ⟨proof, -, ⟨-, completed, -⟩ | ⟨-, absurd⟩⟩
        · cases absurd
        · refine consistent.keep kept ?_ ?_
          · intro state stored
            cases completed.symm.trans stored
            refine ⟨used, own, _, busy, scram, rfl, ?_⟩
            rw [authc]
            exact ⟨fits.digest, fits.sized, fits.account⟩
          · rw [authc, authz]
            exact consistent.authz
        · cases absurd
  · cases stepped

end Scram

variable [CredentialStore C]

namespace Registration

/-- A standard mechanism that asks for more leaves a consistent session. -/
theorem consistent_turn {registration : Registration} {before after : Context D C} {id : String}
    {message : Option Bytes} {data : Bytes} (sized : CredentialStore.Sized C)
    (standard : registration.mechanism.isStandard = true)
    (consistent : before.session.Consistent id)
    (selected : before.session.mechanism = some registration)
    (turned : registration.turn before message = (.more data, after)) :
    after.session.Consistent id := by
  cases message with
  | none =>
      simp only [turn, start] at turned
      split at turned
      · unfold External.start at turned
        split at turned
        · cases turned
        · cases turned
          exact consistent
      · next script scripted =>
          rw [scripted] at standard
          cases standard
      · cases turned
        exact consistent
  | some message =>
      simp only [turn, step] at turned
      split at turned
      · obtain ⟨step, ctx, result, -, cases⟩ := Plain.step_cases before message
        rw [result] at turned
        cases turned
        rcases cases with absurd | ⟨-, -, -, -, absurd | absurd⟩
        · cases absurd
        · cases absurd
        · cases absurd
      · obtain ⟨step, ctx, result, -, cases⟩ := External.step_cases before message
        rw [result] at turned
        cases turned
        rcases cases with absurd | ⟨-, -, -, -, -, -, -, -, absurd⟩
        · cases absurd
        · cases absurd
      · next server scram =>
          exact Scram.Server.consistent_step sized consistent selected scram turned
      · next script scripted =>
          rw [scripted] at standard
          cases standard
      · cases turned

end Registration

namespace Engine

/-- What a turn of a standard mechanism makes of a consistent session is consistent. -/
theorem consistent_turn {engine : Engine D C} {session after : Session} {id : String}
    {registration : Registration} {message : Option Bytes} (sized : CredentialStore.Sized C)
    (standard : registration.mechanism.isStandard = true) (consistent : session.Consistent id)
    (selected : session.mechanism = some registration)
    (left : (engine.turn session registration message).session = some after) :
    after.Consistent id := by
  have kept := registration.keeps_turn (engine.context session) message
  unfold turn at left
  cases turned : registration.turn (engine.context session) message with
  | mk step ctx =>
      rw [turned] at left kept
      have entered : (engine.context session).session.Consistent id := consistent
      rcases Reply.session_ofStep left with ⟨⟨data, rfl⟩, rfl⟩ | ⟨target, somebody, rfl⟩ | failed
      · exact registration.consistent_turn sized standard entered selected turned
      · exact entered.defer kept somebody target registration.name
      · rw [kept.afterFailure] at failed
        exact entered.afterFailure failed

/-- What a frame makes of a consistent session is consistent. -/
theorem consistent_reply {engine : Engine D C} {session after : Session} {frame : Inbound}
    (sized : CredentialStore.Sized C)
    (registry : ∀ entry ∈ engine.registry.entries, entry.mechanism.Standard)
    (tidy : session.Tidy Mechanism.Standard frame.session)
    (consistent : session.Consistent frame.session)
    (left : (engine.reply session frame).session = some after) :
    after.Consistent frame.session := by
  cases left_of_reply left with
  | told id host ip secure => exact consistent.hostInfo host ip secure
  | @unregistered id name certfp idle => exact consistent.presenting certfp
  | @started id name certfp registration after idle found left =>
      exact consistent_turn sized (registry registration (List.mem_of_find?_eq_some found))
        ((consistent.presenting certfp).select idle registration) rfl left
  | fed selected added =>
      exact consistent.feed tidy.decoder (Option.isSome_of_eq_some selected) added
  | @stepped id data registration message decoder after selected added left =>
      cases Frame.Decoder.eq_clear_of_complete added
      exact consistent_turn sized (tidy.selected registration selected) consistent.clear selected
        left
  | stopped left => exact consistent.afterFailure left

theorem info_turn {engine : Engine D C} {session after : Session} {registration : Registration}
    {message : Option Bytes}
    (left : (engine.turn session registration message).session = some after) :
    after.info = session.info := by
  have kept := registration.keeps_turn (engine.context session) message
  unfold turn at left
  rcases Reply.session_ofStep left with ⟨-, rfl⟩ | ⟨target, -, rfl⟩ | failed
  · exact kept.info
  · exact kept.info
  · exact (Session.info_afterFailure failed).trans kept.info

/-- What was known about a client before a frame is known after it. -/
theorem settles_reply {engine : Engine D C} {session after : Session} {frame : Inbound}
    (address : session.info.ip.isSome = session.info.host.isSome)
    (left : (engine.reply session frame).session = some after) :
    session.info.Settles after.info := by
  cases left_of_reply left with
  | told id host ip secure => exact session.settles_hostInfo address host ip secure
  | @unregistered id name certfp idle => exact session.settles_presenting certfp
  | @started id name certfp registration after idle found left =>
      rw [info_turn left]
      exact session.settles_presenting certfp
  | fed selected added => exact .refl _
  | stepped selected added left =>
      rw [info_turn left]
      exact .refl _
  | stopped left =>
      rw [Session.info_afterFailure left]
      exact .refl _

/-! ## Runs -/

/-- An engine of standard mechanisms, all of whose sessions are consistent. -/
structure Consistent (engine : Engine D C) : Prop where
  sound : engine.Sound Mechanism.Standard
  sessions : ∀ id session, engine.sessions.find? id = some session → session.Consistent id

namespace Consistent

omit [AccountDirectory D] [CredentialStore C] in
theorem create {options : Options} {accounts : D} {credentials : C} {entropy : Entropy}
    {engine : Engine D C}
    (created : Engine.create options accounts credentials entropy = .ok engine) :
    engine.Consistent := by
  refine ⟨.create created, ?_⟩
  unfold Engine.create at created
  split at created
  · cases created
    intro id session found
    cases found
  · cases created

omit [AccountDirectory D] [CredentialStore C] in
/-- The session that a frame finds or begins is consistent. -/
theorem entered {engine middle : Engine D C} (consistent : engine.Consistent) {server : String}
    {frame : Inbound} {session : Session} (enters : engine.Enters server frame session middle) :
    session.Consistent frame.session := by
  cases found : engine.sessions.find? frame.session with
  | none =>
      rw [enters.fresh found]
      exact .new _ _
  | some earlier =>
      obtain ⟨rfl, -⟩ := enters.known earlier found
      exact (consistent.sessions _ earlier found).mark false

theorem handle {engine : Engine D C} (sized : CredentialStore.Sized C)
    (consistent : engine.Consistent) (server : String) (frame : Inbound) :
    (engine.handle server frame).2.Consistent := by
  refine ⟨consistent.sound.handle server frame, ?_⟩
  intro id after found
  rcases engine.handle_cases server frame consistent.sound.keyed with
    ⟨-, -, -, sessions⟩ | ⟨session, middle, enters, gives⟩
  · rw [sessions] at found
    exact consistent.sessions id after found
  · rw [gives.sessions id] at found
    split at found
    · next same =>
        rw [same]
        refine consistent_reply sized ?_ (consistent.sound.tidy_entered enters)
          (consistent.entered enters) found
        rw [enters.alike.registry]
        exact consistent.sound.registry
    · exact consistent.sessions id after found

/-- Every event keeps sessions consistent. -/
theorem perform {engine : Engine D C} (sized : CredentialStore.Sized C)
    (consistent : engine.Consistent) (event : Event D)
    (offers : event.Offers Mechanism.Standard) : (engine.perform event).Consistent := by
  by_cases framed : ∃ server inbound, event = .frame server inbound
  · obtain ⟨server, inbound, rfl⟩ := framed
    exact consistent.handle sized server inbound
  · refine ⟨consistent.sound.perform event offers, ?_⟩
    have descends : Descends Mechanism.Standard engine (engine.perform event) :=
      .perform engine consistent.sound.keyed event offers fun server inbound same =>
        framed ⟨server, inbound, same⟩
    intro id session found
    obtain ⟨earlier, foundEarlier, same⟩ := descends.sessions id session found
    rw [same]
    exact (consistent.sessions id earlier foundEarlier).mark session.marked

/-- Every run keeps sessions consistent. -/
theorem performAll {engine : Engine D C} (sized : CredentialStore.Sized C)
    (consistent : engine.Consistent) {events : List (Event D)}
    (offers : ∀ event ∈ events, event.Offers Mechanism.Standard) :
    (engine.performAll events).Consistent := by
  induction events generalizing engine with
  | nil => exact consistent
  | cons event rest ih =>
      have offered := offers event List.mem_cons_self
      exact ih (consistent.perform sized event offered) fun later member =>
        offers later (List.mem_cons_of_mem _ member)

/-- What is known about a client before an event is known after it, if its session is still there.
-/
theorem settles_perform {engine : Engine D C} (consistent : engine.Consistent) (event : Event D)
    (offers : event.Offers Mechanism.Standard) {id : String} {before after : Session}
    (found : engine.sessions.find? id = some before)
    (left : (engine.perform event).sessions.find? id = some after) :
    before.info.Settles after.info := by
  by_cases framed : ∃ server inbound, event = .frame server inbound
  · obtain ⟨server, inbound, rfl⟩ := framed
    change (engine.handle server inbound).2.sessions.find? id = some after at left
    rcases engine.handle_cases server inbound consistent.sound.keyed with
      ⟨-, -, -, sessions⟩ | ⟨session, middle, enters, gives⟩
    · rw [sessions, found] at left
      cases left
      exact .refl _
    · rw [gives.sessions id] at left
      split at left
      · next same =>
          rw [same] at found
          obtain ⟨rfl, -⟩ := enters.known before found
          have settles : before.unmarked.info.Settles after.info :=
            settles_reply (consistent.entered enters).address left
          exact settles
      · rw [found] at left
        cases left
        exact .refl _
  · have descends : Descends Mechanism.Standard engine (engine.perform event) :=
      .perform engine consistent.sound.keyed event offers fun server inbound same =>
        framed ⟨server, inbound, same⟩
    obtain ⟨earlier, foundEarlier, same⟩ := descends.sessions id after left
    cases found.symm.trans foundEarlier
    rw [same]
    exact .refl _

end Consistent

/-- A session stands in an engine and after each of the events that follow. -/
def Lives (id : String) : Engine D C → List (Event D) → Prop
  | engine, [] => (engine.sessions.find? id).isSome
  | engine, event :: rest =>
      (engine.sessions.find? id).isSome ∧ Lives id (engine.perform event) rest

instance Lives.decidable (id : String) :
    ∀ (engine : Engine D C) (events : List (Event D)), Decidable (Lives id engine events)
  | engine, [] => inferInstanceAs (Decidable ((engine.sessions.find? id).isSome = true))
  | engine, event :: rest =>
      have := decidable id (engine.perform event) rest
      inferInstanceAs (Decidable ((engine.sessions.find? id).isSome = true ∧
        Lives id (engine.perform event) rest))

theorem Lives.found {engine : Engine D C} {id : String} {events : List (Event D)}
    (lives : Lives id engine events) : ∃ session, engine.sessions.find? id = some session := by
  cases events with
  | nil => exact Option.isSome_iff_exists.mp lives
  | cons event rest => exact Option.isSome_iff_exists.mp lives.1

theorem lives_append {engine : Engine D C} {id : String} {early late : List (Event D)} :
    Lives id engine (early ++ late) ↔
      Lives id engine early ∧ Lives id (engine.performAll early) late := by
  induction early generalizing engine with
  | nil => exact (and_iff_right_of_imp fun lives => Option.isSome_iff_exists.mpr lives.found).symm
  | cons event rest ih => exact (and_congr_right fun _ => ih).trans and_assoc.symm

/-- A session that lives on stands in the end. -/
theorem Lives.last {engine : Engine D C} {id : String} {events : List (Event D)}
    (lives : Lives id engine events) : ((engine.performAll events).sessions.find? id).isSome := by
  rw [← List.append_nil events, lives_append] at lives
  exact lives.2

/-- What is known about a client stays known while its session lives. -/
theorem Consistent.settles {engine : Engine D C} (sized : CredentialStore.Sized C)
    (consistent : engine.Consistent) {events : List (Event D)}
    (offers : ∀ event ∈ events, event.Offers Mechanism.Standard) {id : String}
    {before after : Session} (lives : Lives id engine events)
    (found : engine.sessions.find? id = some before)
    (left : (engine.performAll events).sessions.find? id = some after) :
    before.info.Settles after.info := by
  induction events generalizing engine before with
  | nil =>
      cases found.symm.trans left
      exact .refl _
  | cons event rest ih =>
      have offered := offers event List.mem_cons_self
      obtain ⟨-, lives⟩ := lives
      obtain ⟨middle, foundMiddle⟩ := lives.found
      have early := consistent.settles_perform event offered found foundMiddle
      exact early.trans <| ih (consistent.perform sized event offered)
        (fun later member => offers later (List.mem_cons_of_mem _ member)) lives foundMiddle left

/-- In every run of PLAIN, EXTERNAL and SCRAM, every session is consistent at every time, and what
is known about its client stays known while it lives. -/
theorem sessions_consistent {options : Options} {accounts : D} {credentials : C}
    {entropy : Entropy} {engine : Engine D C} (sized : CredentialStore.Sized C)
    (created : Engine.create options accounts credentials entropy = .ok engine)
    {early late : List (Event D)}
    (offers : ∀ event ∈ early ++ late, event.Offers Mechanism.Standard) {id : String}
    {session : Session} (found : (engine.performAll early).sessions.find? id = some session) :
    session.Consistent id ∧
      ∀ after, Lives id (engine.performAll early) late →
        (engine.performAll (early ++ late)).sessions.find? id = some after →
        session.info.Settles after.info := by
  have consistent : (engine.performAll early).Consistent :=
    (Consistent.create created).performAll sized fun event member =>
      offers event (List.mem_append_left _ member)
  refine ⟨consistent.sessions id session found, ?_⟩
  intro after lives left
  refine consistent.settles sized (fun event member =>
    offers event (List.mem_append_right _ member)) lives found ?_
  rw [performAll, List.foldl_append] at left
  exact left

end Engine

/-! ## A session of SCRAM -/

/-- A client is introduced by its server. -/
def pencilArrival : List (Engine.Event MemoryDirectory) :=
  [.registered (.scram pencilServer),
   .frame "hub" (.hostInfo "U1" "client.example" "192.0.2.7" true)]

/-- The client opens an exchange, and another host and address are told. -/
def pencilOpening : List (Engine.Event MemoryDirectory) :=
  [.frame "hub" (.startAuth "U1" "SCRAM-SHA-1" none),
   .frame "hub" (.clientData "U1" "biwsbj1hbGljZSxyPWFiY2RlZmdo"),
   .frame "hub" (.hostInfo "U1" "other.example" "192.0.2.8" false)]

set_option maxRecDepth 100000 in
/-- The session holds an exchange, is consistent, and still has the host that was told first. -/
theorem sessions_consistent_pencil :
    ∃ before after,
      (pencilEngine.performAll pencilArrival).sessions.find? "U1" = some before ∧
      (pencilEngine.performAll (pencilArrival ++ pencilOpening)).sessions.find? "U1" = some after ∧
      after.state.isSome ∧ after.Consistent "U1" ∧ before.info.Settles after.info ∧
      after.info.host = some "client.example" := by
  have created : Engine.create {} pencilAccounts ⟨{}⟩ (.arithmetic 0 []) = .ok pencilEngine := rfl
  have offers : ∀ event ∈ pencilArrival ++ pencilOpening, event.Offers Mechanism.Standard := by
    intro event member
    simp only [pencilArrival, pencilOpening, List.cons_append, List.nil_append, List.mem_cons,
      List.not_mem_nil, or_false] at member
    rcases member with rfl | rfl | rfl | rfl | rfl
    · rfl
    all_goals trivial
  have known : ((pencilEngine.performAll pencilArrival).sessions.find? "U1").map
      (fun session => session.info.host) = some (some "client.example") := by decide +kernel
  have held : ((pencilEngine.performAll (pencilArrival ++ pencilOpening)).sessions.find? "U1").map
      (fun session => session.state.isSome) = some true := by decide +kernel
  have lives : Engine.Lives "U1" (pencilEngine.performAll pencilArrival) pencilOpening := by
    decide +kernel
  obtain ⟨before, found, host⟩ := Option.map_eq_some_iff.mp known
  obtain ⟨after, left, state⟩ := Option.map_eq_some_iff.mp held
  obtain ⟨-, settles⟩ := Engine.sessions_consistent PasswordHasher.sized created offers found
  have settled := settles after lives left
  have offersAll : ∀ event ∈ (pencilArrival ++ pencilOpening) ++ [],
      event.Offers Mechanism.Standard := by
    rw [List.append_nil]
    exact offers
  obtain ⟨consistent, -⟩ := Engine.sessions_consistent PasswordHasher.sized created offersAll left
  exact ⟨before, after, found, left, state, consistent, settled, settled.host _ host⟩

end IrcSasl
