import IrcSasl.Proofs.Account.Certificates
import IrcSasl.Proofs.Engine.Alarms
import IrcSasl.Proofs.Engine.Consistency
import IrcSasl.Proofs.Engine.Penalty
import Mathlib.Data.List.Induction

set_option autoImplicit false

/-!
# Certificates of clients

A session knows the certificate that an uplink has reported last for its client
(`Engine.certfp_iff_reported`). EXTERNAL lets the client in as the oldest account that lists that
certificate, and as nobody else: the name by which it looks the account up again is the account's
own (`Engine.external_authenticates_owner`).
-/

namespace IrcSasl

/-- The certificate that a frame reports. -/
def Inbound.certfp? : Inbound → Option String
  | .startAuth _ _ certfp => certfp
  | _ => none

@[simp] theorem Session.certfp_presenting (session : Session) (certfp : Option String) :
    (session.presenting certfp).info.certfp = certfp.or session.info.certfp := by
  cases certfp <;> rfl

namespace Engine

variable {D C : Type}

@[simp] theorem certfp_hostInfo (session : Session) (host ip : String) (secure : Bool) :
    (hostInfo session host ip secure).info.certfp = session.info.certfp := by
  unfold hostInfo
  simp only
  split <;> rfl

/-- The certificate that an event reports for the client of a session. -/
def Event.reports? (id : String) : Event D → Option String
  | .frame _ inbound => if inbound.session = id then inbound.certfp? else none
  | _ => none

variable [AccountDirectory D] [CredentialStore C]

/-! ## What a session knows -/

/-- A frame leaves the certificate that it reports, or the one that was known before. -/
theorem certfp_reply {engine : Engine D C} {session after : Session} {frame : Inbound}
    (left : (engine.reply session frame).session = some after) :
    after.info.certfp = frame.certfp?.or session.info.certfp := by
  cases left_of_reply left with
  | told id host ip secure => simp [Inbound.certfp?]
  | unregistered idle => simp [Inbound.certfp?]
  | started idle found left => simp [Inbound.certfp?, info_turn left]
  | fed selected added => rfl
  | stepped selected added left => simp [Inbound.certfp?, info_turn left]
  | stopped left => simp [Inbound.certfp?, Session.info_afterFailure left]

/-- An event leaves a session the certificate that it reports for it, or the one that it knew. -/
theorem certfp_perform {engine : Engine D C} (keyed : engine.Keyed) {event : Event D} {id : String}
    {after : Session} (left : (engine.perform event).sessions.find? id = some after) :
    after.info.certfp = (event.reports? id).or
      ((engine.sessions.find? id).bind fun session => session.info.certfp) := by
  by_cases framed : ∃ server inbound, event = .frame server inbound
  · obtain ⟨server, inbound, rfl⟩ := framed
    change (engine.handle server inbound).2.sessions.find? id = some after at left
    simp only [Event.reports?]
    rcases engine.handle_cases server inbound keyed with
      ⟨unknown, -, -, sessions⟩ | ⟨session, middle, enters, gives⟩
    · rw [sessions] at left
      have other : inbound.session ≠ id := by
        rintro rfl
        rw [unknown] at left
        cases left
      simp [other, left]
    · rw [gives.sessions id] at left
      by_cases own : id = inbound.session
      · subst own
        rw [if_pos rfl] at left ⊢
        rw [certfp_reply left]
        cases found : engine.sessions.find? inbound.session with
        | none => simp [enters.fresh found]
        | some earlier =>
            obtain ⟨rfl, -⟩ := enters.known earlier found
            rfl
      · rw [if_neg own] at left
        simp [Ne.symm own, left]
  · have descends : Descends (fun _ => True) engine (engine.perform event) :=
      .perform engine keyed event event.offers_any fun server inbound same =>
        framed ⟨server, inbound, same⟩
    have silent : event.reports? id = none := by
      cases event with
      | frame server inbound => exact absurd ⟨server, inbound, rfl⟩ framed
      | _ => rfl
    obtain ⟨earlier, found, same⟩ := descends.sessions id after left
    rw [silent, found, same]
    rfl

/-! ## What has been reported -/

/-- A certificate is the one that was reported last for the client of a session, and the session has
stood ever since. -/
def Reported (engine : Engine D C) (events : List (Event D)) (id certfp : String) : Prop :=
  ∃ early event late, events = early ++ event :: late ∧ event.reports? id = some certfp ∧
    (∀ later ∈ late, later.reports? id = none) ∧
    Lives id (engine.performAll (early ++ [event])) late

variable {engine : Engine D C} {events : List (Event D)} {id certfp : String}

theorem Reported.stands (reported : Reported engine events id certfp) :
    ((engine.performAll events).sessions.find? id).isSome := by
  obtain ⟨early, event, late, rfl, -, -, lives⟩ := reported
  have stands := lives.last
  rwa [← performAll_append, List.append_assoc] at stands

/-- What is reported last is what the last event reports, or what was reported before it. -/
theorem reported_append_singleton {event : Event D}
    (stands : ((engine.performAll (events ++ [event])).sessions.find? id).isSome) :
    Reported engine (events ++ [event]) id certfp ↔
      event.reports? id = some certfp ∨
        event.reports? id = none ∧ Reported engine events id certfp := by
  constructor
  · rintro ⟨early, first, late, split, reports, silent, lives⟩
    rcases List.eq_nil_or_concat late with rfl | ⟨late, last, rfl⟩
    · obtain ⟨rfl, same⟩ := List.append_inj' split rfl
      cases same
      exact .inl reports
    · rw [List.concat_eq_append] at split silent lives
      rw [← List.cons_append, ← List.append_assoc] at split
      obtain ⟨rfl, same⟩ := List.append_inj' split rfl
      cases same
      have quiet := silent event (List.mem_append_right _ List.mem_cons_self)
      refine .inr ⟨quiet, early, first, late, rfl, reports, ?_, (lives_append.mp lives).1⟩
      exact fun later member => silent later (List.mem_append_left _ member)
  · rintro (reports | ⟨quiet, early, first, late, rfl, reports, silent, lives⟩)
    · exact ⟨events, event, [], rfl, reports, List.forall_mem_nil _, stands⟩
    · refine ⟨early, first, late ++ [event], by simp, reports, ?_, ?_⟩
      · intro later member
        rcases List.mem_append.mp member with before | last
        · exact silent later before
        · rw [List.mem_singleton.mp last]
          exact quiet
      · refine lives_append.mpr ⟨lives, lives.last, ?_⟩
        rw [List.append_assoc, List.cons_append, ← List.singleton_append, ← List.append_assoc,
          performAll_append, performAll_append] at stands
        exact stands

/-- A session knows the certificate that was reported last for its client. The induction is on the
last event. -/
theorem certfp_iff_reported (reachable : engine.Reachable)
    (fresh : ∀ id, engine.sessions.find? id = none) {session : Session}
    (found : (engine.performAll events).sessions.find? id = some session) :
    session.info.certfp = some certfp ↔ Reported engine events id certfp := by
  induction events using List.reverseRecOn generalizing session with
  | nil => cases (fresh id).symm.trans found
  | append_singleton events event ih =>
      rw [reported_append_singleton (Option.isSome_of_eq_some found)]
      rw [performAll_append] at found
      rw [certfp_perform (reachable.performAll events).sound.keyed found]
      cases reports : event.reports? id with
      | some reported => simp
      | none =>
          cases before : (engine.performAll events).sessions.find? id with
          | none =>
              have never : ¬Reported engine events id certfp := by
                intro reported
                have stands := reported.stands
                rw [before] at stands
                cases stands
              simp [never]
          | some earlier => simp [ih before]

end Engine

/-! ## EXTERNAL -/

section

variable {D C : Type} [AccountDirectory D] [CredentialStore C]

/-- A client that EXTERNAL lets in is the account that has the name of the one that its certificate
is looked up as. -/
structure External.Knows (before after : Context D C) (owner source : Account) : Prop where
  presented : ∃ certfp, before.session.info.certfp = some certfp ∧
    AccountDirectory.findByCertfp before.accounts certfp = some owner
  known : AccountDirectory.findByName before.accounts owner.name = some source
  authc : after.session.authc = some source.identity

/-- EXTERNAL asks for more, refuses or lets its client in, and leaves the accounts alone. -/
theorem Registration.turn_external {registration : Registration}
    (external : registration.mechanism = .external) (ctx : Context D C) (message : Option Bytes) :
    ∃ step after, registration.turn ctx message = (step, after) ∧ ctx.Near after ∧
      (step = .more [] ∨ step = .refused [] ∨ step = .success ∧ message.isSome ∧
        ∃ owner source, External.Knows ctx after owner source) := by
  cases message with
  | none =>
      have started : registration.turn ctx none = External.start ctx := by
        simp only [turn, start, external]
      rw [started]
      unfold External.start
      split
      · exact ⟨_, _, rfl, ctx.near_note _, .inr (.inl rfl)⟩
      · exact ⟨_, _, rfl, .refl ctx, .inl rfl⟩
  | some data =>
      have stepped : registration.turn ctx (some data) = External.step ctx data := by
        simp only [turn, step, external]
      rw [stepped]
      obtain ⟨step, after, done, near, outcome⟩ := External.step_cases ctx data
      refine ⟨step, after, done, near, ?_⟩
      rcases outcome with rfl | ⟨authzid, certfp, owner, source, -, presented, owned, identified,
        rfl⟩
      · exact .inr (.inl rfl)
      · exact .inr (.inr ⟨rfl, rfl, owner, source, ⟨certfp, presented, owned⟩, identified.known,
          identified.authc⟩)

end

namespace Engine

variable {C : Type} [CredentialStore C] {engine : Engine MemoryDirectory C} {uplink : String}
  {frame : Inbound} {step : Step} {after : Context MemoryDirectory C} {registration : Registration}

/-- EXTERNAL fails nobody. A client that it lets in is the oldest account that lists the certificate
that its session knows. -/
theorem external_verdict (keyed : engine.Keyed) (filed : engine.accounts.Filed)
    (verdict : engine.verdict? uplink frame = some (step, after))
    (selected : after.session.mechanism = some registration)
    (external : registration.mechanism = .external) :
    (∀ reply, step ≠ .failure reply) ∧
      (engine.handle uplink frame).2.accounts.badPasswords = engine.accounts.badPasswords ∧
      (step = .success → ∃ session certfp owner,
        engine.sessions.find? frame.session = some session ∧
        session.info.certfp = some certfp ∧ engine.accounts.Owns certfp owner ∧
        after.session.authc = some owner.identity) := by
  obtain ⟨session, middle, query, asks⟩ := asks_of_verdict? keyed verdict
  cases asks.selected.symm.trans selected
  obtain ⟨taken, result, turned, near, outcome⟩ :=
    Registration.turn_external external (middle.context query.session) query.message
  cases turned.symm.trans asks.turned
  have accounts : after.accounts = engine.accounts :=
    near.accounts.trans asks.enters.alike.accounts
  have fine : ∀ reply, step ≠ .failure reply := by
    rintro reply rfl
    rcases outcome with absurd | absurd | ⟨absurd, -⟩ <;> cases absurd
  refine ⟨fine, ?_, ?_⟩
  · rw [asks.gives.accounts, ← accounts]
    exact Reply.badPasswords_ofStep fine
  · rintro rfl
    rcases outcome with absurd | absurd | ⟨-, complete, owner, source, knows⟩
    · cases absurd
    · cases absurd
    · obtain ⟨message, complete⟩ := Option.isSome_iff_exists.mp complete
      obtain ⟨data, before, decoder, -, found, -, -, fed⟩ :=
        arrival?_eq_some (asks.arrival complete)
      obtain ⟨certfp, presented, owned⟩ := knows.presented
      have same : middle.accounts = engine.accounts := asks.enters.alike.accounts
      have fed : query.session = { before.unmarked with decoder } := fed
      have presented : query.session.info.certfp = some certfp := presented
      have owned : middle.accounts.findCertfp? certfp = some owner := owned
      have known : middle.accounts.findName? owner.name = some source := knows.known
      rw [fed] at presented
      rw [same] at owned known
      have owns := filed.owns_of_findCertfp? owned
      -- The name that the account was registered with leads back to it.
      cases (filed.indexed.findName?_eq_some_iff.mpr ⟨owns.live, rfl⟩).symm.trans known
      exact ⟨before, certfp, owner, found, presented, owns, knows.authc⟩

/-- The directory stays filed in every run that leaves identifiers and names alone. -/
theorem filed_performAll (reachable : engine.Reachable) (filed : engine.accounts.Filed)
    {events : List (Event MemoryDirectory)} (keeps : ∀ event ∈ events, event.KeepsIdentity) :
    (engine.performAll events).accounts.Filed :=
  lift_performAll MemoryDirectory.Filed (fun _ _ kept filed => filed.apply kept)
    (fun _ => MemoryDirectory.Operation.Negotiated.keepsIdentity) reachable filed keeps

/-- In every run over a directory in memory that leaves identifiers and names alone, a client that
EXTERNAL lets in is the oldest account that lists the certificate that was reported last for its
session. Without such an account or such a report nobody is let in. EXTERNAL fails nobody, and
counts no attempt against anybody. -/
theorem external_authenticates_owner {options : Options} {casemap : Text.Casemap}
    {setup : List MemoryDirectory.Operation} {credentials : C} {entropy : Entropy}
    (kept : ∀ operation ∈ setup, operation.KeepsIdentity)
    (created : Engine.create options (MemoryDirectory.run { casemap } setup) credentials entropy =
      .ok engine)
    {events : List (Event MemoryDirectory)} (keeps : ∀ event ∈ events, event.KeepsIdentity)
    (verdict : (engine.performAll events).verdict? uplink frame = some (step, after))
    (selected : after.session.mechanism = some registration)
    (external : registration.mechanism = .external) :
    let now := engine.performAll events
    (step = .success → ∃ certfp owner,
        (∀ other, Reported engine events frame.session other ↔ other = certfp) ∧
        now.accounts.Owns certfp owner ∧ after.session.authc = some owner.identity) ∧
      ((∀ certfp, Reported engine events frame.session certfp →
        ∀ id account, now.accounts.find? id = some account →
          ¬MemoryDirectory.Lists account certfp) → step ≠ .success) ∧
      (∀ reply, step ≠ .failure reply) ∧
      (now.handle uplink frame).2.accounts.badPasswords = now.accounts.badPasswords := by
  have reachable : engine.Reachable := .create created
  have initially : engine.accounts = MemoryDirectory.run { casemap } setup ∧
      ∀ id, engine.sessions.find? id = none := by
    unfold Engine.create at created
    split at created
    · cases created
      exact ⟨rfl, fun _ => rfl⟩
    · cases created
  obtain ⟨accounts, fresh⟩ := initially
  have filed : engine.accounts.Filed := accounts ▸ (MemoryDirectory.Filed.empty casemap).run kept
  obtain ⟨fine, counts, owned⟩ := external_verdict (reachable.performAll events).sound.keyed
    (filed_performAll reachable filed keeps) verdict selected external
  have owner (succeeded : step = .success) : ∃ certfp owner,
      (∀ other, Reported engine events frame.session other ↔ other = certfp) ∧
      (engine.performAll events).accounts.Owns certfp owner ∧
      after.session.authc = some owner.identity := by
    obtain ⟨session, certfp, owner, found, knows, owns, authc⟩ := owned succeeded
    refine ⟨certfp, owner, ?_, owns, authc⟩
    intro other
    rw [← certfp_iff_reported reachable fresh found, knows, Option.some.injEq, eq_comm]
  refine ⟨owner, ?_, fine, counts⟩
  intro unlisted succeeded
  obtain ⟨certfp, owner, reported, owns, -⟩ := owner succeeded
  exact unlisted certfp ((reported certfp).mpr rfl) owner.id owner owns.live owns.lists

end Engine

/-! ## A certificate of two accounts -/

/-- The first account that lists a certificate, another account of a name that was freed, which
lists it as well. -/
def cardSetup : List MemoryDirectory.Operation :=
  [.register "User[1]" none,
   .register "Oper" none,
   .revise ⟨2⟩ fun account => { account with certfps := ["AB12"] },
   .drop ⟨1⟩,
   .register "USER{1}" none,
   .revise ⟨3⟩ fun account => { account with certfps := ["cd34", "ab12"] }]

/-- An engine with that directory. -/
def cardEngine : Engine MemoryDirectory PasswordHasher :=
  { options := {}, accounts := MemoryDirectory.run { casemap := .rfc1459 } cardSetup
    credentials := ⟨{}⟩, env := { entropy := .arithmetic 0 [] } }

/-- The certificate is reported with a mechanism that there is not. Then the client starts without a
certificate, and the first of the two accounts is dropped. -/
def cardEvents : List (Engine.Event MemoryDirectory) :=
  [.registered .external,
   .frame "hub" (.startAuth "U1" "NONE" (some "aB12")),
   .frame "hub" (.startAuth "U1" "EXTERNAL" none),
   .directory fun directory => directory.apply (.drop ⟨2⟩)]

set_option maxRecDepth 100000 in
/-- The client is let in as the account that is left. -/
theorem external_authenticates_owner_reused :
    ∃ owner after,
      (cardEngine.performAll cardEvents).verdict? "hub" (.clientData "U1" "+") =
        some (.success, after) ∧
      Engine.Reported cardEngine cardEvents "U1" "aB12" ∧
      (cardEngine.performAll cardEvents).accounts.Owns "aB12" owner ∧
      owner.identity = ⟨"USER{1}", ⟨3⟩⟩ ∧ after.session.authc = some owner.identity := by
  have created : Engine.create {} (MemoryDirectory.run { casemap := .rfc1459 } cardSetup) ⟨{}⟩
      (.arithmetic 0 []) = .ok cardEngine := rfl
  have kept : ∀ operation ∈ cardSetup, operation.KeepsIdentity := by
    simp only [cardSetup, List.forall_mem_cons]
    exact ⟨trivial, trivial, fun _ => rfl, trivial, trivial, fun _ => rfl,
      fun _ absurd => by cases absurd⟩
  have keeps : ∀ event ∈ cardEvents, event.KeepsIdentity := by
    simp only [cardEvents, List.forall_mem_cons]
    exact ⟨trivial, trivial, trivial, ⟨.drop ⟨2⟩, trivial, rfl⟩,
      fun _ absurd => by cases absurd⟩
  have reported : Engine.Reported cardEngine cardEvents "U1" "aB12" := by
    refine ⟨cardEvents.take 1, _, cardEvents.drop 2, rfl, rfl, ?_, ?_⟩
    · simp only [cardEvents, List.drop, List.forall_mem_cons]
      exact ⟨rfl, rfl, fun _ absurd => by cases absurd⟩
    · decide +kernel
  have decided : ((cardEngine.performAll cardEvents).verdict? "hub" (.clientData "U1" "+")).map
      (fun verdict => (verdict.1, verdict.2.session.authc,
        verdict.2.session.mechanism.map Registration.mechanism)) =
        some (.success, some ⟨"USER{1}", ⟨3⟩⟩, some .external) := by
    decide +kernel
  obtain ⟨⟨step, after⟩, verdict, outcome⟩ := Option.map_eq_some_iff.mp decided
  simp only [Prod.mk.injEq] at outcome
  obtain ⟨rfl, authc, selected⟩ := outcome
  obtain ⟨registration, selected, external⟩ := Option.map_eq_some_iff.mp selected
  obtain ⟨owned, -⟩ :=
    Engine.external_authenticates_owner kept created keeps verdict selected external
  obtain ⟨certfp, owner, unique, owns, entered⟩ := owned rfl
  cases (unique "aB12").mp reported
  exact ⟨owner, after, verdict, reported, owns, Option.some.inj (entered.symm.trans authc), entered⟩

end IrcSasl
