import IrcSasl.Proofs.Mechanism.Steps

set_option autoImplicit false

/-!
# Frames as the business of one session

`Engine.reply` tells, for one session by itself, what a frame comes to: what is sent, what becomes
of the session, and what becomes of the directory and the random source. `Engine.handle_cases` says
that handling a frame does exactly that, and leaves every other session, the registry and the
credential store as they were.
-/

namespace IrcSasl

variable {D C : Type}

/-- What a frame comes to. -/
structure Reply (D : Type) where
  /-- The frames to send. -/
  frames : List Outbound
  /-- The directory afterwards. -/
  accounts : D
  /-- The random source afterwards. -/
  entropy : Entropy
  /-- The session afterwards, unless it was destroyed. -/
  session : Option Session

namespace Engine

/-- An operation of an engine has come to a reply for one session, and has left the others. -/
structure Gives (engine : Engine D C) (id : String) (reply : Reply D)
    (result : List Outbound × Engine D C) : Prop where
  frames : result.1 = reply.frames
  sessions : ∀ other, result.2.sessions.find? other =
    if other = id then reply.session else engine.sessions.find? other
  accounts : result.2.accounts = reply.accounts
  credentials : result.2.credentials = engine.credentials
  registry : result.2.registry = engine.registry
  entropy : result.2.env.entropy = reply.entropy

/-- A reply may be told of an engine that differs only in the session that it is about. -/
theorem Gives.of_before {engine middle : Engine D C} {id : String} {reply : Reply D}
    {result : List Outbound × Engine D C} (given : middle.Gives id reply result)
    (credentials : middle.credentials = engine.credentials)
    (registry : middle.registry = engine.registry)
    (sessions : ∀ other, other ≠ id → middle.sessions.find? other = engine.sessions.find? other) :
    engine.Gives id reply result := by
  refine ⟨given.frames, ?_, given.accounts, given.credentials.trans credentials,
    given.registry.trans registry, given.entropy⟩
  intro other
  rw [given.sessions other]
  split
  · rfl
  · next different => exact sessions other different

/-- An operation that only changes one session comes to the reply that says so. -/
theorem Gives.of_alike {engine after : Engine D C} {id : String} {frames : List Outbound}
    {session : Option Session} (alike : engine.Alike after)
    (sessions : ∀ other, after.sessions.find? other =
      if other = id then session else engine.sessions.find? other) :
    engine.Gives id ⟨frames, engine.accounts, engine.env.entropy, session⟩ (frames, after) :=
  ⟨rfl, sessions, alike.accounts, alike.credentials, alike.registry, alike.entropy⟩

/-- The reply to a frame that ends the negotiation and the session. -/
def refusal (engine : Engine D C) (session : Session) : Reply D where
  frames := [.outcome session.info.uid .failure]
  accounts := engine.accounts
  entropy := engine.env.entropy
  session := none

theorem abort_gives (engine : Engine D C) (session : Session) (event : Log.Event) :
    engine.Gives session.info.uid (engine.refusal session) ((engine.note event).abort session) :=
  .of_alike ((engine.alike_note event).trans (alike_destroySession _ _)) fun other => by
    rw [find?_destroySession, sessions_note]

theorem fail_gives (engine : Engine D C) (session : Session) :
    engine.Gives session.info.uid
      ⟨[.outcome session.info.uid .failure], engine.accounts, engine.env.entropy,
        session.afterFailure⟩ (engine.fail session) :=
  .of_alike (engine.alike_resetOrDestroy session) (engine.find?_resetOrDestroy session)

end Engine

variable [AccountDirectory D]

/-! ## Who may log in -/

/-- Whether a client that is one account may log in as another. -/
def permits (accounts : D) (source target : Account) : Bool :=
  AccountDirectory.admission accounts source = .allow &&
    (target.id = source.id || (AccountDirectory.canImpersonate accounts source target &&
      AccountDirectory.admission accounts target = .allow))

/-- The account that a client is logged into, given who it is and whom it acts as. -/
def granted (accounts : D) (authc authz : Option AccountId) : Option Account :=
  (authc.bind (AccountDirectory.findById accounts)).bind fun source =>
    (match authz with
      | some id => AccountDirectory.findById accounts id
      | none => some source).filter (permits accounts source)

/-- The account that the client of a session is logged into. -/
def Session.granted (session : Session) (accounts : D) : Option Account :=
  IrcSasl.granted accounts (session.authc.map Identity.id) (session.authz.map Identity.id)

/-- The directory after an attempt at the account that the client of a session said to be has
failed. -/
def penalized (accounts : D) (session : Session) : D :=
  match session.authc with
  | none => accounts
  | some authc =>
      match AccountDirectory.findById accounts authc.id with
      | none => accounts
      | some _ => AccountDirectory.badPassword accounts authc.id

namespace Reply

/-- What a step of a mechanism comes to. -/
def ofStep (accounts : D) (entropy : Entropy) (session : Session) (mechanism : String) :
    Step → Reply D
  | .more data =>
      ⟨(Frame.ofMessage data).map (.serverData session.info.uid), accounts, entropy, some session⟩
  | .success =>
      let id := session.info.uid
      match session.granted accounts with
      | none => ⟨[.outcome id .failure], accounts, entropy, session.afterFailure⟩
      | some target =>
          let frames : List Outbound := [.login id target.name, .outcome id .success]
          if AccountDirectory.userOnline accounts id then
            ⟨frames, (AccountDirectory.login accounts id target.id).2, entropy, none⟩
          else ⟨frames, accounts, entropy, some (session.deferred target.identity mechanism)⟩
  | .failure reply =>
      ⟨Engine.replyFrames session.info.uid reply ++ [.outcome session.info.uid .failure],
        penalized accounts session, entropy, session.afterFailure⟩
  | .refused reply =>
      ⟨Engine.replyFrames session.info.uid reply ++ [.outcome session.info.uid .failure],
        accounts, entropy, session.afterFailure⟩

variable (accounts : D) (entropy : Entropy) (session : Session) (mechanism : String)

/-- A client that has authenticated hears of the account that it is granted, now or later. -/
theorem frames_ofStep_success :
    (ofStep accounts entropy session mechanism .success).frames =
      match session.granted accounts with
      | none => [.outcome session.info.uid .failure]
      | some target =>
          [.login session.info.uid target.name, .outcome session.info.uid .success] := by
  simp only [ofStep]
  split
  · rfl
  · split <;> rfl

variable {accounts entropy session mechanism} in
/-- Only a step that succeeds logs a client in, as the account that it is granted. -/
theorem login_mem_ofStep {step : Step} {id name : String}
    (emitted : .login id name ∈ (ofStep accounts entropy session mechanism step).frames) :
    step = .success ∧ id = session.info.uid ∧
      ∃ target, session.granted accounts = some target ∧ name = target.name := by
  cases step with
  | more data => simp [ofStep] at emitted
  | success =>
      rw [frames_ofStep_success] at emitted
      cases chosen : session.granted accounts with
      | none => simp [chosen] at emitted
      | some target =>
          have same : id = session.info.uid ∧ name = target.name := by simpa [chosen] using emitted
          exact ⟨rfl, same.1, target, rfl, same.2⟩
  | failure reply =>
      simp only [ofStep, Engine.replyFrames] at emitted
      split at emitted <;> simp at emitted
  | refused reply =>
      simp only [ofStep, Engine.replyFrames] at emitted
      split at emitted <;> simp at emitted

/-- A client that has authenticated changes the directory at most by its login. -/
theorem accounts_ofStep_success :
    (ofStep accounts entropy session mechanism .success).accounts = accounts ∨
      ∃ uid account, (ofStep accounts entropy session mechanism .success).accounts =
        (AccountDirectory.login accounts uid account).2 := by
  simp only [ofStep]
  split
  · exact .inl rfl
  · split
    · exact .inr ⟨_, _, rfl⟩
    · exact .inl rfl

end Reply

namespace Engine

theorem fst_authorize (engine : Engine D C) (user : String) (source target : Account) :
    (engine.authorize user source target).1 = permits engine.accounts source target := by
  unfold authorize permits
  cases AccountDirectory.admission engine.accounts source with
  | deny reason => rfl
  | allow =>
      by_cases same : target.id = source.id
      · simp [same]
      · cases AccountDirectory.canImpersonate engine.accounts source target with
        | false => simp [same]
        | true =>
            cases AccountDirectory.admission engine.accounts target with
            | deny reason => simp [same]
            | allow => simp [same]

theorem ite_authorize (engine : Engine D C) (user : String) (source target : Account) :
    (if (engine.authorize user source target).1 then some target.identity else none) =
      ((some target).filter (permits engine.accounts source)).map Account.identity := by
  rw [fst_authorize]
  cases permitted : permits engine.accounts source target <;> simp [Option.filter, permitted]

/-- Deciding whom a client is logged in as finds the account that it is granted, and fills in that a
client acts as itself. -/
theorem loginTarget_cases (engine : Engine D C) (session : Session) :
    ∃ middle after,
      engine.loginTarget session =
        ((session.granted engine.accounts).map Account.identity, middle, after) ∧
      engine.Alike after ∧
      (∀ other, other ≠ session.info.uid →
        after.sessions.find? other = engine.sessions.find? other) ∧
      (middle = session ∧ session.granted engine.accounts = none ∨
        middle = { session with authz := session.authz.or session.authc }) := by
  unfold loginTarget Session.granted granted
  cases authc : session.authc with
  | none => exact ⟨session, engine, rfl, .refl engine, fun _ _ => rfl, .inl ⟨rfl, rfl⟩⟩
  | some identity =>
      simp only [Option.map_some, Option.bind_some]
      cases found : AccountDirectory.findById engine.accounts identity.id with
      | none => exact ⟨session, engine, rfl, .refl engine, fun _ _ => rfl, .inl ⟨rfl, rfl⟩⟩
      | some source =>
          have noted (target : Account) (middle : Session) :
              engine.Alike ((engine.putSession middle).noteAll
                (engine.authorize (session.info.sourceName engine.options.hideServerNames) source
                  target).2) :=
            (engine.alike_putSession _).trans (alike_noteAll _ _)
          have others (target : Account) (middle : Session) (same : middle.info = session.info)
              (other : String) (different : other ≠ session.info.uid) :
              ((engine.putSession middle).noteAll
                (engine.authorize (session.info.sourceName engine.options.hideServerNames) source
                  target).2).sessions.find? other = engine.sessions.find? other := by
            rw [sessions_noteAll, find?_putSession, same]
            exact if_neg different
          cases authz : session.authz with
          | none =>
              simp only [Option.map_none, Option.bind_some, ← engine.ite_authorize
                (session.info.sourceName engine.options.hideServerNames)]
              exact ⟨_, _, rfl, noted _ _, others _ _ rfl, .inr rfl⟩
          | some wanted =>
              simp only [Option.map_some, Option.bind_some]
              cases AccountDirectory.findById engine.accounts wanted.id with
              | none => exact ⟨session, engine, rfl, .refl engine, fun _ _ => rfl, .inl ⟨rfl, rfl⟩⟩
              | some target =>
                  simp only [← engine.ite_authorize
                    (session.info.sourceName engine.options.hideServerNames)]
                  exact ⟨_, _, rfl, noted _ _, others _ _ rfl, .inr rfl⟩

theorem applyLogin_alike (engine : Engine D C) (uid : String) (account : Identity)
    (mechanism : String) :
    (engine.applyLogin uid account mechanism).accounts =
        (AccountDirectory.login engine.accounts uid account.id).2 ∧
      (engine.applyLogin uid account mechanism).sessions = engine.sessions ∧
      (engine.applyLogin uid account mechanism).credentials = engine.credentials ∧
      (engine.applyLogin uid account mechanism).registry = engine.registry ∧
      (engine.applyLogin uid account mechanism).env.entropy = engine.env.entropy := by
  unfold applyLogin
  cases AccountDirectory.login engine.accounts uid account.id with
  | mk known accounts => cases known <;> exact ⟨rfl, rfl, rfl, rfl, rfl⟩

/-- A client that has authenticated is logged in as the account that it is granted, at once or
later, or its negotiation fails. -/
theorem succeed_gives (engine : Engine D C) (session : Session) (mechanism : String) :
    engine.Gives session.info.uid
      (.ofStep engine.accounts engine.env.entropy session mechanism .success)
      (engine.succeed session mechanism) := by
  obtain ⟨middle, after, decided, alike, others, shape⟩ := engine.loginTarget_cases session
  unfold succeed
  rw [decided]
  have info : middle.info = session.info := by
    rcases shape with ⟨rfl, -⟩ | rfl <;> rfl
  have failure : middle.afterFailure = session.afterFailure := by
    rcases shape with ⟨rfl, -⟩ | rfl <;> rfl
  simp only [Reply.ofStep]
  cases chosen : session.granted engine.accounts with
  | none =>
      have given := after.fail_gives middle
      rw [info, failure, alike.accounts, alike.entropy] at given
      exact given.of_before alike.credentials alike.registry others
  | some target =>
      rcases shape with ⟨-, none⟩ | rfl
      · rw [chosen] at none
        cases none
      · simp only [Option.map_some, alike.accounts]
        cases AccountDirectory.userOnline engine.accounts session.info.uid with
        | true =>
            obtain ⟨accounts, sessions, credentials, registry, entropy⟩ :=
              (after.destroySession session.info.uid).applyLogin_alike session.info.uid
                target.identity mechanism
            have destroyed := after.alike_destroySession session.info.uid
            simp only [if_true]
            refine ⟨rfl, ?_, ?_, ?_, ?_, ?_⟩
            · intro other
              simp only [sessions, find?_destroySession]
              split
              · rfl
              · next different => exact others other different
            · simp only [accounts, destroyed.accounts, alike.accounts]
              rfl
            · simp only [credentials, destroyed.credentials, alike.credentials]
            · simp only [registry, destroyed.registry, alike.registry]
            · simp only [entropy, destroyed.entropy, alike.entropy]
        | false =>
            simp only [Bool.false_eq_true, if_false]
            refine ⟨rfl, ?_, rfl, alike.credentials, alike.registry, ?_⟩
            · intro other
              rw [find?_putSession]
              by_cases same : other = session.info.uid
              · rw [if_pos same]
                exact if_pos same
              · rw [if_neg same]
                exact (if_neg same).trans (others other same)
            · exact (Session.entropy_finishMechanism _ _).trans alike.entropy

theorem penalize_alike (engine : Engine D C) (session : Session) (mechanism : String) :
    (engine.penalize session mechanism).accounts = penalized engine.accounts session ∧
      (engine.penalize session mechanism).sessions = engine.sessions ∧
      (engine.penalize session mechanism).credentials = engine.credentials ∧
      (engine.penalize session mechanism).registry = engine.registry ∧
      (engine.penalize session mechanism).env.entropy = engine.env.entropy := by
  unfold penalize penalized
  cases session.authc with
  | none => exact ⟨rfl, rfl, rfl, rfl, rfl⟩
  | some authc =>
      simp only
      cases AccountDirectory.findById engine.accounts authc.id with
      | none => exact ⟨rfl, rfl, rfl, rfl, rfl⟩
      | some account => exact ⟨rfl, rfl, rfl, rfl, rfl⟩

omit [AccountDirectory D] in
/-- More frames in front of a reply. -/
theorem Gives.prepend {engine : Engine D C} {id : String} {reply : Reply D}
    {result : List Outbound × Engine D C} (given : engine.Gives id reply result)
    (frames : List Outbound) :
    engine.Gives id { reply with frames := frames ++ reply.frames }
      (frames ++ result.1, result.2) :=
  ⟨congrArg (frames ++ ·) given.frames, given.sessions, given.accounts, given.credentials,
    given.registry, given.entropy⟩

/-- What becomes of a session after a step. -/
theorem conclude_gives (engine : Engine D C) (session : Session) (mechanism : String) (step : Step)
    (present : engine.sessions.find? session.info.uid = some session) :
    engine.Gives session.info.uid
      (.ofStep engine.accounts engine.env.entropy session mechanism step)
      (engine.conclude session mechanism step) := by
  cases step with
  | more data =>
      refine ⟨rfl, ?_, rfl, rfl, rfl, rfl⟩
      intro other
      simp only [conclude, Reply.ofStep]
      split
      · next same => rw [same, present]
      · rfl
  | success => exact engine.succeed_gives session mechanism
  | failure reply =>
      obtain ⟨accounts, sessions, credentials, registry, entropy⟩ :=
        engine.penalize_alike session mechanism
      have given := (engine.penalize session mechanism).fail_gives session
      rw [accounts, entropy] at given
      exact (given.of_before credentials registry fun other _ => by rw [sessions]).prepend
        (replyFrames session.info.uid reply)
  | refused reply =>
      exact (engine.fail_gives session).prepend (replyFrames session.info.uid reply)

end Engine

variable [CredentialStore C]

/-- A step of a registered mechanism: at a message, or at the start. -/
def Registration.turn (registration : Registration) (ctx : Context D C) :
    Option Bytes → Step × Context D C
  | none => registration.start ctx
  | some message => registration.step ctx message

theorem Registration.keeps_turn (registration : Registration) (ctx : Context D C)
    (message : Option Bytes) : ctx.Keeps (registration.turn ctx message).2 := by
  cases message with
  | none => exact registration.keeps_start ctx
  | some message => exact registration.keeps_step ctx message

namespace Engine

/-- What a step of the mechanism of a session comes to. -/
def turn (engine : Engine D C) (session : Session) (registration : Registration)
    (message : Option Bytes) : Reply D :=
  let outcome := registration.turn (engine.context session) message
  let reply := Reply.ofStep outcome.2.accounts outcome.2.env.entropy outcome.2.session
    registration.name outcome.1
  { reply with
    frames := (outcome.2.mechlist.map (.mechanismList session.info.uid)).toList ++ reply.frames }

theorem run_eq (engine : Engine D C) (session : Session) {registration : Registration}
    (selected : session.mechanism = some registration) (message : Option Bytes) :
    engine.run session message =
      let outcome := registration.turn (engine.context session) message
      let concluded :=
        (engine.adopt outcome.2).conclude outcome.2.session registration.name outcome.1
      ((outcome.2.mechlist.map (.mechanismList session.info.uid)).toList ++ concluded.1,
        concluded.2) := by
  unfold run
  simp only [selected]
  cases message <;> rfl

theorem run_gives (engine : Engine D C) (session : Session) {registration : Registration}
    (selected : session.mechanism = some registration) (message : Option Bytes) :
    engine.Gives session.info.uid (engine.turn session registration message)
      (engine.run session message) := by
  have info : (registration.turn (engine.context session) message).2.session.info = session.info :=
    (registration.keeps_turn (engine.context session) message).info
  rw [engine.run_eq session selected, turn]
  generalize registration.turn (engine.context session) message = outcome at info ⊢
  obtain ⟨step, ctx⟩ := outcome
  simp only at info ⊢
  have present : (engine.adopt ctx).sessions.find? ctx.session.info.uid = some ctx.session := by
    unfold adopt
    rw [find?_putSession, if_pos rfl]
  have given := (engine.adopt ctx).conclude_gives ctx.session registration.name step present
  rw [info] at given
  have concluded : engine.Gives session.info.uid
      (.ofStep ctx.accounts ctx.env.entropy ctx.session registration.name step)
      ((engine.adopt ctx).conclude ctx.session registration.name step) := by
    refine given.of_before rfl rfl ?_
    intro other different
    unfold adopt
    rw [find?_putSession, info]
    exact if_neg different
  exact concluded.prepend _

/-! ## Frames -/

/-- What a frame comes to for its session. -/
def reply (engine : Engine D C) (session : Session) : Inbound → Reply D
  | .hostInfo _ host ip secure =>
      ⟨[], engine.accounts, engine.env.entropy, some (hostInfo session host ip secure)⟩
  | .startAuth _ name certfp =>
      let session := session.presenting certfp
      if Limits.mechanismNameLength < name.utf8ByteSize then engine.refusal session
      else
        match session.mechanism with
        | some _ => engine.refusal session
        | none =>
            match engine.registry.find? name with
            | none =>
                ⟨[.mechanismList session.info.uid engine.registry.mechlist], engine.accounts,
                  engine.env.entropy, some session⟩
            | some registration =>
                engine.turn { session with mechanism := some registration } registration none
  | .clientData _ data =>
      match session.mechanism with
      | none => engine.refusal session
      | some registration =>
          match session.decoder.add (Bytes.ofString data) with
          | (.ok .incomplete, decoder) =>
              ⟨[], engine.accounts, engine.env.entropy, some { session with decoder }⟩
          | (.ok (.complete message), decoder) =>
              engine.turn { session with decoder } registration (some message)
          | (.ok .abort, _) => engine.refusal session
          | (.error _, _) => engine.refusal session
  | .done _ => ⟨[], engine.accounts, engine.env.entropy, session.afterFailure⟩

/-- What a frame has left of its session, told by what became of the frame. -/
inductive Left (engine : Engine D C) (session : Session) : Inbound → Session → Prop where
  | told (id host ip : String) (secure : Bool) :
      Left engine session (.hostInfo id host ip secure) (hostInfo session host ip secure)
  | unregistered {id name : String} {certfp : Option String}
      (idle : (session.presenting certfp).mechanism = none) :
      Left engine session (.startAuth id name certfp) (session.presenting certfp)
  | started {id name : String} {certfp : Option String} {registration : Registration}
      {after : Session} (idle : (session.presenting certfp).mechanism = none)
      (found : engine.registry.find? name = some registration)
      (left : (engine.turn { session.presenting certfp with mechanism := some registration }
        registration none).session = some after) :
      Left engine session (.startAuth id name certfp) after
  | fed {id data : String} {registration : Registration} {decoder : Frame.Decoder}
      (selected : session.mechanism = some registration)
      (added : session.decoder.add (Bytes.ofString data) = (.ok .incomplete, decoder)) :
      Left engine session (.clientData id data) { session with decoder }
  | stepped {id data : String} {registration : Registration} {message : Bytes}
      {decoder : Frame.Decoder} {after : Session}
      (selected : session.mechanism = some registration)
      (added : session.decoder.add (Bytes.ofString data) = (.ok (.complete message), decoder))
      (left : (engine.turn { session with decoder } registration (some message)).session =
        some after) :
      Left engine session (.clientData id data) after
  | stopped {id : String} {after : Session} (left : session.afterFailure = some after) :
      Left engine session (.done id) after

/-- A frame leaves a session in one of these ways, or ends it. -/
theorem left_of_reply {engine : Engine D C} {session after : Session} {frame : Inbound}
    (left : (engine.reply session frame).session = some after) :
    engine.Left session frame after := by
  cases frame with
  | hostInfo id host ip secure =>
      cases left
      exact .told id host ip secure
  | startAuth id name certfp =>
      simp only [reply] at left
      split at left
      · cases left
      · split at left
        · cases left
        · next idle =>
            split at left
            · cases left
              exact .unregistered idle
            · next registration found => exact .started idle found left
  | clientData id data =>
      simp only [reply] at left
      split at left
      · cases left
      · next registration selected =>
          split at left
          · next decoder added =>
              cases left
              exact .fed selected added
          · next message decoder added => exact .stepped selected added left
          · cases left
          · cases left
  | done id => exact .stopped left

/-- A frame that leaves its message open is buffered. -/
theorem reply_incomplete {engine : Engine D C} {session : Session} {registration : Registration}
    {id data : String} {decoder : Frame.Decoder} (selected : session.mechanism = some registration)
    (added : session.decoder.add (Bytes.ofString data) = (.ok .incomplete, decoder)) :
    engine.reply session (.clientData id data) =
      ⟨[], engine.accounts, engine.env.entropy, some { session with decoder }⟩ := by
  simp only [reply]
  split
  · next absent =>
      rw [selected] at absent
      cases absent
  · rw [added]

/-- A frame that completes a message is a turn of the mechanism. -/
theorem reply_complete {engine : Engine D C} {session : Session} {registration : Registration}
    {id data : String} {message : Bytes} {decoder : Frame.Decoder}
    (selected : session.mechanism = some registration)
    (added : session.decoder.add (Bytes.ofString data) = (.ok (.complete message), decoder)) :
    engine.reply session (.clientData id data) =
      engine.turn { session with decoder } registration (some message) := by
  simp only [reply]
  split
  · next absent =>
      rw [selected] at absent
      cases absent
  · next found present =>
      rw [selected] at present
      cases present
      rw [added]

/-- Any other frame of data ends the session. -/
theorem reply_spoiled {engine : Engine D C} {session : Session} {id data : String}
    (incomplete : (session.decoder.add (Bytes.ofString data)).1 ≠ .ok .incomplete)
    (complete : ∀ message,
      (session.decoder.add (Bytes.ofString data)).1 ≠ .ok (.complete message)) :
    engine.reply session (.clientData id data) = engine.refusal session := by
  simp only [reply]
  split
  · rfl
  · split
    · next added => exact absurd (congrArg Prod.fst added) incomplete
    · next message _ added => exact absurd (congrArg Prod.fst added) (complete message)
    · rfl
    · rfl

omit [AccountDirectory D] [CredentialStore C] in
/-- To put a session into the store before an operation changes nothing that the operation gives. -/
theorem Gives.of_put {engine : Engine D C} {session : Session} {id : String} {reply : Reply D}
    {result : List Outbound × Engine D C} (same : session.info.uid = id)
    (given : (engine.putSession session).Gives id reply result) : engine.Gives id reply result := by
  refine given.of_before rfl rfl ?_
  intro other different
  rw [find?_putSession, same]
  exact if_neg different

/-- A client that presents a certificate starts as one whose certificate is known. -/
theorem startAuth_presenting (engine : Engine D C) (session : Session) (name : String)
    (certfp : Option String) :
    engine.startAuth session name certfp =
      engine.startAuth (session.presenting certfp) name none := by
  cases certfp <;> rfl

theorem startAuth_gives (engine : Engine D C) (session : Session) (id name : String)
    (certfp : Option String) :
    engine.Gives session.info.uid (engine.reply session (.startAuth id name certfp))
      (engine.startAuth session name certfp) := by
  rw [engine.startAuth_presenting, ← session.uid_presenting certfp]
  unfold reply startAuth
  simp only
  generalize session.presenting certfp = session
  refine Gives.of_put (rfl : session.info.uid = session.info.uid) ?_
  split
  · exact abort_gives _ session _
  · cases selected : session.mechanism with
    | some current => exact abort_gives _ session _
    | none =>
        simp only
        cases found : engine.registry.find? name with
        | none =>
            have found : (engine.putSession session).registry.find? name = none := found
            simp only [found]
            refine .of_alike (alike_note _ _) ?_
            intro other
            rw [sessions_note, find?_putSession]
            split <;> rfl
        | some registration =>
            have found : (engine.putSession session).registry.find? name =
                some registration := found
            simp only [found]
            let started : Session := { session with mechanism := some registration }
            exact .of_put (rfl : started.info.uid = session.info.uid)
              (run_gives _ started rfl none)

theorem clientData_gives (engine : Engine D C) (session : Session) (id data : String) :
    engine.Gives session.info.uid (engine.reply session (.clientData id data))
      (engine.clientData session data) := by
  unfold reply clientData
  cases selected : session.mechanism with
  | none => exact abort_gives _ session _
  | some registration =>
      simp only
      obtain ⟨decoded, decoder⟩ := session.decoder.add (Bytes.ofString data)
      let fed : Session := { session with mechanism := some registration, decoder }
      refine .of_put (rfl : fed.info.uid = session.info.uid) ?_
      match decoded with
      | .ok .incomplete =>
          refine .of_alike (Alike.refl (engine.putSession fed)) ?_
          intro other
          rw [find?_putSession]
          split <;> rfl
      | .ok (.complete message) => exact run_gives _ fed rfl (some message)
      | .ok .abort => exact abort_gives _ fed _
      | .error cause => exact abort_gives _ fed _

/-- Sessions stand under their own identifiers. -/
def Keyed (engine : Engine D C) : Prop :=
  ∀ id session, engine.sessions.find? id = some session → session.info.uid = id

/-- The mechanism that a session uses. -/
def mechanism? (engine : Engine D C) (id : String) : Option Registration :=
  (engine.sessions.find? id).bind Session.mechanism

/-- What the mechanism of a session keeps. -/
def state? (engine : Engine D C) (id : String) : Option MechanismState :=
  (engine.sessions.find? id).bind Session.state

/-- A frame has found its session, or has begun it. -/
structure Enters (engine : Engine D C) (server : String) (frame : Inbound) (session : Session)
    (middle : Engine D C) : Prop where
  alike : engine.Alike middle
  uid : session.info.uid = frame.session
  sessions : ∀ other, middle.sessions.find? other =
    if other = frame.session then some session else engine.sessions.find? other
  known : ∀ earlier, engine.sessions.find? frame.session = some earlier →
    session = earlier.unmarked ∧ middle.env = engine.env
  fresh : engine.sessions.find? frame.session = none →
    session = { info := { uid := frame.session, server } }

omit [AccountDirectory D] [CredentialStore C] in
/-- The session that a frame finds or begins uses the mechanism and holds the login that were there
before, and is not marked. -/
theorem Enters.same {engine middle : Engine D C} {server : String} {frame : Inbound}
    {session : Session} (enters : engine.Enters server frame session middle) :
    session.mechanism = (engine.sessions.find? frame.session).bind Session.mechanism ∧
      session.pending = (engine.sessions.find? frame.session).bind Session.pending ∧
      session.marked = false := by
  cases known : engine.sessions.find? frame.session with
  | none =>
      rw [enters.fresh known]
      exact ⟨rfl, rfl, rfl⟩
  | some earlier =>
      obtain ⟨rfl, -⟩ := enters.known earlier known
      exact ⟨rfl, rfl, rfl⟩

omit [AccountDirectory D] [CredentialStore C] in
/-- What the mechanism keeps is what was kept before. -/
theorem Enters.state {engine middle : Engine D C} {server : String} {frame : Inbound}
    {session : Session} (enters : engine.Enters server frame session middle) :
    session.state = engine.state? frame.session := by
  unfold state?
  cases known : engine.sessions.find? frame.session with
  | none =>
      rw [enters.fresh known]
      rfl
  | some earlier =>
      obtain ⟨rfl, -⟩ := enters.known earlier known
      rfl

omit [AccountDirectory D] [CredentialStore C] in
theorem enters_of_known {engine : Engine D C} (server : String) {frame : Inbound}
    {session : Session} (keyed : engine.Keyed)
    (known : engine.sessions.find? frame.session = some session) :
    engine.Enters server frame session.unmarked (engine.putSession session.unmarked) := by
  have uid : session.info.uid = frame.session := keyed _ _ known
  refine ⟨⟨rfl, rfl, rfl, rfl⟩, uid, ?_, ?_, ?_⟩
  · intro other
    rw [find?_putSession, ← uid]
    rfl
  · intro earlier same
    rw [known] at same
    cases same
    exact ⟨rfl, rfl⟩
  · intro unknown
    rw [known] at unknown
    cases unknown

omit [AccountDirectory D] [CredentialStore C] in
theorem enters_of_unknown {engine : Engine D C} (server : String) {frame : Inbound}
    (unknown : engine.sessions.find? frame.session = none) :
    engine.Enters server frame { info := { uid := frame.session, server } }
      ({ engine with
          sessions := engine.sessions.insert frame.session
            { info := { uid := frame.session, server } }
          env := engine.env.note (.sessionCreated frame.session server) }.putSession
        { info := { uid := frame.session, server } }) := by
  refine ⟨⟨rfl, rfl, rfl, rfl⟩, rfl, ?_, ?_, fun _ => rfl⟩
  · intro other
    rw [find?_putSession]
    split
    · rfl
    · next different => exact (Table.find?_insert ..).trans (if_neg different)
  · intro earlier known
    rw [unknown] at known
    cases known

omit [AccountDirectory D] [CredentialStore C] in
/-- A frame finds its session or begins it, unless it belongs to none. -/
theorem sessionFor_cases (engine : Engine D C) (server : String) (frame : Inbound)
    (keyed : engine.Keyed) :
    engine.sessionFor server frame = none ∧ engine.sessions.find? frame.session = none ∨
      ∃ session middle, engine.sessionFor server frame = some (session, middle) ∧
        engine.Enters server frame session middle := by
  cases known : engine.sessions.find? frame.session with
  | some session =>
      refine .inr ⟨_, _, ?_, enters_of_known server keyed known⟩
      cases frame <;>
        (simp only [Inbound.session] at known
         simp only [sessionFor, SessionStore.findOrCreate, known, Option.map_some]
         rfl)
  | none =>
      have begun := enters_of_unknown server known
      cases frame with
      | hostInfo id host ip secure =>
          simp only [Inbound.session] at known
          refine .inr ⟨_, _, ?_, begun⟩
          simp only [sessionFor, SessionStore.findOrCreate, known, Option.map_some]
          rfl
      | startAuth id mechanism certfp =>
          simp only [Inbound.session] at known
          refine .inr ⟨_, _, ?_, begun⟩
          simp only [sessionFor, SessionStore.findOrCreate, known, Option.map_some]
          rfl
      | clientData id data =>
          simp only [Inbound.session] at known
          exact .inl ⟨by simp only [sessionFor, known, Option.map_none], rfl⟩
      | done id =>
          simp only [Inbound.session] at known
          exact .inl ⟨by simp only [sessionFor, known, Option.map_none], rfl⟩

/-- Handling a frame that has found its session, or has begun it, comes to the reply for it. -/
theorem handle_gives {engine middle : Engine D C} {server : String} {frame : Inbound}
    {session : Session} (some : engine.sessionFor server frame = some (session, middle))
    (enters : engine.Enters server frame session middle) :
    engine.Gives frame.session (middle.reply session frame) (engine.handle server frame) := by
  have given : middle.Gives session.info.uid (middle.reply session frame)
      (engine.handle server frame) := by
    simp only [handle, some]
    cases frame with
    | hostInfo id host ip secure =>
        refine .of_alike (alike_putSession _ _) ?_
        intro other
        rw [find?_putSession]
        have same : (hostInfo session host ip secure).info.uid = session.info.uid := by
          unfold hostInfo
          simp only
          split <;> rfl
        rw [same]
    | startAuth id mechanism certfp => exact middle.startAuth_gives session id mechanism certfp
    | clientData id data => exact middle.clientData_gives session id data
    | done id => exact .of_alike (alike_resetOrDestroy _ _) (find?_resetOrDestroy _ _)
  rw [enters.uid] at given
  refine given.of_before enters.alike.credentials enters.alike.registry ?_
  intro other different
  rw [enters.sessions, if_neg different]

/-- Handling a frame comes to the reply for its session. A frame that belongs to no session comes to
nothing. -/
theorem handle_cases (engine : Engine D C) (server : String) (frame : Inbound)
    (keyed : engine.Keyed) :
    (engine.sessions.find? frame.session = none ∧ (engine.handle server frame).1 = [] ∧
        engine.Alike (engine.handle server frame).2 ∧
        (engine.handle server frame).2.sessions = engine.sessions) ∨
      ∃ session middle, engine.Enters server frame session middle ∧
        engine.Gives frame.session (middle.reply session frame) (engine.handle server frame) := by
  rcases engine.sessionFor_cases server frame keyed with ⟨none, unknown⟩ | ⟨session, middle, some,
    enters⟩
  · have ignored : engine.handle server frame =
        ([], engine.note (.sessionUnknown frame.session)) := by
      simp only [handle, none]
    refine .inl ⟨unknown, ?_⟩
    rw [ignored]
    exact ⟨rfl, engine.alike_note _, rfl⟩
  · exact .inr ⟨session, middle, enters, handle_gives some enters⟩

/-- A frame leaves the sessions that it is not for. -/
theorem find?_handle_of_ne {engine : Engine D C} (keyed : engine.Keyed) (server : String)
    {frame : Inbound} {id : String} (other : id ≠ frame.session) :
    (engine.handle server frame).2.sessions.find? id = engine.sessions.find? id := by
  rcases engine.handle_cases server frame keyed with ⟨-, -, -, sessions⟩ | ⟨session, middle, -,
    gives⟩
  · rw [sessions]
  · rw [gives.sessions, if_neg other]

/-- A frame changes nothing of what is offered. -/
theorem registry_handle {engine : Engine D C} (keyed : engine.Keyed) (server : String)
    (frame : Inbound) : (engine.handle server frame).2.registry = engine.registry := by
  rcases engine.handle_cases server frame keyed with
    ⟨-, -, alike, -⟩ | ⟨session, middle, -, gives⟩
  · exact alike.registry
  · exact gives.registry

theorem credentials_handle {engine : Engine D C} (keyed : engine.Keyed) (server : String)
    (frame : Inbound) : (engine.handle server frame).2.credentials = engine.credentials := by
  rcases engine.handle_cases server frame keyed with
    ⟨-, -, alike, -⟩ | ⟨session, middle, -, gives⟩
  · exact alike.credentials
  · exact gives.credentials

end Engine

end IrcSasl
