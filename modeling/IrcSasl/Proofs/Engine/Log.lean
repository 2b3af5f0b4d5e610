import IrcSasl.Proofs.Engine.Verdict

set_option autoImplicit false

/-!
# What the engine writes to the log

Every operation of the engine leaves the log as it was, with more lines behind it. Destroying a
session tells of a login that has expired, beginning one says so, and what the engine says besides
is routine (`Log.Event.isRoutine`) as long as the accounts that clients are logged into are there.
-/

namespace IrcSasl

variable {D C : Type} {kind : Log.Event → Prop}

/-! ## Sessions -/

/-- To finish a mechanism writes nothing. -/
@[simp] theorem Session.log_finishMechanism (session : Session) (env : Environment) :
    (session.finishMechanism env).2.log = env.log := by
  unfold finishMechanism
  split <;> rfl

section Expired

variable (expired : ∀ source account, kind (.loginExpired source account))

include expired

/-- To destroy a session writes at most that its login has expired. -/
theorem SessionStore.logs_destroy (store : SessionStore) (id : String) (env : Environment) :
    env.Logs kind (store.destroy id env).2.2 := by
  unfold destroy
  cases store.find? id with
  | none => exact .refl env
  | some session =>
      have finished {told : Environment} (logs : env.Logs kind told) :
          env.Logs kind (session.finishMechanism told).2 :=
        logs.trans (.of_same (session.log_finishMechanism told))
      refine finished ?_
      split
      · exact .note env (expired _ _)
      · exact .refl env

theorem SessionStore.logs_destroyAll {event : String → Log.Event} (told : ∀ id, kind (event id))
    (ids : List String) (store : SessionStore) (env : Environment) :
    env.Logs kind (destroyAll event ids store env).2 := by
  induction ids generalizing store env with
  | nil => exact .refl env
  | cons id rest ih =>
      have noted : env.Logs kind (env.note (event id)) := .note env (told id)
      exact (noted.trans (logs_destroy expired store id _)).trans (ih _ _)

namespace Engine

theorem logs_destroySession (engine : Engine D C) (id : String) :
    engine.env.Logs kind (engine.destroySession id).env :=
  SessionStore.logs_destroy expired _ _ _

theorem logs_resetOrDestroy (engine : Engine D C) (session : Session) :
    engine.env.Logs kind (engine.resetOrDestroy session).env := by
  unfold resetOrDestroy
  split
  · exact .of_same (session.log_finishMechanism engine.env)
  · exact logs_destroySession expired engine session.info.uid

end Engine

end Expired

namespace Engine

/-- To find or begin a session writes at most that it begins. -/
theorem logs_sessionFor (created : ∀ id server, kind (.sessionCreated id server))
    {engine middle : Engine D C} {server : String} {frame : Inbound} {session : Session}
    (entered : engine.sessionFor server frame = some (session, middle)) :
    engine.env.Logs kind middle.env := by
  have begun (id : String) : engine.env.Logs kind
      (engine.sessions.findOrCreate id server engine.env).2.2 := by
    unfold SessionStore.findOrCreate
    split
    · exact .refl engine.env
    · exact .note engine.env (created _ _)
  cases frame with
  | hostInfo id host ip secure =>
      simp only [sessionFor, Option.map_some, Option.some.injEq, Prod.mk.injEq] at entered
      obtain ⟨-, rfl⟩ := entered
      exact begun id
  | startAuth id name certfp =>
      simp only [sessionFor, Option.map_some, Option.some.injEq, Prod.mk.injEq] at entered
      obtain ⟨-, rfl⟩ := entered
      exact begun id
  | clientData id data =>
      simp only [sessionFor, Option.map_map, Option.map_eq_some_iff] at entered
      obtain ⟨found, -, same⟩ := entered
      cases same
      exact .refl engine.env
  | done id =>
      simp only [sessionFor, Option.map_map, Option.map_eq_some_iff] at entered
      obtain ⟨found, -, same⟩ := entered
      cases same
      exact .refl engine.env

/-- Events that are noted stand behind the log in their order. -/
theorem log_noteAll (engine : Engine D C) (events : List Log.Event) :
    (engine.noteAll events).env.log = engine.env.log ++ events := by
  induction events generalizing engine with
  | nil => exact (List.append_nil _).symm
  | cons event rest ih =>
      refine (ih (engine.note event)).trans ?_
      simp [note, Environment.note]

/-! ## Routine -/

variable [AccountDirectory D]

theorem isRoutine_authorize {engine : Engine D C} {user : String} {source target : Account} :
    ∀ event ∈ (engine.authorize user source target).2, event.isRoutine = true := by
  unfold authorize
  grind [Log.Event.isRoutine, Log.Event.level]

section Routine

variable (routine : ∀ event : Log.Event, event.isRoutine = true → kind event)

include routine

omit [AccountDirectory D] in
theorem logs_abort (engine : Engine D C) (session : Session) {event : Log.Event}
    (allowed : event.isRoutine = true) :
    engine.env.Logs kind ((engine.note event).abort session).2.env := by
  have noted : engine.env.Logs kind (engine.note event).env := .note _ (routine event allowed)
  exact noted.trans (logs_destroySession (fun _ _ => routine _ rfl) _ session.info.uid)

omit [AccountDirectory D] in
theorem logs_fail (engine : Engine D C) (session : Session) :
    engine.env.Logs kind (engine.fail session).2.env :=
  logs_resetOrDestroy (fun _ _ => routine _ rfl) engine session

theorem logs_penalize (engine : Engine D C) (session : Session) (mechanism : String) :
    engine.env.Logs kind (engine.penalize session mechanism).env := by
  unfold penalize
  split
  · exact .refl engine.env
  · split
    · exact .refl engine.env
    · exact .note _ (routine _ rfl)

theorem logs_loginTarget (engine : Engine D C) (session : Session) :
    engine.env.Logs kind (engine.loginTarget session).2.2.env := by
  unfold loginTarget
  split
  · exact .refl engine.env
  · split
    · exact .refl engine.env
    · simp only
      split
      · exact .refl engine.env
      · exact ⟨_, log_noteAll _ _, fun event member => routine event (isRoutine_authorize _ member)⟩

/-- To log a user into an account that is there is routine. -/
theorem logs_applyLogin (engine : Engine D C) {uid : String} {account : Identity}
    (mechanism : String)
    (enters : (AccountDirectory.login engine.accounts uid account.id).1 = true) :
    engine.env.Logs kind (engine.applyLogin uid account mechanism).env := by
  unfold applyLogin
  split
  · exact .note _ (routine _ rfl)
  · next accounts vanished =>
      rw [vanished] at enters
      cases enters

theorem logs_succeed (engine : Engine D C) {session : Session} (mechanism : String)
    (enters : ∀ target, session.granted engine.accounts = some target →
      (AccountDirectory.login engine.accounts session.info.uid target.id).1 = true) :
    engine.env.Logs kind (engine.succeed session mechanism).2.env := by
  have decided := logs_loginTarget routine engine session
  obtain ⟨middle, after, chosen, alike, -, same⟩ := engine.loginTarget_cases session
  have uid : middle.info.uid = session.info.uid := by
    rcases same with ⟨rfl, -⟩ | rfl <;> rfl
  rw [chosen] at decided
  unfold succeed
  rw [chosen]
  cases granted : session.granted engine.accounts with
  | none => exact decided.trans (logs_fail routine after middle)
  | some target =>
      have enters := enters target granted
      refine decided.trans ?_
      simp only [Option.map_some]
      split
      · have kept : (after.destroySession middle.info.uid).accounts = engine.accounts :=
          alike.accounts
        have destroyed := logs_destroySession (fun _ _ => routine _ rfl) after middle.info.uid
        refine destroyed.trans (logs_applyLogin routine _ mechanism ?_)
        rw [kept, uid]
        exact enters
      · exact .of_same (middle.log_finishMechanism after.env)

theorem logs_conclude (engine : Engine D C) {session : Session} (mechanism : String) {step : Step}
    (enters : ∀ target, step = .success → session.granted engine.accounts = some target →
      (AccountDirectory.login engine.accounts session.info.uid target.id).1 = true) :
    engine.env.Logs kind (engine.conclude session mechanism step).2.env := by
  cases step with
  | more data => exact .refl engine.env
  | success => exact logs_succeed routine engine mechanism fun target => enters target rfl
  | failure reply =>
      exact (logs_penalize routine engine session mechanism).trans (logs_fail routine _ session)
  | refused reply => exact logs_fail routine engine session

variable [CredentialStore C]

/-! ## Frames -/

/-- What a standard mechanism says in a turn is routine, unless SCRAM takes alarm at a message. -/
theorem logs_turn {registration : Registration}
    (standard : registration.mechanism.isStandard = true) (ctx : Context D C)
    {message : Option Bytes}
    (alarms : message.isSome → ∀ event, Scram.Alarm ctx event → kind event) :
    ctx.env.Logs kind (registration.turn ctx message).2.env := by
  have notes (event : Log.Event) (_ : event.IsNote) := routine event
  cases message with
  | none =>
      simp only [Registration.turn, Registration.start]
      cases known : registration.mechanism with
      | external => exact External.logs_start notes ctx
      | scripted script =>
          rw [known] at standard
          cases standard
      | _ => exact .refl ctx.env
  | some message =>
      simp only [Registration.turn, Registration.step]
      cases known : registration.mechanism with
      | plain => exact Plain.logs_step notes ctx message
      | external => exact External.logs_step notes ctx message
      | scram server => exact Scram.Server.logs_step notes server ctx message (alarms rfl)
      | scripted script =>
          rw [known] at standard
          cases standard
      | inert name =>
          rw [known] at standard
          cases standard

/-- What is said of a frame at which a mechanism is asked is what the mechanism says, beside
routine. -/
theorem Asks.logs {engine middle : Engine D C} {server : String} {frame : Inbound}
    {session : Session} {query : Query} {step : Step} {after : Context D C}
    (asks : engine.Asks server frame session middle query step after)
    (turned : (middle.context query.session).env.Logs kind after.env)
    (enters : ∀ target, step = .success → after.session.granted after.accounts = some target →
      (AccountDirectory.login after.accounts frame.session target.id).1 = true) :
    engine.env.Logs kind (engine.handle server frame).2.env := by
  obtain ⟨sessions, handled⟩ := asks.handle_eq
  rw [handled, run_eq _ _ (poses_of_query? asks.asked).selected]
  have same : query.registration.turn
      (({ middle with sessions } : Engine D C).context query.session) query.message =
        (step, after) := asks.turned
  simp only [same]
  rw [← asks.uid] at enters
  exact (logs_sessionFor (fun _ _ => routine _ rfl) asks.entered).trans
    (turned.trans (logs_conclude routine _ query.registration.name enters))

theorem logs_startAuth {engine : Engine D C} {session : Session} {id name : String}
    {certfp : Option String}
    (unasked : engine.query? session (.startAuth id name certfp) = none) :
    engine.env.Logs kind (engine.startAuth session name certfp).2.env := by
  rw [engine.startAuth_presenting]
  simp only [query?] at unasked
  rw [← session.mechanism_presenting certfp] at unasked
  unfold startAuth
  generalize session.presenting certfp = session at unasked
  simp only
  split
  · exact logs_abort routine (engine.putSession session) session rfl
  · next short =>
      split
      · exact logs_abort routine (engine.putSession session) session rfl
      · next idle =>
          rw [if_neg (by simp [short, idle]), Option.map_eq_none_iff] at unasked
          have unknown : (engine.putSession session).registry.find? name = none := unasked
          simp only [unknown]
          exact .note _ (routine _ rfl)

theorem logs_clientData {engine : Engine D C} {session : Session} {id data : String}
    (unasked : engine.query? session (.clientData id data) = none) :
    engine.env.Logs kind (engine.clientData session data).2.env := by
  simp only [query?] at unasked
  unfold clientData
  split
  · exact logs_abort routine engine session rfl
  · next registration selected =>
      rw [selected, Option.bind_some] at unasked
      cases added : session.decoder.add (Bytes.ofString data) with
      | mk decoded decoder =>
          rw [added] at unasked
          simp only
          split
          · exact .refl engine.env
          · cases unasked
          · exact logs_abort routine (engine.putSession { session with decoder }) _ rfl
          · exact logs_abort routine (engine.putSession { session with decoder }) _ rfl

/-- What is said of a frame that asks no mechanism is routine. -/
theorem logs_unasked {engine : Engine D C} {server : String} {frame : Inbound}
    (unasked : engine.verdict? server frame = none) :
    engine.env.Logs kind (engine.handle server frame).2.env := by
  unfold handle
  split
  · exact .note _ (routine _ rfl)
  · next session middle entered =>
      refine (logs_sessionFor (fun _ _ => routine _ rfl) entered).trans ?_
      have unasked : middle.query? session frame = none := by
        simpa only [verdict?, entered, Option.bind_some, Option.map_eq_none_iff] using unasked
      cases frame with
      | hostInfo id host ip secure => exact .refl middle.env
      | startAuth id name certfp => exact logs_startAuth routine unasked
      | clientData id data => exact logs_clientData routine unasked
      | done id => exact logs_resetOrDestroy (fun _ _ => routine _ rfl) middle session

/-! ## Other events -/

omit [AccountDirectory D] [CredentialStore C]

theorem logs_add (engine : Engine D C) (mechanism : Mechanism) :
    engine.env.Logs kind (engine.add mechanism).2.env := by
  unfold add Registry.register
  simp only
  split
  · exact .note _ (routine _ rfl)
  · split
    · exact .note _ (routine _ rfl)
    · exact .note _ (routine _ rfl)

theorem logs_remove (engine : Engine D C) (name : String) :
    engine.env.Logs kind (engine.remove name).2.env := by
  unfold remove
  split
  · exact .refl engine.env
  · refine (SessionStore.logs_destroyAll (fun _ _ => routine _ rfl)
      (fun id => routine (.sessionUnbound id name) rfl) (engine.sessions.boundTo name)
      engine.sessions engine.env).trans ?_
    unfold Registry.unregister
    simp only
    split
    · exact .refl _
    · exact .note _ (routine _ rfl)

theorem logs_ensureScram (engine : Engine D C) (options : HashOptions) :
    engine.env.Logs kind (engine.ensureScram options).2.env := by
  have drawn : (engine.createScram options.digest options.iterations options.saltLength).2.env.log =
      engine.env.log := rfl
  unfold ensureScram
  split
  · exact .refl engine.env
  · split
    · next cause after failed =>
        rw [failed] at drawn
        exact .of_same drawn
    · next server after created =>
        rw [created] at drawn
        exact .trans (.of_same drawn) (logs_add routine after (.scram server))

theorem logs_configureScram (engine : Engine D C) (options : HashOptions) :
    engine.env.Logs kind (engine.configureScram options).2.env := by
  refine @configureScram_invariant D C options (fun middle => engine.env.Logs kind middle.env)
    ?_ ?_ ?_ engine (.refl engine.env)
  · exact fun middle early => early.trans (.note _ (routine _ rfl))
  · exact fun middle digest _ early => early.trans (logs_remove routine middle digest.scramName)
  · exact fun middle early => early.trans (logs_ensureScram routine middle options)

theorem logs_sweep (engine : Engine D C) : engine.env.Logs kind engine.sweep.2.env :=
  SessionStore.logs_destroyAll (fun _ _ => routine _ rfl) (fun _ => routine _ rfl) _ _ engine.env

/-- What is said when a client arrives is routine if the account that it is logged into can be
entered. -/
theorem logs_userIntroduced [AccountDirectory D] (engine : Engine D C) (uid : String)
    (enters : ∀ id, (AccountDirectory.findById engine.accounts id).isSome →
      (AccountDirectory.login engine.accounts uid id).1 = true) :
    engine.env.Logs kind (engine.userIntroduced uid).2.env := by
  unfold userIntroduced
  split
  · exact .refl engine.env
  · next session found =>
      have destroyed := logs_destroySession (fun _ _ => routine _ rfl)
        (engine.putSession { session with needLog := false, pending := none }) uid
      simp only
      split
      · exact destroyed
      · next pending _ =>
          split
          · exact destroyed
          · next account live =>
              refine destroyed.trans (logs_applyLogin routine _ pending.mechanism ?_)
              exact enters pending.account.id (Option.isSome_iff_exists.mpr ⟨account, live⟩)

/-- What is said of an event other than a frame is routine. -/
theorem logs_perform [AccountDirectory D] [CredentialStore C] (engine : Engine D C)
    (event : Event D) (other : ∀ server inbound, event ≠ .frame server inbound)
    (enters : ∀ uid id, (AccountDirectory.findById engine.accounts id).isSome →
      (AccountDirectory.login engine.accounts uid id).1 = true) :
    engine.env.Logs kind (engine.perform event).env := by
  cases event with
  | frame server inbound => exact absurd rfl (other server inbound)
  | introduced uid => exact logs_userIntroduced routine engine uid (enters uid)
  | registered mechanism =>
      simp only [perform, snd_register]
      exact logs_add routine engine mechanism
  | unregistered name =>
      simp only [perform, snd_unregister]
      exact logs_remove routine engine name
  | configured options => exact logs_configureScram routine engine options
  | swept => exact logs_sweep routine engine
  | burst => exact .refl engine.env
  | directory change => exact .refl engine.env
  | drawn length => exact .of_same rfl

end Routine

end Engine

end IrcSasl
