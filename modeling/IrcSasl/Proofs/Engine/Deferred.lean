import IrcSasl.Proofs.Engine.Directory

set_option autoImplicit false

/-!
# Logins that wait for their clients

A client that authenticates before it is on the network has its login deferred. What `Engine.spares`
a session leaves that login waiting, whatever else happens to the session or around it
(`Engine.Waits.performAll`), until the client arrives and the login is applied to the account that
it was granted, or to none (`Engine.Waits.settles`).
-/

namespace IrcSasl

variable {D C : Type}

/-! ## What spares a session -/

/-- Whether a frame ends a session whatever waits in it: a mechanism is asked for by too long a name
or while one is in use, or data comes that no mechanism is there for, that gives up, or that cannot
be put together. -/
def Session.aborts (session : Session) : Inbound → Bool
  | .startAuth _ name _ =>
      Limits.mechanismNameLength < name.utf8ByteSize || session.mechanism.isSome
  | .clientData _ data =>
      session.mechanism.isNone ||
        match (session.decoder.add (Bytes.ofString data)).1 with
        | .ok .abort | .error _ => true
        | _ => false
  | _ => false

/-- Whether a frame tells that a client is logged in. -/
def Outbound.isLogin : Outbound → Bool
  | .login _ _ => true
  | _ => false

namespace Engine

/-- The session of one engine stands in another one, but for the mark of a sweep. -/
def Stays (id : String) (before after : Engine D C) : Prop :=
  ∀ session, before.sessions.find? id = some session →
    ∃ marked, after.sessions.find? id = some { session with marked }

namespace Stays

variable {id : String}

theorem of_same {before after : Engine D C}
    (same : after.sessions.find? id = before.sessions.find? id) : Stays id before after :=
  fun session found => ⟨session.marked, same.trans found⟩

theorem trans {first second third : Engine D C} (early : Stays id first second)
    (late : Stays id second third) : Stays id first third := by
  intro session found
  obtain ⟨once, kept⟩ := early session found
  obtain ⟨twice, left⟩ := late _ kept
  exact ⟨twice, left⟩

/-- A session that does not use a mechanism is still there when that is removed. -/
theorem remove (engine : Engine D C) (name : String)
    (other : ∀ session, engine.sessions.find? id = some session →
      session.mechanismName ≠ some name) :
    Stays id engine (engine.remove name).2 := by
  unfold Engine.remove
  split
  · exact .of_same rfl
  · refine .of_same ?_
    have unbound : id ∉ engine.sessions.boundTo name := by
      intro bound
      obtain ⟨session, found, uses⟩ := SessionStore.mem_idsWhere.mp bound
      exact other session found (of_decide_eq_true uses)
    exact (SessionStore.find?_destroyAll ..).trans (if_neg unbound)

theorem unregister (engine : Engine D C) (name : String)
    (other : ∀ session, engine.sessions.find? id = some session →
      session.mechanismName ≠ some name) :
    Stays id engine (engine.unregister name).2 := by
  rw [snd_unregister]
  exact remove engine name other

theorem register (engine : Engine D C) (mechanism : Mechanism) :
    Stays id engine (engine.register mechanism).2 := by
  rw [snd_register]
  exact .of_same rfl

theorem ensureScram (engine : Engine D C) (options : HashOptions) :
    Stays id engine (engine.ensureScram options).2 := by
  rcases engine.ensureScram_cases options with ⟨entry, -, kept⟩ | ⟨-, ⟨env, failed⟩ |
    ⟨server, env, -, -, -, added⟩⟩
  · rw [kept]
    exact .of_same rfl
  · rw [failed]
    exact .of_same rfl
  · rw [added]
    exact .of_same rfl

theorem configureScram (engine : Engine D C) (options : HashOptions)
    (other : ∀ session, engine.sessions.find? id = some session → ∀ digest,
      digest ≠ options.digest → session.mechanismName ≠ some digest.scramName) :
    Stays id engine (engine.configureScram options).2 := by
  refine configureScram_invariant ?_ ?_ ?_ (of_same rfl : Stays id engine engine)
  · exact fun middle early => early.trans (.of_same rfl)
  · intro middle digest different early session found
    -- What is in the session is as it was before the first removal.
    obtain ⟨marked, kept⟩ := early session found
    refine early.trans (remove middle digest.scramName ?_) session found
    intro later present
    cases kept.symm.trans present
    exact other session found digest different
  · exact fun middle early => early.trans (ensureScram middle options)

/-- A sweep leaves a session that the previous one has not marked. -/
theorem sweep (engine : Engine D C)
    (unmarked : ∀ session, engine.sessions.find? id = some session → session.marked = false) :
    Stays id engine engine.sweep.2 := by
  intro session found
  refine ⟨true, ?_⟩
  have fresh : id ∉ engine.sessions.idsWhere Session.marked := by
    intro stale
    obtain ⟨other, present, marked⟩ := SessionStore.mem_idsWhere.mp stale
    rw [unmarked other present] at marked
    cases marked
  refine (SessionStore.find?_destroyAll ..).trans ?_
  rw [if_neg fresh, Table.find?_mapValues, found]
  rfl

end Stays

variable [AccountDirectory D]

/-- The arrival of a client ends its session, and no other one. -/
theorem find?_userIntroduced {engine : Engine D C} (keyed : engine.Keyed) (uid other : String) :
    (engine.userIntroduced uid).2.sessions.find? other =
      if other = uid then none else engine.sessions.find? other := by
  unfold userIntroduced
  cases found : engine.sessions.find? uid with
  | none =>
      simp only
      split
      · next same => rw [same, found]
      · rfl
  | some session =>
      have same : session.info.uid = uid := keyed uid session found
      have destroyed : ((engine.putSession { session with needLog := false, pending := none
          }).destroySession uid).sessions.find? other =
            if other = uid then none else engine.sessions.find? other := by
        rw [find?_destroySession, find?_putSession, same]
        split <;> rfl
      simp only
      cases session.pending with
      | none => exact destroyed
      | some pending =>
          simp only
          split
          · exact destroyed
          · obtain ⟨-, sessions, -⟩ := applyLogin_alike ((engine.putSession
              { session with needLog := false, pending := none }).destroySession uid) uid
              pending.account pending.mechanism
            rw [sessions]
            exact destroyed

variable [CredentialStore C]

/-- Whether an event spares a session: it neither ends it nor logs its client in. -/
def spares (engine : Engine D C) (id : String) : Event D → Bool
  | .frame server inbound =>
      inbound.session ≠ id ||
        !((engine.sessions.find? id).any (·.aborts inbound) ||
          (engine.handle server inbound).1.any Outbound.isLogin)
  | .introduced uid => uid ≠ id
  | .unregistered name =>
      !(engine.sessions.find? id).any fun session => session.mechanismName = some name
  | .configured options =>
      !(engine.sessions.find? id).any fun session => Digest.all.any fun digest =>
        digest ≠ options.digest && session.mechanismName = some digest.scramName
  | .swept => !(engine.sessions.find? id).any Session.marked
  | .burst | .registered _ | .directory _ | .drawn _ => true

/-- Whether events in order spare a session. -/
def sparesAll (engine : Engine D C) (id : String) : List (Event D) → Bool
  | [] => true
  | event :: rest => engine.spares id event && (engine.perform event).sparesAll id rest

/-- An event other than a frame leaves a session that it spares. -/
theorem stays_perform {engine : Engine D C} (keyed : engine.Keyed) {id : String} {event : Event D}
    (spared : engine.spares id event = true)
    (other : ∀ server inbound, event ≠ .frame server inbound) :
    Stays id engine (engine.perform event) := by
  cases event with
  | frame server inbound => exact absurd rfl (other server inbound)
  | introduced uid =>
      have different : uid ≠ id := of_decide_eq_true spared
      refine .of_same ?_
      exact (find?_userIntroduced keyed uid id).trans (if_neg (Ne.symm different))
  | registered mechanism => exact .register engine mechanism
  | unregistered name =>
      refine .unregister engine name ?_
      intro session found uses
      simp [spares, found, uses] at spared
  | configured options =>
      refine .configureScram engine options ?_
      intro session found digest different uses
      simp only [spares, found, Option.any_some, Bool.not_eq_true', List.any_eq_false] at spared
      exact spared digest digest.mem_all (by simp [different, uses])
  | swept =>
      refine .sweep engine ?_
      intro session found
      simpa [spares, found] using spared
  | burst => exact .of_same rfl
  | directory change => exact .of_same rfl
  | drawn length => exact .of_same rfl

/-! ## Logins that wait -/

/-- A login waits for a client. -/
def Waits (engine : Engine D C) (id : String) (login : PendingLogin) : Prop :=
  ∃ session, engine.sessions.find? id = some session ∧ session.pending = some login

omit [AccountDirectory D] [CredentialStore C] in
/-- A negotiation that fails in a session in which a login waits leaves the session. -/
theorem afterFailure_of_pending {session : Session} {login : PendingLogin}
    (waits : session.pending = some login) : session.afterFailure = some session.reset := by
  unfold Session.afterFailure
  rw [waits]
  rfl

/-- A frame that asks no mechanism and does not end the session leaves it. -/
theorem left_of_unasked {engine : Engine D C} {session : Session} {frame : Inbound}
    {login : PendingLogin} (unasked : engine.query? session frame = none)
    (spared : session.aborts frame = false) (waits : session.pending = some login) :
    ∃ after, (engine.reply session frame).session = some after := by
  cases frame with
  | hostInfo id host ip secure => exact ⟨_, rfl⟩
  | done id => exact ⟨_, afterFailure_of_pending waits⟩
  | startAuth id name certfp =>
      simp only [Session.aborts, Bool.or_eq_false_iff, decide_eq_false_iff_not] at spared
      obtain ⟨short, idle⟩ := spared
      rw [query?, if_neg (not_or.mpr ⟨short, by simp [idle]⟩), Option.map_eq_none_iff] at unasked
      have idle : session.mechanism = none := by simpa using idle
      simp only [reply, if_neg short, session.mechanism_presenting]
      rw [idle, unasked]
      exact ⟨_, rfl⟩
  | clientData id data =>
      simp only [Session.aborts, Bool.or_eq_false_iff] at spared
      obtain ⟨busy, fine⟩ := spared
      cases selected : session.mechanism with
      | none =>
          rw [selected] at busy
          cases busy
      | some registration =>
          rw [query?, selected, Option.bind_some] at unasked
          cases added : session.decoder.add (Bytes.ofString data) with
          | mk decoded decoder =>
              rw [added] at fine unasked
              cases decoded with
              | error cause => cases fine
              | ok progress =>
                  cases progress with
                  | incomplete =>
                      rw [reply_incomplete selected added]
                      exact ⟨_, rfl⟩
                  | complete message => cases unasked
                  | abort => cases fine

/-- A turn of a mechanism that does not log the client in leaves the session. -/
theorem Reply.left_ofStep {accounts : D} {entropy : Entropy} {session : Session}
    {mechanism : String} {step : Step} {login : PendingLogin}
    (silent : (Reply.ofStep accounts entropy session mechanism step).frames.any
      Outbound.isLogin = false) (waits : session.pending = some login) :
    ∃ after, (Reply.ofStep accounts entropy session mechanism step).session = some after ∧
      after.pending = some login := by
  have failed : ∃ after, session.afterFailure = some after ∧ after.pending = some login :=
    ⟨_, afterFailure_of_pending waits, waits⟩
  cases step with
  | more data => exact ⟨session, rfl, waits⟩
  | success =>
      rw [Reply.frames_ofStep_success] at silent
      simp only [Reply.ofStep]
      cases chosen : session.granted accounts with
      | none => exact failed
      | some target => simp [chosen, Outbound.isLogin] at silent
  | failure reply => exact failed
  | refused reply => exact failed

/-- A frame that spares a session leaves the login waiting in it. -/
theorem Waits.handle {engine : Engine D C} (keyed : engine.Keyed) {id : String}
    {login : PendingLogin} (waits : engine.Waits id login) (server : String) {inbound : Inbound}
    (spared : engine.spares id (.frame server inbound) = true) :
    (engine.handle server inbound).2.Waits id login := by
  obtain ⟨earlier, found, pending⟩ := waits
  by_cases own : inbound.session = id
  · -- The session is taken up by one of its own frames: its mechanism is asked, or it is not.
    subst own
    simp only [spares, ne_eq, not_true_eq_false, decide_false, Bool.false_or, Bool.not_eq_true',
      Bool.or_eq_false_iff, found, Option.any_some] at spared
    obtain ⟨spared, silent⟩ := spared
    cases verdict : engine.verdict? server inbound with
    | some result =>
        obtain ⟨step, after⟩ := result
        obtain ⟨session, middle, query, asks⟩ := asks_of_verdict? keyed verdict
        have gives := asks.gives
        have waited : after.session.pending = some login := by
          obtain ⟨rfl, -⟩ := asks.enters.known earlier found
          exact asks.pending.trans pending
        rw [gives.frames, List.any_append, Bool.or_eq_false_iff] at silent
        obtain ⟨left, present, still⟩ := Reply.left_ofStep silent.2 waited
        refine ⟨left, ?_, still⟩
        rw [gives.sessions, if_pos rfl]
        exact present
    | none =>
        rcases engine.sessionFor_cases server inbound keyed with ⟨-, unknown⟩ | ⟨session, middle,
          entered, enters⟩
        · rw [found] at unknown
          cases unknown
        · obtain ⟨rfl, -⟩ := enters.known earlier found
          have unasked : middle.query? earlier.unmarked inbound = none := by
            simpa only [verdict?, entered, Option.bind_some, Option.map_eq_none_iff] using verdict
          have gives := handle_gives entered enters
          obtain ⟨left, present⟩ := left_of_unasked unasked spared pending
          refine ⟨left, ?_, ((idle_of_unasked unasked).pending left present).trans pending⟩
          rw [gives.sessions, if_pos rfl]
          exact present
  · refine ⟨earlier, ?_, pending⟩
    rw [find?_handle_of_ne keyed server (Ne.symm own)]
    exact found

/-- An event that spares a session leaves the login waiting in it. -/
theorem Waits.perform {engine : Engine D C} (keyed : engine.Keyed) {id : String}
    {login : PendingLogin} (waits : engine.Waits id login) {event : Event D}
    (spared : engine.spares id event = true) : (engine.perform event).Waits id login := by
  by_cases framed : ∃ server inbound, event = .frame server inbound
  · obtain ⟨server, inbound, rfl⟩ := framed
    exact waits.handle keyed server spared
  · obtain ⟨session, found, pending⟩ := waits
    obtain ⟨marked, left⟩ := stays_perform keyed spared
      (fun server inbound same => framed ⟨server, inbound, same⟩) session found
    exact ⟨_, left, pending⟩

/-- Events that spare a session leave the login waiting in it. -/
theorem Waits.performAll {engine : Engine D C} (reachable : engine.Reachable) {id : String}
    {login : PendingLogin} (waits : engine.Waits id login) {events : List (Event D)}
    (spared : engine.sparesAll id events = true) : (engine.performAll events).Waits id login := by
  induction events generalizing engine with
  | nil => exact waits
  | cons event rest ih =>
      simp only [sparesAll, Bool.and_eq_true] at spared
      exact ih (reachable.perform event) (waits.perform reachable.sound.keyed spared.1) spared.2

theorem sparesAll_append {engine : Engine D C} {id : String} {earlier later : List (Event D)} :
    engine.sparesAll id (earlier ++ later) =
      (engine.sparesAll id earlier && (engine.performAll earlier).sparesAll id later) := by
  induction earlier generalizing engine with
  | nil => rfl
  | cons event rest ih =>
      simp only [List.cons_append, sparesAll, ih, Bool.and_assoc]
      rfl

/-- A client whose login is deferred has one waiting for the account that it was granted, and the
directory has been left to its mechanism. -/
theorem waits_of_login {engine : Engine D C} (keyed : engine.Keyed) {server name : String}
    {frame : Inbound} (emitted : .login frame.session name ∈ (engine.handle server frame).1)
    (offline : ∀ accounts, Rehashed engine.accounts accounts →
      AccountDirectory.userOnline accounts frame.session = false) :
    ∃ target mechanism authz, target.name = name ∧
      .outcome frame.session .success ∈ (engine.handle server frame).1 ∧
      Rehashed engine.accounts (engine.handle server frame).2.accounts ∧
      AccountDirectory.findById (engine.handle server frame).2.accounts authz = some target ∧
      (engine.handle server frame).2.Waits frame.session ⟨target.identity, mechanism⟩ := by
  obtain ⟨-, session, middle, query, after, target, asks, chosen, named⟩ :=
    login_of_verdict? keyed emitted
  have gives := asks.gives
  simp only [Reply.ofStep, chosen, asks.uid, offline _ asks.rehashed, Bool.false_eq_true,
    if_false] at gives
  obtain ⟨source, claims, -⟩ := Session.granted_eq_some_iff.mp chosen
  obtain ⟨acting, -, found⟩ := Option.bind_eq_some_iff.mp claims.target
  refine ⟨target, query.registration.name, acting.id, named.symm, ?_, ?_, ?_, ?_⟩
  · rw [gives.frames]
    simp
  · rw [gives.accounts]
    exact asks.rehashed
  · rw [gives.accounts]
    exact found
  · have left := gives.sessions frame.session
    rw [if_pos rfl] at left
    exact ⟨_, left, rfl⟩

end Engine

/-! ## The arrival of the client -/

variable [CredentialStore C]

namespace Engine

/-- What comes of a login that waits when its client arrives: it is applied once, to the account
that it is for, or given up with a notice if that account is gone. -/
structure Settles (engine : Engine MemoryDirectory C) (id : String) (login : PendingLogin) :
    Prop where
  applied : ∀ account, engine.accounts.find? login.account.id = some account →
    (engine.userIntroduced id).1 = [] ∧
    (engine.userIntroduced id).2.accounts = (engine.accounts.login id login.account.id).2 ∧
    (engine.userIntroduced id).2.accounts.loggedInAs? id = some login.account.id
  dropped : engine.accounts.find? login.account.id = none →
    (∃ text, (engine.userIntroduced id).1 = [.notice id text]) ∧
    (engine.userIntroduced id).2.accounts = engine.accounts
  gone : (engine.userIntroduced id).2.sessions.find? id = none
  again : (engine.userIntroduced id).2.userIntroduced id = ([], (engine.userIntroduced id).2)

omit [CredentialStore C] in
theorem Waits.settles {engine : Engine MemoryDirectory C} (keyed : engine.Keyed) {id : String}
    {login : PendingLogin} (waits : engine.Waits id login) : engine.Settles id login := by
  obtain ⟨session, found, pending⟩ := waits
  have gone : (engine.userIntroduced id).2.sessions.find? id = none :=
    (find?_userIntroduced keyed id id).trans (if_pos rfl)
  let ended := (engine.putSession { session with needLog := false, pending := none }).destroySession
    id
  have arrived {account : Account}
      (live : engine.accounts.find? login.account.id = some account) :
      engine.userIntroduced id = ([], ended.applyLogin id login.account login.mechanism) := by
    simp only [userIntroduced, found, pending]
    split
    · next absent => cases live.symm.trans absent
    · rfl
  have cancelled (absent : engine.accounts.find? login.account.id = none) :
      engine.userIntroduced id =
        ([.notice id s!"Account {login.account.name} dropped, login cancelled"], ended) := by
    simp only [userIntroduced, found, pending]
    split
    · rfl
    · next live => cases absent.symm.trans live
  refine ⟨?_, ?_, gone, ?_⟩
  · intro account live
    rw [arrived live]
    have entered : (ended.applyLogin id login.account login.mechanism).accounts =
        (engine.accounts.login id login.account.id).2 := (applyLogin_alike ended _ _ _).1
    refine ⟨rfl, entered, ?_⟩
    simp only [entered]
    rw [MemoryDirectory.loggedInAs?_login, if_pos ⟨rfl, Option.isSome_of_eq_some live⟩]
  · intro absent
    rw [cancelled absent]
    exact ⟨⟨_, rfl⟩, rfl⟩
  · generalize (engine.userIntroduced id).2 = later at gone ⊢
    unfold userIntroduced
    rw [gone]

/-- An event that spares a session does not log its client in, unless somebody changes the directory
by hand. -/
theorem loggedInAs?_perform {engine : Engine MemoryDirectory C} (keyed : engine.Keyed) {id : String}
    {event : Event MemoryDirectory} (spared : engine.spares id event = true)
    (other : ∀ change, event ≠ .directory change) :
    (engine.perform event).accounts.loggedInAs? id = engine.accounts.loggedInAs? id := by
  have touches := touches_perform keyed event
  generalize (engine.perform event).accounts = after at touches ⊢
  have kept {middle : MemoryDirectory} (rehashed : Rehashed engine.accounts middle) :
      middle.loggedInAs? id = engine.accounts.loggedInAs? id := by
    unfold MemoryDirectory.loggedInAs?
    rw [rehashed.same.2.1]
  cases touches with
  | leaves => rfl
  | rehashes rehashed => exact kept rehashed
  | @blames server frame middle account rehashed =>
      rw [← kept rehashed]
      have same : (middle.badPassword account).loggedIn = middle.loggedIn := by
        unfold MemoryDirectory.badPassword
        split <;> rfl
      exact congrArg (·.find? id) same
  | @enters server frame middle session source target rehashed claims entitled emitted =>
      have different : frame.session ≠ id := by
        rintro rfl
        simp only [spares, ne_eq, not_true_eq_false, decide_false, Bool.false_or,
          Bool.not_eq_true', Bool.or_eq_false_iff, List.any_eq_false] at spared
        exact spared.2 _ emitted rfl
      have entered := middle.loggedInAs?_login frame.session id target.id
      rw [if_neg (fun both => different both.1.symm)] at entered
      exact entered.trans (kept rehashed)
  | @arrives uid session pending account found waits live =>
      have different : uid ≠ id := of_decide_eq_true spared
      have entered := engine.accounts.loggedInAs?_login uid id pending.account.id
      rw [if_neg (fun both => different both.1.symm)] at entered
      exact entered
  | changes change => exact absurd rfl (other change)

/-- A login that is deferred waits for its client through whatever spares the session, which the
engine does not log in before. It is for one account, however that account is changed by hand, and
an account that is dropped meanwhile does not come back with its name. -/
theorem deferred_login_settles {engine : Engine MemoryDirectory C} (reachable : engine.Reachable)
    (built : engine.accounts.Built) {server name : String} {frame : Inbound}
    (emitted : .login frame.session name ∈ (engine.handle server frame).1)
    (offline : frame.session ∉ engine.accounts.online) :
    .outcome frame.session .success ∈ (engine.handle server frame).1 ∧
    Rehashed engine.accounts (engine.handle server frame).2.accounts ∧
    ∃ target mechanism, target.name = name ∧
      (engine.handle server frame).2.accounts.find? target.id = some target ∧
      ∀ events, (∀ event ∈ events, event.Operates fun _ => True) →
        (engine.handle server frame).2.sparesAll frame.session events = true →
        let later := (engine.handle server frame).2.performAll
        (later events).Waits frame.session ⟨target.identity, mechanism⟩ ∧
        (later events).Settles frame.session ⟨target.identity, mechanism⟩ ∧
        ∀ earlier rest, events = earlier ++ rest →
          ((later earlier).accounts.find? target.id = none →
            (later events).accounts.find? target.id = none) ∧
          ∀ event tail, rest = event :: tail → (∀ change, event ≠ .directory change) →
            (later (earlier ++ [event])).accounts.loggedInAs? frame.session =
              (later earlier).accounts.loggedInAs? frame.session := by
  have offline : ∀ accounts, Rehashed engine.accounts accounts →
      AccountDirectory.userOnline accounts frame.session = false := by
    intro accounts rehashed
    have absent : accounts.online.contains frame.session = false := by
      rw [rehashed.same.1]
      simpa using offline
    exact absent
  obtain ⟨target, mechanism, authz, named, succeeded, rehashed, found, waits⟩ :=
    waits_of_login reachable.sound.keyed emitted offline
  generalize deferred : (engine.handle server frame).2 = after at rehashed found waits ⊢
  have reached : after.Reachable := by
    rw [← deferred]
    exact reachable.perform (.frame server frame)
  have built : after.accounts.Built := rehashed.built built
  have found : after.accounts.find? authz = some target := found
  have own : target.id = authz := built.keyed authz target found
  refine ⟨succeeded, rehashed, target, mechanism, named, by rw [own]; exact found, ?_⟩
  intro events operates spared later
  have waited := waits.performAll reached spared
  refine ⟨waited, waited.settles (reached.performAll events).sound.keyed, ?_⟩
  rintro earlier rest rfl
  have first : ∀ event ∈ earlier, event.Operates fun _ => True :=
    fun event member => operates event (List.mem_append_left rest member)
  have second : ∀ event ∈ rest, event.Operates fun _ => True :=
    fun event member => operates event (List.mem_append_right earlier member)
  have split (rest : List (Event MemoryDirectory)) :
      later (earlier ++ rest) = (later earlier).performAll rest := List.foldl_append
  refine ⟨?_, ?_⟩
  · intro absent
    -- The name may be registered again, but the number of the account was given out for good.
    have issued : target.id.number < (later earlier).accounts.nextNumber := by
      refine lift_performAll (fun directory => target.id.number < directory.nextNumber) ?_
        (fun _ _ => trivial) reached (by rw [own]; exact built.numbered authz target found) first
      intro directory operation _ issued
      exact Nat.lt_of_lt_of_le issued (directory.brings_apply operation).1
    have retired : (later earlier).accounts.Retired target.id := ⟨absent, issued⟩
    rw [split]
    exact (lift_performAll (·.Retired target.id) (fun _ operation _ gone => gone.apply operation)
      (fun _ _ => trivial) (reached.performAll earlier) retired second).absent
  · rintro event tail rfl other
    rw [sparesAll_append, Bool.and_eq_true] at spared
    have next : (later earlier).spares frame.session event = true :=
      (Bool.and_eq_true_iff.mp spared.2).1
    rw [split]
    exact loggedInAs?_perform (reached.performAll earlier).sound.keyed next other

end Engine

/-! ## A login that waits through another negotiation -/

/-- A directory with one account, which has a password. -/
def waitingAccounts : MemoryDirectory :=
  ({} : MemoryDirectory).apply (.register "alice" (some "wonder"))

/-- An engine with that directory, which offers nothing yet. -/
def waitingEngine : Engine MemoryDirectory PasswordHasher :=
  { options := {}, accounts := waitingAccounts, credentials := ⟨{}⟩
    env := { entropy := .arithmetic 0 [] } }

/-- The engine after a client that is not on the network yet has asked for PLAIN. -/
def waitingRun : Engine MemoryDirectory PasswordHasher :=
  waitingEngine.performAll [.registered .plain, .frame "hub" (.startAuth "U1" "PLAIN" none)]

/-- The client sends the password of the account. -/
def waitingFrame : Inbound := .clientData "U1" "AGFsaWNlAHdvbmRlcg=="

/-- The client fails to authenticate once more, and stops, and the password of the account is taken
away by hand. -/
def waitingEvents : List (Engine.Event MemoryDirectory) :=
  [.frame "hub" (.hostInfo "U1" "host" "192.0.2.1" true),
   .frame "hub" (.startAuth "U1" "PLAIN" none),
   .frame "hub" (.clientData "U1" "Z2FyYmFnZQ=="),
   .frame "hub" (.done "U1"),
   .directory fun directory =>
    directory.apply (.revise ⟨1⟩ fun account => { account with password := none })]

/-- The account is dropped, and another one is registered under its name. -/
def replacingEvents : List (Engine.Event MemoryDirectory) :=
  [.directory fun directory => directory.apply (.drop ⟨1⟩),
   .directory fun directory => directory.apply (.register "alice" (some "wonder"))]

theorem reachable_waitingEngine : waitingEngine.Reachable := by
  have created : Engine.create {} waitingAccounts ⟨{}⟩ (.arithmetic 0 []) = .ok waitingEngine := rfl
  exact .create created

theorem built_waitingAccounts : waitingAccounts.Built :=
  (MemoryDirectory.Built.empty default).apply (.register "alice" (some "wonder")) trivial

theorem built_waitingRun : waitingRun.accounts.Built := by
  refine Engine.built_performAll reachable_waitingEngine built_waitingAccounts ?_
  simp only [List.forall_mem_cons]
  exact ⟨trivial, trivial, fun _ absurd => by cases absurd⟩

set_option maxRecDepth 100000 in
/-- The client is logged in when it arrives; but if the account was dropped meanwhile, it is told so
and not logged into the new account of that name. -/
theorem deferred_login_settles_alice :
    let deferred := (waitingRun.handle "hub" waitingFrame).2
    let kept := deferred.performAll waitingEvents
    let replaced := deferred.performAll (waitingEvents ++ replacingEvents)
    (kept.userIntroduced "U1").1 = [] ∧
    (kept.userIntroduced "U1").2.accounts.loggedInAs? "U1" = some ⟨1⟩ ∧
    (replaced.accounts.findName? "alice").map Account.id = some ⟨2⟩ ∧
    (∃ text, (replaced.userIntroduced "U1").1 = [.notice "U1" text]) ∧
    (replaced.userIntroduced "U1").2.accounts.loggedInAs? "U1" = none := by
  intro deferred kept replaced
  have emitted : .login "U1" "alice" ∈ (waitingRun.handle "hub" waitingFrame).1 := by
    decide +kernel
  have offline : "U1" ∉ waitingRun.accounts.online := by decide +kernel
  have sparedKept : deferred.sparesAll "U1" waitingEvents = true := by decide +kernel
  have sparedReplaced : deferred.sparesAll "U1" (waitingEvents ++ replacingEvents) = true := by
    decide +kernel
  have waits : ((deferred.sessions.find? "U1").bind Session.pending).map (·.account.id) =
      some ⟨1⟩ := by decide +kernel
  have live : (kept.accounts.find? ⟨1⟩).isSome := by decide +kernel
  have absent : replaced.accounts.find? ⟨1⟩ = none := by decide +kernel
  have renamed : (replaced.accounts.findName? "alice").map Account.id = some ⟨2⟩ := by
    decide +kernel
  have nowhere : replaced.accounts.loggedInAs? "U1" = none := by decide +kernel
  have operates : ∀ event ∈ waitingEvents ++ replacingEvents, event.Operates fun _ => True := by
    intro event member
    simp only [waitingEvents, replacingEvents, List.cons_append, List.nil_append, List.mem_cons,
      List.not_mem_nil, or_false] at member
    rcases member with rfl | rfl | rfl | rfl | rfl | rfl | rfl
    · trivial
    · trivial
    · trivial
    · trivial
    · exact ⟨.revise ⟨1⟩ _, trivial, rfl⟩
    · exact ⟨.drop ⟨1⟩, trivial, rfl⟩
    · exact ⟨.register "alice" (some "wonder"), trivial, rfl⟩
  obtain ⟨-, -, target, mechanism, -, -, settles⟩ := Engine.deferred_login_settles
    (reachable_waitingEngine.performAll _) built_waitingRun emitted offline
  have first : deferred.Waits "U1" ⟨target.identity, mechanism⟩ :=
    (settles [] (fun _ absurd => by cases absurd) rfl).1
  have keeps : kept.Settles "U1" ⟨target.identity, mechanism⟩ := (settles waitingEvents
    (fun event member => operates event (List.mem_append_left _ member)) sparedKept).2.1
  have replaces : replaced.Settles "U1" ⟨target.identity, mechanism⟩ :=
    (settles (waitingEvents ++ replacingEvents) operates sparedReplaced).2.1
  clear settles sparedKept sparedReplaced emitted
  clear_value kept replaced deferred
  obtain ⟨session, found, pending⟩ := first
  have own : target.id = ⟨1⟩ := by
    rw [found, Option.bind_some, pending, Option.map_some, Option.some.injEq] at waits
    exact waits
  obtain ⟨account, present⟩ := Option.isSome_iff_exists.mp live
  have applied := keeps.applied account (by rw [← present, ← own]; rfl)
  have dropped := replaces.dropped (by rw [← absent, ← own]; rfl)
  refine ⟨applied.1, ?_, renamed, dropped.1, ?_⟩
  · rw [← own]
    exact applied.2.2
  · rw [dropped.2]
    exact nowhere

end IrcSasl
