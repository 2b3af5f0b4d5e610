import IrcSasl.Proofs.Account.Memory
import IrcSasl.Proofs.Engine.Log

set_option autoImplicit false

/-!
# The authorization policy

Whom a client that has authenticated is logged in as. A mechanism that succeeds leaves in its
session who the client is and whom it acts as; what the directory says of these two accounts decides
the rest (`Engine.login_iff_entitled`), what the log says of impersonation included.
-/

namespace IrcSasl

variable {D C : Type}

/-! ## What the log says of impersonation -/

/-- Whether an event says that an account may or may not act as another one. -/
def Log.Event.isImpersonation : Log.Event → Bool
  | .impersonateDenied _ _ _ | .impersonateAllowed _ _ _ => true
  | _ => false

/-- The log of one environment is that of another one with more behind it, which says nothing of
impersonation but what is given. -/
def Environment.Tells (told : List Log.Event) (before after : Environment) : Prop :=
  ∃ added, after.log = before.log ++ added ∧ added.filter Log.Event.isImpersonation = told

namespace Environment

theorem Tells.trans {first second : List Log.Event} {before middle after : Environment}
    (early : Tells first before middle) (late : Tells second middle after) :
    Tells (first ++ second) before after := by
  obtain ⟨added, same, told⟩ := early
  obtain ⟨more, rest, further⟩ := late
  refine ⟨added ++ more, by rw [rest, same, List.append_assoc], ?_⟩
  rw [List.filter_append, told, further]

/-- What writes nothing about impersonation tells nothing of it. -/
theorem Logs.tells {before after : Environment}
    (logs : before.Logs (fun event => event.isImpersonation = false) after) :
    Tells [] before after := by
  obtain ⟨added, same, silent⟩ := logs
  refine ⟨added, same, ?_⟩
  rw [List.filter_eq_nil_iff]
  intro event member
  simp [silent event member]

end Environment

namespace Engine

/-- To find or begin a session changes no option. -/
theorem options_sessionFor {engine middle : Engine D C} {server : String} {frame : Inbound}
    {session : Session} (entered : engine.sessionFor server frame = some (session, middle)) :
    middle.options = engine.options := by
  unfold sessionFor at entered
  obtain ⟨found, -, same⟩ := Option.map_eq_some_iff.mp entered
  cases same
  rfl

end Engine

/-! ## Whom a client may be logged in as -/

variable [AccountDirectory D]

/-- The accounts of a session are there: the first is who the client is, and the second is whom it
acts as. A client that acts as nobody else acts as itself. -/
structure Session.Claims (session : Session) (accounts : D) (source target : Account) : Prop where
  source : session.authc.bind (fun authc => AccountDirectory.findById accounts authc.id) =
    some source
  target : (session.authz.or session.authc).bind
    (fun authz => AccountDirectory.findById accounts authz.id) = some target

/-- A client that is one account may be logged in as another one. -/
structure Entitled (accounts : D) (source target : Account) : Prop where
  own : AccountDirectory.admission accounts source = .allow
  other : target.id = source.id ∨ AccountDirectory.canImpersonate accounts source target = true ∧
    AccountDirectory.admission accounts target = .allow

theorem permits_iff {accounts : D} {source target : Account} :
    permits accounts source target = true ↔ Entitled accounts source target := by
  simp only [permits, Bool.and_eq_true, Bool.or_eq_true, decide_eq_true_eq]
  exact ⟨fun ⟨own, other⟩ => ⟨own, other⟩, fun entitled => ⟨entitled.own, entitled.other⟩⟩

/-- A client is granted an account that it claims and is entitled to, and no other. -/
theorem Session.granted_eq_some_iff {session : Session} {accounts : D} {target : Account} :
    session.granted accounts = some target ↔
      ∃ source, session.Claims accounts source target ∧ Entitled accounts source target := by
  simp only [Session.granted, IrcSasl.granted, ← permits_iff]
  cases authc : session.authc with
  | none =>
      constructor
      · intro absurd
        cases absurd
      · rintro ⟨source, claims, -⟩
        have absent := claims.source
        rw [authc] at absent
        cases absent
  | some identity =>
      simp only [Option.map_some, Option.bind_some, Option.bind_eq_some_iff,
        Option.filter_eq_some_iff]
      constructor
      · rintro ⟨source, known, found, permitted⟩
        refine ⟨source, ⟨by rw [authc]; exact known, ?_⟩, permitted⟩
        cases authz : session.authz with
        | none =>
            rw [authz] at found
            rw [authc]
            cases found
            exact known
        | some wanted =>
            rw [authz] at found
            exact found
      · rintro ⟨source, ⟨known, found⟩, permitted⟩
        rw [authc] at known found
        refine ⟨source, known, ?_, permitted⟩
        cases authz : session.authz with
        | none =>
            rw [authz] at found
            have same : some source = some target := known.symm.trans found
            exact same
        | some wanted =>
            rw [authz] at found
            exact found

/-- A client claims one account at most, and acts as one at most. -/
theorem Session.Claims.unique {session : Session} {accounts : D}
    {source target source' target' : Account} (claims : session.Claims accounts source target)
    (others : session.Claims accounts source' target') : source' = source ∧ target' = target :=
  ⟨Option.some.inj (others.source.symm.trans claims.source),
    Option.some.inj (others.target.symm.trans claims.target)⟩

/-- A client is granted nothing that it is not entitled to. -/
theorem Session.granted_eq_none_iff {session : Session} {accounts : D} :
    session.granted accounts = none ↔
      ∀ source target, session.Claims accounts source target →
        ¬Entitled accounts source target := by
  constructor
  · intro none source target claims entitled
    rw [granted_eq_some_iff.mpr ⟨source, claims, entitled⟩] at none
    cases none
  · intro refused
    cases chosen : session.granted accounts with
    | none => rfl
    | some target =>
        obtain ⟨source, claims, entitled⟩ := granted_eq_some_iff.mp chosen
        exact absurd entitled (refused source target claims)

/-- Whether a client that acts as itself is granted its account is for admission alone to say. -/
theorem Session.granted_of_self {session : Session} {accounts : D} {source target : Account}
    (claims : session.Claims accounts source target) (same : target.id = source.id) :
    session.granted accounts =
      if AccountDirectory.admission accounts source = .allow then some target else none := by
  split
  · next admitted => exact granted_eq_some_iff.mpr ⟨source, claims, admitted, .inl same⟩
  · next refused =>
      rw [granted_eq_none_iff]
      intro source' target' others entitled
      obtain ⟨rfl, -⟩ := claims.unique others
      exact refused entitled.own

/-- What the log says of impersonation when a client that is one account acts as another one. -/
def impersonationNotes (accounts : D) (user : String) (source target : Account) :
    List Log.Event :=
  if target.id = source.id ∨ AccountDirectory.admission accounts source ≠ .allow then []
  else if AccountDirectory.canImpersonate accounts source target then
    if AccountDirectory.admission accounts target = .allow then
      [.impersonateAllowed user source.name target.name]
    else []
  else [.impersonateDenied user source.name target.name]

namespace Engine

theorem filter_authorize (engine : Engine D C) (user : String) (source target : Account) :
    (engine.authorize user source target).2.filter Log.Event.isImpersonation =
      impersonationNotes engine.accounts user source target := by
  unfold authorize impersonationNotes
  cases AccountDirectory.admission engine.accounts source with
  | deny reason => simp [Log.Event.isImpersonation]
  | allow =>
      by_cases same : target.id = source.id
      · simp [same]
      · cases AccountDirectory.canImpersonate engine.accounts source target with
        | false => simp [same, Log.Event.isImpersonation]
        | true =>
            cases AccountDirectory.admission engine.accounts target with
            | deny reason => simp [same, Log.Event.isImpersonation]
            | allow => simp [same, Log.Event.isImpersonation]

/-- Deciding whom a client is logged in as says of impersonation what there is to say. -/
theorem tells_loginTarget (engine : Engine D C) {session : Session} {source target : Account}
    (claims : session.Claims engine.accounts source target) :
    Environment.Tells
      (impersonationNotes engine.accounts (session.info.sourceName engine.options.hideServerNames)
        source target)
      engine.env (engine.loginTarget session).2.2.env := by
  have decided (middle : Session) : Environment.Tells
      (impersonationNotes engine.accounts (session.info.sourceName engine.options.hideServerNames)
        source target) engine.env
      ((engine.putSession middle).noteAll (engine.authorize
        (session.info.sourceName engine.options.hideServerNames) source target).2).env :=
    ⟨_, log_noteAll _ _, engine.filter_authorize _ source target⟩
  obtain ⟨authc, isAuthc, known⟩ := Option.bind_eq_some_iff.mp claims.source
  have found := claims.target
  unfold loginTarget
  simp only [isAuthc, known]
  cases authz : session.authz with
  | none =>
      rw [authz, isAuthc] at found
      have same : source = target := Option.some.inj (known.symm.trans found)
      subst same
      exact decided _
  | some wanted =>
      rw [authz] at found
      have found : AccountDirectory.findById engine.accounts wanted.id = some target := found
      simp only [found]
      exact decided _

theorem tells_applyLogin (engine : Engine D C) (uid : String) (account : Identity)
    (mechanism : String) :
    Environment.Tells [] engine.env (engine.applyLogin uid account mechanism).env := by
  refine Environment.Logs.tells ?_
  unfold applyLogin
  split
  · exact .note _ rfl
  · exact .note _ rfl

theorem tells_succeed (engine : Engine D C) {session : Session} (mechanism : String)
    {source target : Account} (claims : session.Claims engine.accounts source target) :
    Environment.Tells
      (impersonationNotes engine.accounts (session.info.sourceName engine.options.hideServerNames)
        source target)
      engine.env (engine.succeed session mechanism).2.env := by
  have decided := engine.tells_loginTarget claims
  rw [← List.append_nil (impersonationNotes _ _ _ _)]
  unfold succeed
  split
  · next middle after chosen =>
      rw [chosen] at decided
      exact decided.trans (logs_resetOrDestroy (fun _ _ => rfl) after middle).tells
  · next granted middle after chosen =>
      rw [chosen] at decided
      refine decided.trans ?_
      simp only
      split
      · exact (logs_destroySession (fun _ _ => rfl) after _).tells.trans (tells_applyLogin _ _ _ _)
      · exact Environment.Logs.tells (.of_same (middle.log_finishMechanism after.env))

end Engine

/-! ## Directories that differ in who may act as whom -/

/-- Two directories tell the same of every account but for its privileges, and agree on who may be
logged into. They need not agree on who may act as whom. -/
structure AgreeOnAdmission {D' : Type} [AccountDirectory D'] (first : D) (second : D')
    (privileges : AccountId → List String) : Prop where
  found : ∀ id, AccountDirectory.findById second id =
    (AccountDirectory.findById first id).map fun account =>
      { account with privileges := privileges id }
  admission : ∀ id account, AccountDirectory.findById first id = some account →
    AccountDirectory.admission second { account with privileges := privileges id } =
      AccountDirectory.admission first account

/-- A client that acts as itself is granted the same by directories that differ only in who may act
as whom. -/
theorem Session.name_granted_of_agree {D' : Type} [AccountDirectory D'] {first : D} {second : D'}
    {privileges : AccountId → List String} (agree : AgreeOnAdmission first second privileges)
    {session other : Session} (authc : other.authc = session.authc)
    (authz : other.authz = session.authz) {account : Account}
    (claims : session.Claims first account account) :
    (other.granted second).map Account.name = (session.granted first).map Account.name := by
  obtain ⟨own, isOwn, known⟩ := Option.bind_eq_some_iff.mp claims.source
  obtain ⟨acting, isActing, found⟩ := Option.bind_eq_some_iff.mp claims.target
  have others : other.Claims second { account with privileges := privileges own.id }
      { account with privileges := privileges acting.id } := by
    refine ⟨?_, ?_⟩
    · rw [authc, isOwn, Option.bind_some, agree.found, known, Option.map_some]
    · rw [authz, authc, isActing, Option.bind_some, agree.found, found, Option.map_some]
  rw [granted_of_self claims rfl, granted_of_self others rfl, agree.admission _ _ known]
  split <;> rfl

/-- The directory with other hooks that let accounts act as others, and with other privileges. -/
def MemoryDirectory.regranted (directory : MemoryDirectory)
    (hooks : List (Account → Account → Bool)) (privileges : AccountId → List String) :
    MemoryDirectory :=
  { directory with
    impersonateHooks := hooks
    accounts := directory.accounts.mapValues fun account =>
      { account with privileges := privileges account.id } }

/-- Checks that do not tell two accounts apart refuse both or none. -/
theorem MemoryDirectory.firstRefusal_congr {first second : Account}
    {checks : List (Account → Admission)}
    (blind : ∀ hook ∈ checks, hook first = hook second) :
    firstRefusal first checks = firstRefusal second checks := by
  induction checks with
  | nil => rfl
  | cons hook rest ih =>
      simp only [firstRefusal]
      rw [blind hook List.mem_cons_self,
        ih fun later member => blind later (List.mem_cons_of_mem _ member)]

/-- Other hooks and privileges to act as others change nothing else, unless a check that may refuse
logins looks at privileges. -/
theorem MemoryDirectory.agree_regranted (directory : MemoryDirectory) (keyed : directory.Keyed)
    (hooks : List (Account → Account → Bool)) (privileges : AccountId → List String)
    (blind : ∀ hook ∈ directory.admissionHooks, ∀ (account : Account) (other : List String),
      hook { account with privileges := other } = hook account) :
    AgreeOnAdmission directory (directory.regranted hooks privileges) privileges := by
  refine ⟨?_, ?_⟩
  · intro id
    change (directory.accounts.mapValues _).find? id = (directory.accounts.find? id).map _
    rw [Table.find?_mapValues]
    cases found : directory.accounts.find? id with
    | none => rfl
    | some account =>
        have own : account.id = id := keyed id account found
        rw [Option.map_some, Option.map_some, own]
  · intro id account _
    change MemoryDirectory.admission _ _ = MemoryDirectory.admission _ _
    unfold MemoryDirectory.admission
    simp only [regranted, firstRefusal_congr fun hook member => blind hook member account _]

/-! ## The decision -/

/-- How the answer to a client ends that has authenticated, given the account that it is granted. -/
def verdictFrames (id : String) : Option String → List Outbound
  | none => [.outcome id .failure]
  | some name => [.login id name, .outcome id .success]

theorem verdictFrames_eq_iff {id name : String} {granted : Option String} :
    verdictFrames id granted = [.login id name, .outcome id .success] ↔ granted = some name := by
  cases granted <;> simp [verdictFrames]

theorem login_mem_verdictFrames {id name : String} {granted : Option String} :
    .login id name ∈ verdictFrames id granted ↔ granted = some name := by
  cases granted <;> simp [verdictFrames, eq_comm]

variable [CredentialStore C]

namespace Engine.Asks

variable {engine middle : Engine D C} {server : String} {frame : Inbound} {session : Session}
  {query : Query} {after : Context D C}

/-- A client that has authenticated hears of the account that it is granted, behind the list of
mechanisms if there is one for it. -/
theorem frames_of_success
    (asks : engine.Asks server frame session middle query .success after) :
    (engine.handle server frame).1 =
      (after.mechlist.map (.mechanismList frame.session)).toList ++
        verdictFrames frame.session ((after.session.granted after.accounts).map Account.name) := by
  rw [asks.gives.frames, Reply.frames_ofStep_success, asks.uid]
  cases after.session.granted after.accounts <;> rfl

/-- A client that is granted no account leaves the directory as its mechanism has left it, and no
login waits that has not waited before. -/
theorem spares_of_refused
    (asks : engine.Asks server frame session middle query .success after)
    (refused : after.session.granted after.accounts = none) :
    (engine.handle server frame).2.accounts = after.accounts ∧
      ∀ id left pending, (engine.handle server frame).2.sessions.find? id = some left →
        left.pending = some pending →
        ∃ before, engine.sessions.find? id = some before ∧ before.pending = some pending := by
  have gives := asks.gives
  simp only [Reply.ofStep, refused] at gives
  refine ⟨gives.accounts, ?_⟩
  intro id left pending found waits
  rw [gives.sessions id] at found
  split at found
  · next same =>
      have waited : session.pending = some pending := by
        rw [← asks.pending, ← Session.pending_afterFailure found]
        exact waits
      rw [same]
      exact asks.enters.waited waited
  · exact ⟨left, found, waits⟩

/-- The log says of impersonation what the two accounts of the client call for. -/
theorem tells (asks : engine.Asks server frame session middle query .success after)
    {source target : Account} (claims : after.session.Claims after.accounts source target) :
    Environment.Tells
      (impersonationNotes after.accounts
        (after.session.info.sourceName engine.options.hideServerNames) source target)
      engine.env (engine.handle server frame).2.env := by
  obtain ⟨sessions, handled⟩ := asks.handle_eq
  rw [handled, run_eq _ _ (poses_of_query? asks.asked).selected]
  have turned : query.registration.turn
      (({ middle with sessions } : Engine D C).context query.session) query.message =
        (.success, after) := asks.turned
  simp only [turned]
  have works : Environment.Tells [] middle.env after.env := by
    refine Environment.Logs.tells (asks.works.log.mono ?_)
    intro event note
    cases event with
    | client source note => rfl
    | scram source note => rfl
    | _ => cases note
  have concluded := tells_succeed (({ middle with sessions } : Engine D C).adopt after)
    query.registration.name claims
  rw [← options_sessionFor asks.entered]
  exact (logs_sessionFor (fun _ _ => rfl) asks.entered).tells.trans (works.trans concluded)

end Engine.Asks

namespace Engine

/-- What comes of a frame at which a mechanism succeeds: lists of mechanisms, and then the decision.
-/
structure Authorizes (engine : Engine D C) (server : String) (frame : Inbound)
    (after : Context D C) (listed decided : List Outbound) : Prop where
  frames : (engine.handle server frame).1 = listed ++ decided
  listed : ∀ sent ∈ listed, ∃ names, sent = .mechanismList frame.session names
  /-- Before the decision, the mechanism has replaced stored hashes at most. -/
  rehashed : Rehashed engine.accounts after.accounts
  /-- The client is logged in exactly as the account that it acts as, and exactly if it is entitled
  to. -/
  granted : ∀ name, decided = [.login frame.session name, .outcome frame.session .success] ↔
    ∃ source target, after.session.Claims after.accounts source target ∧
      Entitled after.accounts source target ∧ name = target.name
  /-- A client that is not entitled to what it claims is refused: nobody is logged in, and no login
  waits that has not waited before. -/
  refused : (∀ source target, after.session.Claims after.accounts source target →
      ¬Entitled after.accounts source target) →
    decided = [.outcome frame.session .failure] ∧
    (engine.handle server frame).2.accounts = after.accounts ∧
    ∀ id left pending, (engine.handle server frame).2.sessions.find? id = some left →
      left.pending = some pending →
      ∃ before, engine.sessions.find? id = some before ∧ before.pending = some pending
  /-- A client that may be logged in as itself and acts as somebody else is reported, with both
  accounts: once as denied if it may not act as the other account, and once as allowed exactly if it
  is logged in. -/
  impersonation : ∀ source target, after.session.Claims after.accounts source target →
    target.id ≠ source.id → AccountDirectory.admission after.accounts source = .allow →
    let user := after.session.info.sourceName engine.options.hideServerNames
    Environment.Tells
      (if AccountDirectory.canImpersonate after.accounts source target then
        if .login frame.session target.name ∈ decided then
          [.impersonateAllowed user source.name target.name]
        else []
      else [.impersonateDenied user source.name target.name])
      engine.env (engine.handle server frame).2.env
  /-- A client that acts as itself meets the same decision with any directory that differs only in
  who may act as whom. -/
  itself : ∀ account, after.session.Claims after.accounts account account →
    ∀ {D' : Type} [AccountDirectory D'] {other : Engine D' C} {uplink : String} {inbound : Inbound}
      {context : Context D' C} {privileges : AccountId → List String},
      other.Reachable → other.verdict? uplink inbound = some (.success, context) →
      inbound.session = frame.session → context.session.authc = after.session.authc →
      context.session.authz = after.session.authz →
      AgreeOnAdmission after.accounts context.accounts privileges →
      ∃ before, (other.handle uplink inbound).1 = before ++ decided ∧
        ∀ sent ∈ before, ∃ names, sent = .mechanismList frame.session names

/-- A client that has authenticated is logged in as the account that it acts as exactly if it may be
logged in as itself and, unless it is that account, may act as it and be logged in as it. -/
theorem login_iff_entitled {engine : Engine D C} (reachable : engine.Reachable) {server : String}
    {frame : Inbound} {after : Context D C}
    (succeeded : engine.verdict? server frame = some (.success, after)) :
    ∃ listed decided, engine.Authorizes server frame after listed decided := by
  obtain ⟨session, middle, query, asks⟩ := asks_of_verdict? reachable.sound.keyed succeeded
  have lists {D' : Type} (context : Context D' C) (id : String) :
      ∀ sent ∈ (context.mechlist.map (Outbound.mechanismList id)).toList,
        ∃ names, sent = .mechanismList id names := by
    intro sent member
    obtain ⟨names, -, same⟩ := Option.map_eq_some_iff.mp (Option.mem_toList.mp member)
    exact ⟨names, same.symm⟩
  refine ⟨_, _, asks.frames_of_success, lists after _, asks.rehashed, ?_, ?_, ?_, ?_⟩
  · intro name
    rw [verdictFrames_eq_iff, Option.map_eq_some_iff]
    constructor
    · rintro ⟨target, chosen, rfl⟩
      obtain ⟨source, claims, entitled⟩ := Session.granted_eq_some_iff.mp chosen
      exact ⟨source, target, claims, entitled, rfl⟩
    · rintro ⟨source, target, claims, entitled, rfl⟩
      exact ⟨target, Session.granted_eq_some_iff.mpr ⟨source, claims, entitled⟩, rfl⟩
  · intro refused
    have none := Session.granted_eq_none_iff.mpr refused
    exact ⟨by rw [none]; rfl, asks.spares_of_refused none⟩
  · intro source target claims different admitted user
    have tells := asks.tells claims
    have entitled : Entitled after.accounts source target ↔
        AccountDirectory.canImpersonate after.accounts source target = true ∧
          AccountDirectory.admission after.accounts target = .allow := by
      constructor
      · intro entitled
        exact entitled.other.resolve_left different
      · exact fun allowed => ⟨admitted, .inr allowed⟩
    have emitted : .login frame.session target.name ∈ verdictFrames frame.session
        ((after.session.granted after.accounts).map Account.name) ↔
          Entitled after.accounts source target := by
      rw [login_mem_verdictFrames, Option.map_eq_some_iff]
      constructor
      · rintro ⟨other, chosen, -⟩
        obtain ⟨own, others, allowed⟩ := Session.granted_eq_some_iff.mp chosen
        obtain ⟨rfl, rfl⟩ := claims.unique others
        exact allowed
      · intro entitled
        exact ⟨target, Session.granted_eq_some_iff.mpr ⟨source, claims, entitled⟩, rfl⟩
    -- The frames and the log are both decided by whether the client is entitled to the account.
    unfold impersonationNotes at tells
    rw [if_neg (by simp [different, admitted])] at tells
    simp only [emitted, entitled]
    cases able : AccountDirectory.canImpersonate after.accounts source target with
    | false =>
        rw [able] at tells
        exact tells
    | true =>
        rw [able] at tells
        simpa using tells
  · intro account claims D' directory other uplink inbound context privileges others verdict same
      authc authz agree
    obtain ⟨session, middle, query, asked⟩ := asks_of_verdict? others.sound.keyed verdict
    refine ⟨_, ?_, lists context _⟩
    rw [asked.frames_of_success, same, Session.name_granted_of_agree agree authc authz claims]

end Engine

/-! ## An account that acts as another one -/

/-- An account that may act as any other one. -/
def deputy : Account :=
  { id := ⟨1⟩, name := "alice", privileges := [privilegeAny], certfps := ["ab"] }

/-- An account without privileges. -/
def principal : Account := { id := ⟨2⟩, name := "bob" }

/-- A directory with these two accounts. -/
def deputyAccounts : MemoryDirectory where
  accounts := (Table.empty.insert ⟨1⟩ deputy).insert ⟨2⟩ principal
  names := (Table.empty.insert "alice" ⟨1⟩).insert "bob" ⟨2⟩
  nextNumber := 3

/-- An engine with that directory, which offers nothing yet. -/
def deputyEngine : Engine MemoryDirectory PasswordHasher :=
  { options := {}, accounts := deputyAccounts, credentials := ⟨{}⟩
    env := { entropy := .arithmetic 0 [] } }

/-- The engine after a client with the certificate of the first account has asked for EXTERNAL. -/
def deputyRun : Engine MemoryDirectory PasswordHasher :=
  deputyEngine.performAll
    [.registered .external, .frame "hub" (.startAuth "U1" "EXTERNAL" (some "ab"))]

/-- The client asks to act as the second account. -/
def deputyFrame : Inbound := .clientData "U1" "Ym9i"

/-- The client asks to act as itself. -/
def ownFrame : Inbound := .clientData "U1" "+"

/-- The directory where nobody has privileges any more. -/
def plainDeputyAccounts : MemoryDirectory := deputyAccounts.regranted [] fun _ => []

/-- An engine with that directory, which the same client has asked for the same. -/
def plainDeputyRun : Engine MemoryDirectory PasswordHasher :=
  { deputyEngine with accounts := plainDeputyAccounts }.performAll
    [.registered .external, .frame "hub" (.startAuth "U1" "EXTERNAL" (some "ab"))]

theorem reachable_deputyRun : deputyRun.Reachable := by
  have created : Engine.create {} deputyAccounts ⟨{}⟩ (.arithmetic 0 []) = .ok deputyEngine := rfl
  exact (Engine.Reachable.create created).performAll _

theorem reachable_plainDeputyRun : plainDeputyRun.Reachable := by
  have created : Engine.create {} plainDeputyAccounts (⟨{}⟩ : PasswordHasher) (.arithmetic 0 []) =
    .ok _ := rfl
  exact (Engine.Reachable.create created).performAll _

theorem keyed_deputyAccounts : deputyAccounts.Keyed := by
  intro id account found
  change (Table.insert _ _ _).find? id = some account at found
  rw [Table.find?_insert, Table.find?_insert] at found
  split at found
  · next same =>
      cases found
      exact same.symm
  · split at found
    · next same =>
        cases found
        exact same.symm
    · cases found

/-- A client that asks to act as itself is resolved as its account, and nothing is rehashed. -/
theorem verdict_ownFrame (engine : Engine MemoryDirectory PasswordHasher)
    (accounts : MemoryDirectory) (identity : Identity)
    (resolved : (engine.verdict? "hub" ownFrame).map (fun (step, after) =>
      (step, after.session.authc, after.session.authz)) = some (.success, some identity, none))
    (same : (engine.verdict? "hub" ownFrame).map (fun (_, after) => after.accounts) =
      some accounts) :
    ∃ after, engine.verdict? "hub" ownFrame = some (.success, after) ∧
      after.session.authc = some identity ∧ after.session.authz = none ∧
      after.accounts = accounts := by
  obtain ⟨⟨step, after⟩, verdict, known⟩ := Option.map_eq_some_iff.mp resolved
  simp only [Prod.mk.injEq] at known
  obtain ⟨rfl, authc, authz⟩ := known
  rw [verdict, Option.map_some, Option.some.injEq] at same
  exact ⟨after, verdict, authc, authz, same⟩

/-- The client is logged in as the second account. If it acts as itself, it is logged in as the
first one, also where that account has no privileges. -/
theorem login_iff_entitled_deputy :
    (∃ after, deputyRun.verdict? "hub" deputyFrame = some (.success, after) ∧
      after.session.Claims after.accounts deputy principal ∧
      Entitled after.accounts deputy principal ∧
      ∃ listed, (deputyRun.handle "hub" deputyFrame).1 =
        listed ++ [.login "U1" "bob", .outcome "U1" .success]) ∧
    ∃ after context, deputyRun.verdict? "hub" ownFrame = some (.success, after) ∧
      plainDeputyRun.verdict? "hub" ownFrame = some (.success, context) ∧
      AgreeOnAdmission after.accounts context.accounts (fun _ => []) ∧
      ∃ listed before, (deputyRun.handle "hub" ownFrame).1 =
          listed ++ [.login "U1" "alice", .outcome "U1" .success] ∧
        (plainDeputyRun.handle "hub" ownFrame).1 =
          before ++ [.login "U1" "alice", .outcome "U1" .success] := by
  refine ⟨?_, ?_⟩
  · have claimed : (deputyRun.verdict? "hub" deputyFrame).map (fun (step, after) =>
        (step, after.session.authc, after.session.authz, after.accounts.find? ⟨1⟩,
          after.accounts.find? ⟨2⟩)) =
        some (.success, some ⟨"alice", ⟨1⟩⟩, some ⟨"bob", ⟨2⟩⟩, some deputy, some principal) := by
      decide +kernel
    have allowed : (deputyRun.verdict? "hub" deputyFrame).map (fun (_, after) =>
        (after.accounts.admission deputy, after.accounts.canImpersonate deputy principal,
          after.accounts.admission principal)) = some (.allow, true, .allow) := by
      decide +kernel
    obtain ⟨⟨step, after⟩, verdict, same⟩ := Option.map_eq_some_iff.mp claimed
    simp only [Prod.mk.injEq] at same
    obtain ⟨rfl, authc, authz, own, other⟩ := same
    rw [verdict, Option.map_some, Option.some.injEq, Prod.mk.injEq, Prod.mk.injEq] at allowed
    obtain ⟨admitted, able, admitting⟩ := allowed
    have claims : after.session.Claims after.accounts deputy principal := by
      refine ⟨?_, ?_⟩
      · rw [authc]
        exact own
      · rw [authz]
        exact other
    have entitled : Entitled after.accounts deputy principal := ⟨admitted, .inr ⟨able, admitting⟩⟩
    obtain ⟨listed, decided, authorizes⟩ := Engine.login_iff_entitled reachable_deputyRun verdict
    have granted := (authorizes.granted "bob").mpr ⟨deputy, principal, claims, entitled, rfl⟩
    refine ⟨after, verdict, claims, entitled, listed, ?_⟩
    rw [authorizes.frames, granted]
    rfl
  · obtain ⟨after, verdict, authc, authz, accounts⟩ :=
      verdict_ownFrame deputyRun deputyAccounts deputy.identity (by decide +kernel) rfl
    obtain ⟨context, other, sameAuthc, sameAuthz, plain⟩ :=
      verdict_ownFrame plainDeputyRun plainDeputyAccounts deputy.identity (by decide +kernel) rfl
    have agree : AgreeOnAdmission after.accounts context.accounts (fun _ => []) := by
      rw [accounts, plain]
      exact deputyAccounts.agree_regranted keyed_deputyAccounts _ _ fun _ absurd => by cases absurd
    have claims : after.session.Claims after.accounts deputy deputy := by
      refine ⟨?_, ?_⟩
      · rw [authc, accounts]
        rfl
      · rw [authz, authc, accounts]
        rfl
    have admitted : AccountDirectory.admission after.accounts deputy = .allow := by
      rw [accounts]
      rfl
    obtain ⟨listed, decided, authorizes⟩ := Engine.login_iff_entitled reachable_deputyRun verdict
    have granted := (authorizes.granted "alice").mpr
      ⟨deputy, deputy, claims, ⟨admitted, .inl rfl⟩, rfl⟩
    obtain ⟨before, alike, -⟩ := authorizes.itself deputy claims reachable_plainDeputyRun other rfl
      (sameAuthc.trans authc.symm) (sameAuthz.trans authz.symm) agree
    refine ⟨after, context, verdict, other, agree, listed, before, ?_, ?_⟩
    · rw [authorizes.frames, granted]
      rfl
    · rw [alike, granted]
      rfl

end IrcSasl
