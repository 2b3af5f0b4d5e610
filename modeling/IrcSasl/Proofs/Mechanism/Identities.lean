import IrcSasl.Proofs.Engine.Sessions

set_option autoImplicit false

/-!
# Resolving identities

What the services of a step leave alone, and what the two names of a client come to. `Context.Near`
relates contexts between which only identities were resolved and events noted, `Context.Keeps` those
between which a whole step may lie. `Identified` says which accounts two names have given a session.
-/

namespace IrcSasl

variable {D C : Type}

namespace Context

/-- A whole step may lie between two contexts: of the session, only the identities and what the
mechanism keeps differ. -/
structure Keeps (before after : Context D C) : Prop where
  session : after.session =
    { before.session with
      authc := after.session.authc, authz := after.session.authz, state := after.session.state }
  credentials : after.credentials = before.credentials
  registry : after.registry = before.registry

/-- Only the log and the identities of the session differ between two contexts. -/
structure Near (before after : Context D C) : Prop where
  session : after.session =
    { before.session with authc := after.session.authc, authz := after.session.authz }
  accounts : after.accounts = before.accounts
  credentials : after.credentials = before.credentials
  registry : after.registry = before.registry
  mechlist : after.mechlist = before.mechlist
  entropy : after.env.entropy = before.env.entropy

namespace Keeps

theorem refl (ctx : Context D C) : ctx.Keeps ctx := ⟨rfl, rfl, rfl⟩

theorem trans {first second third : Context D C} (early : first.Keeps second)
    (late : second.Keeps third) : first.Keeps third := by
  refine ⟨?_, late.credentials.trans early.credentials, late.registry.trans early.registry⟩
  rw [late.session, early.session]

theorem info {before after : Context D C} (kept : before.Keeps after) :
    after.session.info = before.session.info := by
  rw [kept.session]

theorem decoder {before after : Context D C} (kept : before.Keeps after) :
    after.session.decoder = before.session.decoder := by
  rw [kept.session]

theorem mechanism {before after : Context D C} (kept : before.Keeps after) :
    after.session.mechanism = before.session.mechanism := by
  rw [kept.session]

/-- A step does not change what a failure would leave of the session. -/
theorem afterFailure {before after : Context D C} (kept : before.Keeps after) :
    after.session.afterFailure = before.session.afterFailure :=
  Session.afterFailure_congr kept.session

end Keeps

namespace Near

theorem refl (ctx : Context D C) : ctx.Near ctx := ⟨rfl, rfl, rfl, rfl, rfl, rfl⟩

theorem trans {first second third : Context D C} (early : first.Near second)
    (late : second.Near third) : first.Near third := by
  refine ⟨?_, late.accounts.trans early.accounts, late.credentials.trans early.credentials,
    late.registry.trans early.registry, late.mechlist.trans early.mechlist,
    late.entropy.trans early.entropy⟩
  rw [late.session, early.session]

theorem keeps {before after : Context D C} (near : before.Near after) : before.Keeps after := by
  refine ⟨?_, near.credentials, near.registry⟩
  rw [near.session]

theorem state {before after : Context D C} (near : before.Near after) :
    after.session.state = before.session.state := by
  rw [near.session]

end Near

/-! ## Services that resolve nothing -/

theorem near_note (ctx : Context D C) (note : Log.ClientNote) : ctx.Near (ctx.note note) :=
  ⟨rfl, rfl, rfl, rfl, rfl, rfl⟩

theorem near_noteScram (ctx : Context D C) (note : Log.ScramNote) :
    ctx.Near (ctx.noteScram note) := ⟨rfl, rfl, rfl, rfl, rfl, rfl⟩

theorem near_report (ctx : Context D C) (report : Script.Report) : ctx.Near (ctx.report report) :=
  ⟨rfl, rfl, rfl, rfl, rfl, rfl⟩

theorem keeps_setState (ctx : Context D C) (state : MechanismState) :
    ctx.Keeps (ctx.setState state) := ⟨rfl, rfl, rfl⟩

theorem keeps_draw (ctx : Context D C) (length : Nat) : ctx.Keeps (ctx.draw length).2 :=
  ⟨rfl, rfl, rfl⟩

variable [AccountDirectory D]

theorem keeps_recalcMechlist (ctx : Context D C) (id : AccountId) (avoid : List String) :
    ctx.Keeps (ctx.recalcMechlist id avoid) := ⟨rfl, rfl, rfl⟩

theorem keeps_rewriteCredential (ctx : Context D C) (id : AccountId) (credential : Credential) :
    ctx.Keeps (ctx.rewriteCredential id credential).2 := ⟨rfl, rfl, rfl⟩

/-! ## Who the client is -/

/-- Whether an account may be entered changes nothing but the log, and an identity that comes out
is that of the account of the name, which is admitted unless it is the other one. -/
theorem canLogin_cases (ctx : Context D C) (name : String) (other : Option AccountId) :
    ∃ found after, ctx.canLogin name other = (found, after) ∧ ctx.Near after ∧
      after.session = ctx.session ∧
      ∀ identity, found = some identity →
        ∃ account, AccountDirectory.findByName ctx.accounts name = some account ∧
          identity = account.identity ∧
          (other = some account.id ∨
            AccountDirectory.admission ctx.accounts account = .allow) := by
  unfold canLogin
  split
  · exact ⟨none, ctx, rfl, .refl ctx, rfl, fun _ absurd => by cases absurd⟩
  · next account known =>
      split
      · next same =>
          refine ⟨_, ctx, rfl, .refl ctx, rfl, ?_⟩
          rintro identity ⟨⟩
          exact ⟨account, known, rfl, .inl same⟩
      · split
        · next admitted =>
            refine ⟨_, ctx, rfl, .refl ctx, rfl, ?_⟩
            rintro identity ⟨⟩
            exact ⟨account, known, rfl, .inr admitted⟩
        · exact ⟨none, _, rfl, ctx.near_note _, rfl, fun _ absurd => by cases absurd⟩

/-- Resolving who the client is gives the session the account of the name and leaves whom the client
acts as; or it fails. -/
theorem resolveAuthcid_cases (ctx : Context D C) (name : String) :
    ∃ id after, ctx.resolveAuthcid name = (id, after) ∧ ctx.Near after ∧
      (id = none ∨ ∃ account, AccountDirectory.findByName ctx.accounts name = some account ∧
        id = some account.id ∧ after.session.authc = some account.identity ∧
        after.session.authz = ctx.session.authz ∧
        (ctx.session.authz.map Identity.id = some account.id ∨
          AccountDirectory.admission ctx.accounts account = .allow)) := by
  obtain ⟨found, after, entered, near, same, resolved⟩ :=
    ctx.canLogin_cases name (ctx.session.authz.map Identity.id)
  unfold resolveAuthcid
  rw [entered]
  cases found with
  | none => exact ⟨none, after, rfl, near, .inl rfl⟩
  | some identity =>
      obtain ⟨account, known, rfl, admitted⟩ := resolved identity rfl
      refine ⟨some account.id, after.setAuthc account.identity, rfl, ?_, .inr ⟨account, known, ?_⟩⟩
      · exact near.trans ⟨rfl, rfl, rfl, rfl, rfl, rfl⟩
      · exact ⟨rfl, rfl, (congrArg Session.authz same : after.session.authz = _), admitted⟩

/-- Whoever may be logged into is who the client says to be. -/
theorem resolveAuthcid_of_allow {ctx : Context D C} {account : Account} {name : String}
    (known : AccountDirectory.findByName ctx.accounts name = some account)
    (admitted : AccountDirectory.admission ctx.accounts account = .allow) :
    ctx.resolveAuthcid name = (some account.id, ctx.setAuthc account.identity) := by
  have entered : ctx.canLogin name (ctx.session.authz.map Identity.id) =
      (some account.identity, ctx) := by
    rw [canLogin, known]
    simp only [admitted, ite_self]
  rw [resolveAuthcid, entered]
  rfl

/-- Nobody is who the client says to be unless an account of that name may be logged into, if it is
not known yet whom the client acts as. -/
theorem resolveAuthcid_of_none {ctx : Context D C} (unresolved : ctx.session.authz = none)
    {name : String}
    (barred : ∀ account, AccountDirectory.findByName ctx.accounts name = some account →
      AccountDirectory.admission ctx.accounts account ≠ .allow) :
    ∃ after, ctx.resolveAuthcid name = (none, after) ∧ ctx.Near after := by
  obtain ⟨id, after, resolved, near, outcome⟩ := ctx.resolveAuthcid_cases name
  rcases outcome with rfl | ⟨account, known, -, -, -, same | admitted⟩
  · exact ⟨after, resolved, near⟩
  · rw [unresolved] at same
    cases same
  · exact absurd admitted (barred account known)

/-- Resolving whom the client acts as leaves who it is. -/
theorem resolveAuthzid_cases (ctx : Context D C) (name : String) :
    ∃ id after, ctx.resolveAuthzid name = (id, after) ∧ ctx.Near after ∧
      (id = none ∨ ∃ account, AccountDirectory.findByName ctx.accounts name = some account ∧
        id = some account.id ∧ after.session.authz = some account.identity ∧
        after.session.authc = ctx.session.authc) := by
  unfold resolveAuthzid
  split
  · exact ⟨none, _, rfl, ctx.near_note _, .inl rfl⟩
  · next authc _ =>
      obtain ⟨found, after, entered, near, same, resolved⟩ :=
        ctx.canLogin_cases name (some authc.id)
      rw [entered]
      cases found with
      | none => exact ⟨none, after, rfl, near, .inl rfl⟩
      | some identity =>
          obtain ⟨account, known, rfl, -⟩ := resolved identity rfl
          refine ⟨some account.id, after.setAuthz account.identity, rfl, ?_,
            .inr ⟨account, known, ?_⟩⟩
          · exact near.trans ⟨rfl, rfl, rfl, rfl, rfl, rfl⟩
          · exact ⟨rfl, rfl, (congrArg Session.authc same : after.session.authc = _)⟩

end Context

/-- Whom a client acts as after it has named somebody, or nobody: the account of the name, or
whoever it acted as before. -/
def ActsAs [AccountDirectory D] (accounts : D) (name : Option String)
    (before after : Option Identity) : Prop :=
  match name with
  | none => after = before
  | some name =>
      ∃ target, AccountDirectory.findByName accounts name = some target ∧
        after = some target.identity

/-- Whom a client acts as that has acted as nobody before. -/
theorem ActsAs.eq [AccountDirectory D] {accounts : D} {name : Option String}
    {after : Option Identity} (acts : ActsAs accounts name none after) :
    after = (name.bind (AccountDirectory.findByName accounts)).map Account.identity := by
  cases name with
  | none => exact acts
  | some name =>
      obtain ⟨target, known, rfl⟩ := acts
      rw [Option.bind_some, known, Option.map_some]

/-- A client that is an account can act as whom it names, if it names anybody: that account itself,
or one that may be logged into. -/
def Admits [AccountDirectory D] (accounts : D) (source : Account) (authzid : Option String) :
    Prop :=
  ∀ name, authzid = some name → ∃ target, AccountDirectory.findByName accounts name = some target ∧
    (target.id = source.id ∨ AccountDirectory.admission accounts target = .allow)

/-- The identities of a session after a client has said who it is and whom it acts as, given whom
it acted as before. Who it is has been checked unless that is whom it acted as. -/
structure Identified [AccountDirectory D] (accounts : D) (authcid : String)
    (authzid : Option String) (before : Option Identity) (source : Account) (session : Session) :
    Prop where
  known : AccountDirectory.findByName accounts authcid = some source
  authc : session.authc = some source.identity
  authz : ActsAs accounts authzid before session.authz
  admitted : before.map Identity.id = some source.id ∨
    AccountDirectory.admission accounts source = .allow

namespace Context

variable [AccountDirectory D]

/-- Resolving whom the client acts as, if it acts as anybody else. -/
theorem resolveOptionalAuthzid_cases (ctx : Context D C) (name : Option String) :
    ∃ allowed after, ctx.resolveOptionalAuthzid name = (allowed, after) ∧ ctx.Near after ∧
      (allowed = false ∨ ActsAs ctx.accounts name ctx.session.authz after.session.authz ∧
        after.session.authc = ctx.session.authc) := by
  cases name with
  | none => exact ⟨true, ctx, rfl, .refl ctx, .inr ⟨rfl, rfl⟩⟩
  | some name =>
      obtain ⟨id, after, resolved, near, outcome⟩ := ctx.resolveAuthzid_cases name
      unfold resolveOptionalAuthzid
      simp only [resolved]
      rcases outcome with rfl | ⟨account, known, rfl, authz, authc⟩
      · exact ⟨false, after, rfl, near, .inl rfl⟩
      · exact ⟨true, after, rfl, near, .inr ⟨⟨account, known, authz⟩, authc⟩⟩

/-- Once it is known who the client is, whom it acts as is resolved exactly if it can act so. -/
theorem resolveOptionalAuthzid_iff {ctx : Context D C} {source : Account}
    (known : ctx.session.authc = some source.identity) (authzid : Option String) :
    (ctx.resolveOptionalAuthzid authzid).1 = true ↔ Admits ctx.accounts source authzid := by
  cases authzid with
  | none => exact iff_of_true rfl fun _ named => by cases named
  | some name =>
      have named : Admits ctx.accounts source (some name) ↔
          ∃ target, AccountDirectory.findByName ctx.accounts name = some target ∧
            (target.id = source.id ∨ AccountDirectory.admission ctx.accounts target = .allow) := by
        unfold Admits
        simp only [Option.some.injEq, forall_eq']
      rw [named]
      simp only [resolveOptionalAuthzid, resolveAuthzid, known, canLogin, Option.some.injEq]
      cases found : AccountDirectory.findByName ctx.accounts name with
      | none => simp
      | some target =>
          have identity : source.identity.id = source.id := rfl
          by_cases same : source.id = target.id
          · simp [identity, same]
          · cases admission : AccountDirectory.admission ctx.accounts target with
            | allow => simp [identity, same, admission]
            | deny reason => simp [identity, same, Ne.symm same, admission]

/-- The two resolutions one after the other identify the client, unless one of them fails. -/
theorem identify_cases (ctx : Context D C) (authcid : String) (authzid : Option String) :
    ∃ id middle, ctx.resolveAuthcid authcid = (id, middle) ∧ ctx.Near middle ∧
      (id = none ∨ ∃ source allowed after, id = some source.id ∧
        middle.resolveOptionalAuthzid authzid = (allowed, after) ∧ ctx.Near after ∧
        (allowed = false ∨
          Identified ctx.accounts authcid authzid ctx.session.authz source after.session)) := by
  obtain ⟨id, middle, resolved, near, outcome⟩ := ctx.resolveAuthcid_cases authcid
  refine ⟨id, middle, resolved, near, ?_⟩
  rcases outcome with nobody | ⟨source, known, somebody, authc, authz, admitted⟩
  · exact .inl nobody
  · obtain ⟨allowed, after, resolvedOther, nearOther, outcome⟩ :=
      middle.resolveOptionalAuthzid_cases authzid
    refine .inr ⟨source, allowed, after, somebody, resolvedOther, near.trans nearOther, ?_⟩
    rcases outcome with refused | ⟨acts, kept⟩
    · exact .inl refused
    · rw [near.accounts, authz] at acts
      exact .inr ⟨known, kept.trans authc, acts, admitted⟩

end Context

end IrcSasl
