import IrcSasl.Account.Memory
import IrcSasl.Credential.Store
import IrcSasl.Proofs.Mechanism.Steps

set_option autoImplicit false

/-!
# What PLAIN decides

A message follows the grammar if it is two names and a password with exactly two NUL bytes in
between (`Plain.Spells`), and it reaches an account if the client may enter it and act as whom it
names (`Plain.Reaches`). The password then decides between success and failure, and every other
message is refused (`Plain.step_decides`).
-/

namespace IrcSasl.Plain

/-! ## The grammar -/

/-- The bytes of a message: its parts with a NUL byte between each two. -/
def Message.bytes (message : Message) : Bytes :=
  Bytes.ofString message.authzid ++
    0 :: (Bytes.ofString message.authcid ++ 0 :: message.password)

/-- A message as it is written: two names of at most 50 bytes of UTF-8 and a password, with exactly
two NUL bytes between them. Only the first of the three may be empty. -/
structure Spells (data : Bytes) (message : Message) : Prop where
  written : data = message.bytes
  nuls : data.count 0 = 2
  shortAuthzid : message.authzid.utf8ByteSize ≤ 50
  shortAuthcid : message.authcid.utf8ByteSize ≤ 50
  named : message.authcid ≠ ""
  given : message.password ≠ []

/-- Three parts have no NUL byte exactly if there are only the two between them. -/
theorem count_nul_eq_two_iff {authzid authcid password : Bytes} :
    (authzid ++ 0 :: (authcid ++ 0 :: password)).count 0 = 2 ↔
      0 ∉ authzid ∧ 0 ∉ authcid ∧ 0 ∉ password := by
  simp only [List.count_append, List.count_cons_self, ← List.count_eq_zero]
  omega

/-- The fields of a message are three exactly if it has two NUL bytes. -/
theorem split_eq_iff {data authzid authcid password : Bytes} :
    Fields.split 0 data = [authzid, authcid, password] ↔
      data = authzid ++ 0 :: (authcid ++ 0 :: password) ∧ data.count 0 = 2 := by
  constructor
  · intro fields
    have joined := Fields.join_split 0 data
    have clean := Fields.not_mem_of_mem_split 0 data
    rw [fields] at joined clean
    simp only [List.mem_cons, List.not_mem_nil, or_false, forall_eq_or_imp, forall_eq] at clean
    subst joined
    exact ⟨rfl, count_nul_eq_two_iff.mpr clean⟩
  · rintro ⟨rfl, nuls⟩
    obtain ⟨first, second, third⟩ := count_nul_eq_two_iff.mp nuls
    rw [Fields.split_append_cons 0 first, Fields.split_append_cons 0 second,
      Fields.split_of_not_mem 0 third]

/-- Reading accepts exactly the messages that follow the grammar. -/
theorem parse_iff_spells {data : Bytes} {message : Message} :
    parse data = some message ↔ Spells data message := by
  have most : Limits.accountNameLength = 50 := rfl
  constructor
  · intro parsed
    unfold parse at parsed
    split at parsed
    · next authzid authcid password fields =>
        split at parsed
        · next authzidText authcidText readAuthzid readAuthcid =>
            split at parsed
            · cases parsed
            · next fits =>
                cases parsed
                rw [Bytes.toString?_eq_some_iff] at readAuthzid readAuthcid
                subst readAuthzid readAuthcid
                simp only [Bool.or_eq_true, decide_eq_true_eq, not_or, Nat.not_lt, most,
                  List.isEmpty_iff, Bytes.length_ofString] at fits
                obtain ⟨⟨⟨named, given⟩, shortAuthcid⟩, shortAuthzid⟩ := fits
                obtain ⟨written, nuls⟩ := split_eq_iff.mp fields
                refine ⟨written, nuls, shortAuthzid, shortAuthcid, ?_, given⟩
                rintro rfl
                exact named rfl
        · cases parsed
    · cases parsed
  · intro spelled
    have fields : Fields.split 0 data =
        [Bytes.ofString message.authzid, Bytes.ofString message.authcid, message.password] :=
      split_eq_iff.mpr ⟨spelled.written, spelled.nuls⟩
    have named : Bytes.ofString message.authcid ≠ [] := fun none =>
      spelled.named (Bytes.ofString_inj.mp none)
    simp [parse, fields, named, spelled.given, most, spelled.shortAuthzid, spelled.shortAuthcid]

theorem Spells.unique {data : Bytes} {message other : Message} (spelled : Spells data message)
    (again : Spells data other) : other = message := by
  rw [← parse_iff_spells] at spelled again
  exact Option.some.inj (again.symm.trans spelled)

variable {D C : Type} [AccountDirectory D]

/-! ## The account -/

/-- A message reaches an account: the client says to be one that may be logged into, can act as whom
it names, and the record under the identifier of that account allows passwords. -/
structure Reaches (accounts : D) (message : Message) (source account : Account) : Prop where
  known : AccountDirectory.findByName accounts message.authcid = some source
  admitted : AccountDirectory.admission accounts source = .allow
  acts : Admits accounts source message.otherName
  held : AccountDirectory.findById accounts source.id = some account
  allowed : account.noPassword = false

theorem Reaches.unique {accounts : D} {message : Message} {source account other : Account}
    {record : Account} (reaches : Reaches accounts message source account)
    (again : Reaches accounts message other record) : other = source ∧ record = account := by
  obtain rfl : other = source := Option.some.inj (again.known.symm.trans reaches.known)
  exact ⟨rfl, Option.some.inj (again.held.symm.trans reaches.held)⟩

/-- A message reaches an account, and the session has been told who the client is and whom it acts
as. -/
structure Identifies (ctx : Context D C) (data : Bytes) (message : Message)
    (source account : Account) (after : Context D C) : Prop where
  spelled : Spells data message
  reaches : Reaches ctx.accounts message source account
  near : ctx.Near after
  authc : after.session.authc = some source.identity
  authz : ActsAs ctx.accounts message.otherName ctx.session.authz after.session.authz

namespace Identifies

variable {ctx after : Context D C} {data : Bytes} {message : Message} {source account : Account}

/-- A message reaches one account at most. -/
theorem unique (identifies : Identifies ctx data message source account after) {other : Message}
    {another record : Account} (spelled : Spells data other)
    (reaches : Reaches ctx.accounts other another record) :
    other = message ∧ another = source ∧ record = account := by
  obtain rfl := identifies.spelled.unique spelled
  exact ⟨rfl, identifies.reaches.unique reaches⟩

theorem session (identifies : Identifies ctx data message source account after)
    (unresolved : ctx.session.authz = none) :
    after.session =
      { ctx.session with
        authc := some source.identity
        authz := (message.otherName.bind (AccountDirectory.findByName ctx.accounts)).map
          Account.identity } := by
  have authz := identifies.authz
  rw [unresolved] at authz
  rw [identifies.near.session, identifies.authc, authz.eq]

end Identifies

/-! ## The password -/

variable [CredentialStore C]

/-- A password is that of an account: it belongs to the stored hash, or it is the stored password
once both are prepared. -/
def Matches (credentials : C) (account : Account) (password : Bytes) : Prop :=
  ∃ stored, account.password = some stored ∧
    (account.crypt = true ∧ CredentialStore.verify credentials password stored = true ∨
      account.crypt = false ∧
        Text.preparePassword (Bytes.ofString stored) = Text.preparePassword password)

theorem checkPassword_iff_matches {credentials : C} {account : Account} {password : Bytes} :
    checkPassword credentials account password = true ↔
      Matches credentials account password := by
  unfold checkPassword Matches
  cases account.password with
  | none => simp
  | some stored => cases account.crypt <;> simp

/-! ## The step -/

/-- What becomes of a message, with the context that is left. -/
inductive Outcome (ctx : Context D C) (data : Bytes) : Step × Context D C → Prop where
  | accepted {message : Message} {source account : Account} {after : Context D C}
      (identifies : Identifies ctx data message source account after)
      (right : Matches ctx.credentials account message.password) :
      Outcome ctx data (.success, after)
  | failed {message : Message} {source account : Account} {after : Context D C}
      (identifies : Identifies ctx data message source account after)
      (wrong : ¬Matches ctx.credentials account message.password) :
      Outcome ctx data (.failure [], after)
  | refused {after : Context D C} (near : ctx.Near after)
      (barred : ∀ message source account, Spells data message →
        ¬Reaches ctx.accounts message source account) :
      Outcome ctx data (.refused [], after)

section

variable {ctx : Context D C} {data : Bytes} {message : Message}

/-- A message is refused if it is read and reaches no account. -/
theorem Outcome.of_barred {after : Context D C} (spelled : Spells data message)
    (near : ctx.Near after)
    (barred : ∀ source account, ¬Reaches ctx.accounts message source account) :
    Outcome ctx data (.refused [], after) := by
  refine .refused near fun other source account again reaches => ?_
  obtain rfl := spelled.unique again
  exact barred source account reaches

/-- What becomes of a message whose client says to be an account that may be logged into. -/
theorem outcome_of_admitted {source : Account} (spelled : Spells data message)
    (known : AccountDirectory.findByName ctx.accounts message.authcid = some source)
    (admitted : AccountDirectory.admission ctx.accounts source = .allow) :
    Outcome ctx data (step ctx data) := by
  have parsed := parse_iff_spells.mpr spelled
  have same {other account : Account} (reaches : Reaches ctx.accounts message other account) :
      other = source := Option.some.inj (reaches.known.symm.trans known)
  obtain ⟨allowed, after, resolved, nearOther, outcome⟩ :=
    (ctx.setAuthc source.identity).resolveOptionalAuthzid_cases message.otherName
  have acts := Context.resolveOptionalAuthzid_iff
    (show (ctx.setAuthc source.identity).session.authc = some source.identity from rfl)
    message.otherName
  rw [resolved] at acts
  have near : ctx.Near after := by
    have told : ctx.Near (ctx.setAuthc source.identity) := ⟨rfl, rfl, rfl, rfl, rfl, rfl⟩
    exact told.trans nearOther
  simp only [step, parsed, Context.resolveAuthcid_of_allow known admitted, resolved]
  cases allowed with
  | false =>
      refine .of_barred spelled (near.trans (after.near_note _)) fun other account reaches => ?_
      obtain rfl := same reaches
      cases acts.mpr reaches.acts
  | true =>
      rcases outcome with absurd | ⟨authz, authc⟩
      · cases absurd
      · simp only [near.accounts, near.credentials]
        cases held : AccountDirectory.findById ctx.accounts source.id with
        | none =>
            refine .of_barred spelled near fun other account reaches => ?_
            obtain rfl := same reaches
            cases held.symm.trans reaches.held
        | some account =>
            cases allowed : account.noPassword with
            | true =>
                simp only [allowed, if_true]
                refine .of_barred spelled (near.trans (after.near_note _))
                  fun other record reaches => ?_
                obtain rfl := same reaches
                obtain rfl := Option.some.inj (held.symm.trans reaches.held)
                cases allowed.symm.trans reaches.allowed
            | false =>
                simp only [allowed, Bool.false_eq_true, if_false]
                have identifies : Identifies ctx data message source account after :=
                  ⟨spelled, ⟨known, admitted, acts.mp rfl, held, allowed⟩, near, authc, authz⟩
                split
                · next right => exact .accepted identifies (checkPassword_iff_matches.mp right)
                · next wrong => exact .failed identifies (mt checkPassword_iff_matches.mpr wrong)

/-- What becomes of a message, if it is not known before whom the client acts as. -/
theorem outcome_step (unresolved : ctx.session.authz = none) (data : Bytes) :
    Outcome ctx data (step ctx data) := by
  cases parsed : parse data with
  | none =>
      simp only [step, parsed]
      refine .refused (ctx.near_note _) fun message _ _ spelled _ => ?_
      cases parsed.symm.trans (parse_iff_spells.mpr spelled)
  | some message =>
      have spelled := parse_iff_spells.mp parsed
      by_cases entered : ∃ source,
          AccountDirectory.findByName ctx.accounts message.authcid = some source ∧
            AccountDirectory.admission ctx.accounts source = .allow
      · obtain ⟨source, known, admitted⟩ := entered
        exact outcome_of_admitted spelled known admitted
      · obtain ⟨after, resolved, near⟩ := Context.resolveAuthcid_of_none unresolved
          fun source known admitted => entered ⟨source, known, admitted⟩
        simp only [step, parsed, resolved]
        exact .of_barred spelled (near.trans (after.near_note _)) fun source _ reaches =>
          entered ⟨source, reaches.known, reaches.admitted⟩

/-- PLAIN succeeds exactly on messages that follow the grammar, reach an account and bring its
password, fails exactly on those that bring another password or reach an account without one, and
refuses all others. Whoever is reached is who the client is from then on, and whom it names is whom
it acts as. The directory stays as it is. -/
theorem step_decides (unresolved : ctx.session.authz = none) (data : Bytes) :
    let result := step ctx data
    (result.1 = .success ↔ ∃ message source account, Spells data message ∧
      Reaches ctx.accounts message source account ∧
      Matches ctx.credentials account message.password) ∧
    (result.1 = .failure [] ↔ ∃ message source account, Spells data message ∧
      Reaches ctx.accounts message source account ∧
      ¬Matches ctx.credentials account message.password) ∧
    (result.1 = .refused [] ↔ ¬∃ message source account, Spells data message ∧
      Reaches ctx.accounts message source account) ∧
    (∀ message source account, Spells data message →
      Reaches ctx.accounts message source account →
      result.2.session =
        { ctx.session with
          authc := some source.identity
          authz := (message.otherName.bind (AccountDirectory.findByName ctx.accounts)).map
            Account.identity }) ∧
    result.2.accounts = ctx.accounts := by
  intro result
  have outcome : Outcome ctx data result := outcome_step unresolved data
  clear_value result
  cases outcome with
  | @accepted message source account after identifies right =>
      have reached : ∃ message source account, Spells data message ∧
          Reaches ctx.accounts message source account :=
        ⟨message, source, account, identifies.spelled, identifies.reaches⟩
      refine ⟨iff_of_true rfl ⟨message, source, account, identifies.spelled, identifies.reaches,
        right⟩, iff_of_false nofun ?_, iff_of_false nofun (not_not_intro reached), ?_,
        identifies.near.accounts⟩
      · rintro ⟨other, another, record, spelled, reaches, wrong⟩
        obtain ⟨rfl, rfl, rfl⟩ := identifies.unique spelled reaches
        exact wrong right
      · intro other another record spelled reaches
        obtain ⟨rfl, rfl, rfl⟩ := identifies.unique spelled reaches
        exact identifies.session unresolved
  | @failed message source account after identifies wrong =>
      have reached : ∃ message source account, Spells data message ∧
          Reaches ctx.accounts message source account :=
        ⟨message, source, account, identifies.spelled, identifies.reaches⟩
      refine ⟨iff_of_false nofun ?_, iff_of_true rfl ⟨message, source, account,
        identifies.spelled, identifies.reaches, wrong⟩,
        iff_of_false nofun (not_not_intro reached), ?_, identifies.near.accounts⟩
      · rintro ⟨other, another, record, spelled, reaches, right⟩
        obtain ⟨rfl, rfl, rfl⟩ := identifies.unique spelled reaches
        exact wrong right
      · intro other another record spelled reaches
        obtain ⟨rfl, rfl, rfl⟩ := identifies.unique spelled reaches
        exact identifies.session unresolved
  | refused near barred =>
      refine ⟨iff_of_false nofun ?_, iff_of_false nofun ?_, iff_of_true rfl ?_, ?_, near.accounts⟩
      · exact fun ⟨_, _, _, spelled, reaches, _⟩ => barred _ _ _ spelled reaches
      · exact fun ⟨_, _, _, spelled, reaches, _⟩ => barred _ _ _ spelled reaches
      · exact fun ⟨_, _, _, spelled, reaches⟩ => barred _ _ _ spelled reaches
      · exact fun _ _ _ spelled reaches => absurd reaches (barred _ _ _ spelled)

end

/-! ## A hash and a stored password -/

/-- An account that has the hash of `pencil`. -/
def hashedAccount : Account where
  id := ⟨1⟩
  name := "alice"
  password := some <| "$z$64$1$c2FsdHNhbHQ=$6GHYhU6KZhrhCThvIYGL0tr6Yxg=$" ++
    "3JqGfchNtmJPo6wb8v7AUZMQqXk="
  crypt := true

/-- An account whose password is stored as it is. -/
def textAccount : Account where
  id := ⟨2⟩
  name := "bob"
  password := some "sesame"

/-- A directory with both. -/
def storedAccounts : MemoryDirectory where
  accounts := ⟨[(⟨1⟩, hashedAccount), (⟨2⟩, textAccount)], by decide⟩
  names := (Table.empty.insert "alice" ⟨1⟩).insert "bob" ⟨2⟩
  nextNumber := 3

/-- What PLAIN has at hand for a client that is not known yet. -/
def storedContext : Context MemoryDirectory PasswordHasher where
  session := { info := { uid := "U1", server := "hub" } }
  accounts := storedAccounts
  credentials := ⟨{}⟩
  registry := {}
  env := { entropy := .arithmetic 0 [] }

set_option maxRecDepth 100000 in
/-- The client of `alice` may act as `bob`, with its own password and not with that of `bob`. -/
theorem step_decides_stored :
    (step storedContext (Message.bytes ⟨"bob", "alice", Bytes.ofString "pencil"⟩)).1 = .success ∧
      (step storedContext (Message.bytes ⟨"bob", "alice", Bytes.ofString "pencil"⟩)).2.session =
        { storedContext.session with
          authc := some hashedAccount.identity, authz := some textAccount.identity } ∧
      (step storedContext (Message.bytes ⟨"bob", "alice", Bytes.ofString "sesame"⟩)).1 =
        .failure [] ∧
      (step storedContext (Message.bytes ⟨"", "bob", Bytes.ofString "sesame"⟩)).1 =
        .success := by
  have alice : storedAccounts.findName? "alice" = some hashedAccount := by decide +kernel
  have bob : storedAccounts.findName? "bob" = some textAccount := by decide +kernel
  have first (password : Bytes) :
      Reaches storedAccounts ⟨"bob", "alice", password⟩ hashedAccount hashedAccount := by
    refine ⟨alice, by decide +kernel, ?_, by decide +kernel, rfl⟩
    rintro name ⟨⟩
    exact ⟨textAccount, bob, .inr (by decide +kernel)⟩
  have second (password : Bytes) :
      Reaches storedAccounts ⟨"", "bob", password⟩ textAccount textAccount :=
    ⟨bob, by decide +kernel, nofun, by decide +kernel, rfl⟩
  have hashed : CredentialStore.verify storedContext.credentials (Bytes.ofString "pencil")
      (hashedAccount.password.getD "") = true := by decide +kernel
  have other : CredentialStore.verify storedContext.credentials (Bytes.ofString "sesame")
      (hashedAccount.password.getD "") = false := by decide +kernel
  have unresolved : storedContext.session.authz = none := rfl
  obtain ⟨accepts, -, -, identifies, -⟩ := step_decides unresolved
    (Message.bytes ⟨"bob", "alice", Bytes.ofString "pencil"⟩)
  obtain ⟨-, fails, -⟩ := step_decides unresolved
    (Message.bytes ⟨"bob", "alice", Bytes.ofString "sesame"⟩)
  obtain ⟨acceptsText, -⟩ := step_decides unresolved
    (Message.bytes ⟨"", "bob", Bytes.ofString "sesame"⟩)
  have spelled : Spells (Message.bytes ⟨"bob", "alice", Bytes.ofString "pencil"⟩) _ :=
    ⟨rfl, by decide +kernel, by decide, by decide, by decide, by decide⟩
  refine ⟨accepts.mpr ⟨_, _, _, spelled, first _, _, rfl, .inl ⟨rfl, hashed⟩⟩, ?_,
    fails.mpr ⟨_, _, _, ⟨rfl, by decide +kernel, by decide, by decide, by decide, by decide⟩,
      first _, ?_⟩,
    acceptsText.mpr ⟨_, _, _, ⟨rfl, by decide +kernel, by decide, by decide, by decide, by decide⟩,
      second _, _, rfl, .inr ⟨rfl, rfl⟩⟩⟩
  · rw [identifies _ _ _ spelled (first _)]
    have acts : (Message.otherName ⟨"bob", "alice", Bytes.ofString "pencil"⟩).bind
        (AccountDirectory.findByName storedContext.accounts) = some textAccount := bob
    rw [acts]
    rfl
  · rintro ⟨stored, ⟨⟩, ⟨-, right⟩ | ⟨absurd, -⟩⟩
    · cases other.symm.trans right
    · cases absurd

end IrcSasl.Plain
