import IrcSasl.Proofs.Account.Operations
import IrcSasl.Proofs.Credential.RoundTrip
import IrcSasl.Proofs.Engine.Receive
import IrcSasl.Proofs.Scram.Client

set_option autoImplicit false

/-!
# Completeness of SCRAM

A client that knows the password of an account is logged in by SCRAM, hears the signature that it
expects, and leaves the account with a hash of the native layout (`login_of_client`). The engine
asks once more at the end whether the account is admitted, as it is with the hash that it was left
with, and a hook that looks at the hash may then refuse what it admitted before
(`not_login_of_client_pinned`).
-/

namespace IrcSasl

variable {D C : Type} [AccountDirectory D] [CredentialStore C]

namespace Scram

/-! ## Steps that succeed -/

/-- An account can be entered by SCRAM with the credential in its stored hash. -/
structure Enrolled (accounts : D) (credentials : C) (account : Account) (credential : Credential) :
    Prop where
  live : AccountDirectory.findById accounts account.id = some account
  admitted : AccountDirectory.admission accounts account = .allow
  allowed : account.noPassword = false
  hashed : account.crypt = true
  extracted : account.password.bind (CredentialStore.extract credentials) = some credential

namespace Server

variable {server : Server} {ctx : Context D C} {account : Account} {credential : Credential}

/-- A client that says to be an account that it can enter is given the credential of the account,
unless it cannot act as whom it names. -/
theorem credentialFor_of_enrolled {first : ClientFirst}
    (known : AccountDirectory.findByName ctx.accounts first.authcid = some account)
    (enrolled : Enrolled ctx.accounts ctx.credentials account credential)
    (digest : credential.digest = server.digest) {allowed : Bool} {after : Context D C}
    (resolved : (ctx.setAuthc account.identity).resolveOptionalAuthzid first.authzid =
      (allowed, after)) :
    server.credentialFor ctx first =
      (if allowed then .ok (credential, some account.id) else .error .authzidRefused, after) := by
  obtain ⟨_, _, same, near, -⟩ :=
    (ctx.setAuthc account.identity).resolveOptionalAuthzid_cases first.authzid
  cases resolved.symm.trans same
  have found : AccountDirectory.findById after.accounts account.id = some account := by
    rw [near.accounts]
    exact enrolled.live
  have extracted : account.password.bind (CredentialStore.extract after.credentials) =
      some credential := by
    rw [near.credentials]
    exact enrolled.extracted
  simp only [credentialFor, known, Context.resolveAuthcid_of_allow known enrolled.admitted,
    resolved]
  cases allowed with
  | false => rfl
  | true =>
      simp only [storedCredential, found, enrolled.allowed, enrolled.hashed, extracted, digest,
        Bool.not_true, Bool.false_eq_true, ne_eq, not_true_eq_false, if_false, if_true]

/-- The first message of such a client opens an exchange. -/
theorem clientFirst_of_enrolled (server : Server) (ctx : Context D C) {account : Account}
    {credential : Credential} {first : ClientFirst} {message serverNonce : Bytes}
    (parsed : ClientFirst.parse message = .ok first) (alone : first.authzid = none)
    (known : AccountDirectory.findByName ctx.accounts first.authcid = some account)
    (enrolled : Enrolled ctx.accounts ctx.credentials account credential)
    (digest : credential.digest = server.digest)
    (drawn : (ctx.env.entropy.fill Limits.nonceLengthRaw).1 = some serverNonce) :
    let exchange := Exchange.start first credential (some account.id) serverNonce
    ∃ after, server.clientFirst ctx message = (.more (Bytes.ofString exchange.serverFirst), after) ∧
      after.session =
        { ctx.session with
          authc := some account.identity, state := some (.scram exchange) } ∧
      after.accounts = ctx.accounts ∧ after.mechlist = ctx.mechlist := by
  let noted := ctx.noteScram (.parsed first.authcid first.authzid)
  have resolved : (noted.setAuthc account.identity).resolveOptionalAuthzid first.authzid =
      (true, noted.setAuthc account.identity) := by
    rw [alone]
    rfl
  have known : AccountDirectory.findByName noted.accounts first.authcid = some account := known
  have credited : server.credentialFor noted first =
      (.ok (credential, some account.id), noted.setAuthc account.identity) :=
    credentialFor_of_enrolled known enrolled digest resolved
  exact ⟨_, clientFirst_of_drawn parsed credited drawn, rfl, rfl, rfl⟩

end Server

omit [CredentialStore C] in
/-- A final message whose proof is accepted is answered with the signature of the server. -/
theorem clientFinal_of_accepts {ctx : Context D C} {exchange : Exchange} {message proof : Bytes}
    (clean : checkMessage message = .ok ()) (remains : accountRemains ctx.accounts exchange = true)
    (read : exchange.readProof message = .ok proof) (accepted : exchange.accepts proof = true) :
    clientFinal ctx exchange message =
      (.more (Bytes.ofString ("v=" ++ Base64.encodeText exchange.serverSignature)),
        (ctx.noteScram .authenticated).setState (.scram { exchange with complete := true })) := by
  simp only [clientFinal, clean, remains, read, accepted, Bool.not_true, Bool.false_eq_true,
    if_false, if_true]

omit [CredentialStore C] in
/-- The acknowledgement concludes the exchange of an account that is there, which then has a hash of
the native layout. -/
theorem acknowledge_of_rewrite (ctx : Context D C) {exchange : Exchange} {id : AccountId}
    {accounts : D} (owned : exchange.account = some id)
    (live : (AccountDirectory.findById ctx.accounts id).isSome = true)
    (stored : exchange.credential.native = true ∧ accounts = ctx.accounts ∨
      exchange.credential.native = false ∧
        AccountDirectory.rewrite ctx.accounts id exchange.upgraded.credential =
          (.ok true, accounts)) :
    ∃ after, acknowledge ctx exchange = (.success, after) ∧ after.accounts = accounts ∧
      after.session.authc = ctx.session.authc ∧ after.session.authz = ctx.session.authz ∧
      after.session.info = ctx.session.info ∧ after.mechlist = ctx.mechlist := by
  have remains : accountRemains ctx.accounts exchange = true := by
    simp only [accountRemains, owned, live]
  rcases stored with ⟨native, rfl⟩ | ⟨legacy, rewritten⟩
  · refine ⟨ctx, ?_, rfl, rfl, rfl, rfl, rfl⟩
    simp only [acknowledge, remains, owned, native, Bool.not_true, Bool.false_eq_true, if_false,
      if_true]
  · let noted := ctx.noteScram .converting
    have stored : noted.rewriteCredential id exchange.upgraded.credential =
        (.ok true, { noted with accounts }) := by
      unfold Context.rewriteCredential
      rw [show AccountDirectory.rewrite noted.accounts id exchange.upgraded.credential =
        (.ok true, accounts) from rewritten]
    refine ⟨((({ noted with accounts } : Context D C).noteScram .converted).setState
      (.scram exchange.upgraded)), ?_, rfl, rfl, rfl, rfl, rfl⟩
    simp only [acknowledge, remains, owned, legacy, Bool.not_true, Bool.false_eq_true, if_false]
    rw [stored]

/-! ## A conversation -/

/-- The data in a frame for a client, if it holds any. -/
def dataFor (id : String) : Outbound → Option String
  | .serverData session chunk => if session = id then some chunk else none
  | _ => none

/-- The message that a client hears in frames for it. -/
def hear (id : String) (frames : List Outbound) : Option Bytes :=
  (frames.mapM (dataFor id)).bind Frame.Decoder.fresh.assemble?

theorem mapM_dataFor (id : String) (frames : List String) :
    (frames.map (.serverData id)).mapM (dataFor id) = some frames := by
  induction frames with
  | nil => rfl
  | cons frame rest ih =>
      rw [List.map_cons, List.mapM_cons, ih]
      simp only [dataFor, if_true]
      rfl

/-- What a client hears is what was sent, if it is not too long. -/
theorem hear_ofMessage {message : Bytes} (id : String)
    (short : message.length ≤ Limits.bufferLengthRaw) :
    hear id ((Frame.ofMessage message).map (.serverData id)) = some message := by
  rw [hear, mapM_dataFor, Option.bind_some]
  exact Frame.Decoder.assemble?_ofMessage short

/-- What a client has heard from an engine, and the engine afterwards. -/
structure Conversation (D C : Type) where
  /-- The answer when the client asks for the mechanism. -/
  greeting : Bytes
  /-- What the client reads in the answer to its first message. -/
  challenge : Challenge
  /-- The answer to its final message. -/
  verifier : Bytes
  /-- The frames in answer to its acknowledgement. -/
  verdict : List Outbound
  /-- The engine afterwards. -/
  engine : Engine D C

/-- A client asks for the mechanism, sends its two messages in frames, and acknowledges. -/
def Client.converse (client : Client) (engine : Engine D C) (uplink id : String)
    (certfp : Option String) : Option (Conversation D C) := do
  let started := engine.handle uplink (.startAuth id client.digest.scramName certfp)
  let greeting ← hear id started.1
  let opened := started.2.receive uplink id client.first
  let challenge ← (hear id opened.1).bind client.readChallenge
  let proved := opened.2.receive uplink id (client.final challenge)
  let verifier ← hear id proved.1
  let concluded := proved.2.handle uplink (.clientData id "+")
  some ⟨greeting, challenge, verifier, concluded.1, concluded.2⟩

section

variable (client : Client) (authcid : String) (serverNonce : Bytes) (account : Option AccountId)
  {credential : Credential} {salt : Bytes} (digest : credential.digest = client.digest)

include digest

/-- The server reads the proof of a client in its final message. -/
theorem Client.readProof_final :
    let challenge := (client.transcript authcid serverNonce credential).told salt
    (Exchange.start (client.opening authcid) credential account serverNonce).readProof
      (client.final challenge) = .ok (client.proof challenge) := by
  intro challenge
  have value : Attributes.IsValue challenge.nonce :=
    client.isValue_nonce_transcript authcid serverNonce
  refine Exchange.readProof_eq_ok_iff.mpr ⟨_, client.parse_final value, ?_⟩
  refine Exchange.proofOf_eq_ok_iff.mpr ⟨rfl, ?_, ?_, _, rfl, Base64.decode?_encode _, ?_⟩
  · rw [Exchange.ofString_header64]
    rfl
  · rw [Exchange.ofString_nonce credential account serverNonce client.isNonce_nonce]
    rfl
  · rw [client.length_proof]
    exact congrArg Digest.outputLength digest.symm

variable (derived : credential.Of client.password salt)

include derived

/-- The server accepts the proof of a client that knows the password. -/
theorem Client.accepts_start_proof :
    (Exchange.start (client.opening authcid) credential account serverNonce).accepts
      (client.proof ((client.transcript authcid serverNonce credential).told salt)) = true := by
  rw [Exchange.accepts_start credential account serverNonce client.isNonce_nonce]
  exact client.accepts_proof authcid serverNonce digest derived

/-- The server answers with the signature that such a client expects. -/
theorem Client.ofString_verifier :
    let exchange := Exchange.start (client.opening authcid) credential account serverNonce
    Bytes.ofString ("v=" ++ Base64.encodeText exchange.serverSignature) =
      client.verifier ((client.transcript authcid serverNonce credential).told salt) := by
  intro exchange
  have signature : exchange.serverSignature =
      client.serverSignature ((client.transcript authcid serverNonce credential).told salt) := by
    rw [client.serverSignature_told authcid serverNonce digest derived, Exchange.serverSignature,
      Exchange.authMessage_start credential account serverNonce client.isNonce_nonce]
    exact congrArg (fun digest => Digest.hmac digest _ _) digest
  rw [Bytes.ofString_append, Base64.ofString_encodeText, signature]
  rfl

end

section

variable {engine : Engine D C} {id authcid : String} {registration : Registration}
  {session : Session} {server : Server} {account : Account} {credential : Credential}
  {serverNonce salt : Bytes} (client : Client) (uplink : String)

/-- The first message of a client opens an exchange for the account that it names. -/
theorem Client.opens (prepared : Text.prepareName client.name = some authcid)
    (listens : engine.Listens id registration session)
    (used : registration.mechanism = .scram server) (state : session.state = none)
    (unresolved : session.authz = none)
    (known : AccountDirectory.findByName engine.accounts authcid = some account)
    (enrolled : Enrolled engine.accounts engine.credentials account credential)
    (digest : credential.digest = server.digest)
    (drawn : (engine.env.entropy.fill Limits.nonceLengthRaw).1 = some serverNonce) :
    let exchange := Exchange.start (client.opening authcid) credential (some account.id) serverNonce
    let result := engine.receive uplink id client.first
    result.1 = (Frame.ofMessage (client.transcript authcid serverNonce credential).challenge).map
        (.serverData id) ∧
      result.2.accounts = engine.accounts ∧
      ∃ after, result.2.Listens id registration after ∧ after.state = some (.scram exchange) ∧
        after.authc = some account.identity ∧ after.authz = none := by
  intro exchange result
  have short : client.first.length ≤ Limits.bufferLengthRaw :=
    Nat.le_trans client.length_first (by decide)
  let ctx := engine.context session.unmarked
  have parsed := client.parse_first prepared
  obtain ⟨after, stepped, sessionAfter, accounts, quiet⟩ :=
    server.clientFirst_of_enrolled ctx parsed rfl known enrolled digest drawn
  have step : registration.step ctx client.first =
      (.more (client.transcript authcid serverNonce credential).challenge, after) := by
    have challenge : Bytes.ofString exchange.serverFirst =
        (client.transcript authcid serverNonce credential).challenge :=
      Exchange.ofString_serverFirst credential (some account.id) serverNonce client.isNonce_nonce
    have fresh : ctx.session.state = none := state
    rw [challenge] at stepped
    rw [Registration.step, used]
    simp only [Server.step, fresh]
    exact stepped
  obtain ⟨frames, accountsAfter, -, listensAfter⟩ := listens.more uplink short step quiet
  refine ⟨frames, accountsAfter.trans accounts, after.session, listensAfter, ?_, ?_, ?_⟩
  · rw [sessionAfter]
  · rw [sessionAfter]
  · rw [sessionAfter]
    exact unresolved

/-- The final message of a client that knows the password is answered with the signature that the
client expects. -/
theorem Client.proves (listens : engine.Listens id registration session)
    (used : registration.mechanism = .scram server)
    (opened : session.state = some (.scram
      (.start (client.opening authcid) credential (some account.id) serverNonce)))
    (live : (AccountDirectory.findById engine.accounts account.id).isSome = true)
    (digest : credential.digest = client.digest) (derived : credential.Of client.password salt)
    (width : serverNonce.length = Limits.nonceLengthRaw) :
    let exchange := Exchange.start (client.opening authcid) credential (some account.id) serverNonce
    let challenge := (client.transcript authcid serverNonce credential).told salt
    let result := engine.receive uplink id (client.final challenge)
    result.1 = (Frame.ofMessage (client.verifier challenge)).map (.serverData id) ∧
      result.2.accounts = engine.accounts ∧
      ∃ after, result.2.Listens id registration after ∧
        after.state = some (.scram { exchange with complete := true }) ∧
        after.authc = session.authc ∧ after.authz = session.authz := by
  intro exchange challenge result
  let ctx := engine.context session.unmarked
  have short : (client.final challenge).length ≤ Limits.bufferLengthRaw :=
    client.length_final (client.length_nonce_transcript authcid credential width)
  have clean : checkMessage (client.final challenge) = .ok () :=
    client.checkMessage_final (client.nul_not_mem_nonce_transcript authcid serverNonce)
  have remains : accountRemains ctx.accounts exchange = true := live
  have final := clientFinal_of_accepts clean remains
    (client.readProof_final authcid serverNonce (some account.id) digest)
    (client.accepts_start_proof authcid serverNonce (some account.id) digest derived)
  rw [client.ofString_verifier authcid serverNonce (some account.id) digest derived] at final
  have step : registration.step ctx (client.final challenge) =
      clientFinal ctx exchange (client.final challenge) :=
    (Registration.step_of_scram used ctx _).trans (Server.step_of_waits _ opened rfl _)
  obtain ⟨frames, accounts, -, listensAfter⟩ := listens.more uplink short (step.trans final) rfl
  exact ⟨frames, accounts, _, listensAfter, rfl, rfl, rfl⟩

end

/-! ## The acknowledgement -/

/-- A directory that differs at most in the stored hash of one account. -/
structure Upgraded (before after : MemoryDirectory) (account : Account) (left : String) :
    Prop where
  stored : after.find? account.id = some (account.rehashed left)
  maxLogins : after.maxLogins = before.maxLogins
  hooks : after.admissionHooks = before.admissionHooks

/-- To store the credential of an account leaves the account with the hash that is written for it.
-/
theorem rewrite_upgrades {directory : MemoryDirectory} {account : Account} {credential : Credential}
    {left : String} (live : directory.find? account.id = some account)
    (written : credential.encode = .ok left) :
    ∃ after, AccountDirectory.rewrite directory account.id { credential with native := true } =
        (.ok true, after) ∧ Upgraded directory after account left := by
  let after : MemoryDirectory :=
    { directory with accounts := directory.accounts.insert account.id (account.rehashed left) }
  refine ⟨after, ?_, ⟨Table.find?_insert_self .., rfl, rfl⟩⟩
  have stored : AccountDirectory.setPassword directory account.id left = (true, after) :=
    MemoryDirectory.setPassword_of_find? live left
  rw [AccountDirectory.rewrite, Credential.encode_native, written]
  simp only [stored]

/-- An acknowledged exchange leaves its account with the hash that is written for its credential: a
new one, or the hash that the account has. -/
theorem exists_upgraded {directory : MemoryDirectory} {account : Account} {hash left : String}
    {credential : Credential} (live : directory.find? account.id = some account)
    (hashed : account.crypt = true) (stored : account.password = some hash)
    (written : credential.encode = .ok left) (settled : credential.native = true → left = hash) :
    ∃ after, Upgraded directory after account left ∧
      (credential.native = true ∧ after = directory ∨
        credential.native = false ∧
          AccountDirectory.rewrite directory account.id { credential with native := true } =
            (.ok true, after)) := by
  cases native : credential.native with
  | true =>
      have same : account.rehashed left = account := by
        rw [settled native]
        exact Account.rehashed_self hashed stored
      exact ⟨directory, ⟨same.symm ▸ live, rfl, rfl⟩, .inl ⟨rfl, rfl⟩⟩
  | false =>
      obtain ⟨after, rewritten, upgraded⟩ := rewrite_upgrades live written
      exact ⟨after, upgraded, .inr ⟨rfl, rewritten⟩⟩

/-- The upgrade of a hash leaves the limit and the hooks, which decide who is admitted. -/
theorem Upgraded.admission {before after : MemoryDirectory} {account : Account} {left : String}
    (upgraded : Upgraded before after account left) (other : Account) :
    after.admission other = before.admission other := by
  rw [MemoryDirectory.admission, MemoryDirectory.admission, upgraded.maxLogins, upgraded.hooks]

/-- The account itself is granted to its client after the upgrade, if it is admitted as it is then.
-/
theorem Upgraded.granted {before after : MemoryDirectory} {account : Account} {left : String}
    (upgraded : Upgraded before after account left) :
    granted after (some account.id) none =
      if before.admission (account.rehashed left) = .allow then some (account.rehashed left)
      else none := by
  have found : AccountDirectory.findById after account.id = some (account.rehashed left) :=
    upgraded.stored
  have admission : AccountDirectory.admission after (account.rehashed left) =
      before.admission (account.rehashed left) := upgraded.admission _
  rw [IrcSasl.granted, Option.bind_some, found, Option.bind_some, Option.filter_some]
  simp only [permits, admission, decide_true, Bool.true_or, Bool.and_true, decide_eq_true_eq]

section

variable {engine : Engine MemoryDirectory PasswordHasher} {id : String} (uplink : String)
  {registration : Registration} {session : Session} {server : Server} {account : Account}
  {exchange : Exchange} {hash left : String}

/-- The acknowledgement of a client that has proved to know the password of an account leaves the
account with the hash that is written for the credential, and logs the client in if the account is
admitted with that hash. -/
theorem login_of_acknowledge (listens : engine.Listens id registration session)
    (used : registration.mechanism = .scram server)
    (proved : session.state = some (.scram exchange)) (complete : exchange.complete = true)
    (owned : exchange.account = some account.id) (authc : session.authc = some account.identity)
    (authz : session.authz = none) (live : engine.accounts.find? account.id = some account)
    (hashed : account.crypt = true) (stored : account.password = some hash)
    (written : exchange.credential.encode = .ok left)
    (settled : exchange.credential.native = true → left = hash) :
    let result := engine.handle uplink (.clientData id "+")
    (result.2.accounts.find? account.id).map Account.password = some (some left) ∧
      result.1 =
        if engine.accounts.admission (account.rehashed left) = .allow then
          [.login id account.name, .outcome id .success]
        else [.outcome id .failure] := by
  intro result
  let ctx := engine.context session.unmarked
  obtain ⟨accounts, upgraded, rewritten⟩ := exists_upgraded live hashed stored written settled
  have present : (AccountDirectory.findById ctx.accounts account.id).isSome = true :=
    Option.isSome_of_eq_some live
  obtain ⟨after, acknowledged, accountsAfter, authcAfter, authzAfter, info, quiet⟩ :=
    acknowledge_of_rewrite ctx owned present rewritten
  have stepped : registration.step ctx [] = (.success, after) := by
    rw [Registration.step, used, ← acknowledged]
    simp only [Server.step]
    have state : ctx.session.state = some (.scram exchange) := proved
    rw [state]
    exact if_pos complete
  have uid : after.session.info.uid = id := by
    rw [info]
    exact listens.keyed id session listens.found
  have decided : engine.decide ⟨session.unmarked, registration, []⟩ = (.success, after) := stepped
  have gives := listens.acknowledge_gives uplink
  rw [Engine.turn_of_quiet decided quiet] at gives
  have chosen : after.session.granted after.accounts =
      if engine.accounts.admission (account.rehashed left) = .allow then
        some (account.rehashed left)
      else none := by
    have nobody : ctx.session.authz = none := authz
    have somebody : ctx.session.authc = some account.identity := authc
    rw [Session.granted, authcAfter, authzAfter, nobody, somebody, accountsAfter]
    exact upgraded.granted
  constructor
  · have password : (after.accounts.find? account.id).map Account.password =
        some (some left) := by
      rw [accountsAfter, upgraded.stored]
      rfl
    rw [gives.accounts]
    rcases Reply.accounts_ofStep_success after.accounts after.env.entropy after.session
      registration.name with same | ⟨_, _, same⟩
    · rw [same]
      exact password
    · rw [same]
      exact (MemoryDirectory.password_login ..).trans password
  · rw [gives.frames, Reply.frames_ofStep_success, chosen, uid]
    by_cases allowed : engine.accounts.admission (account.rehashed left) = .allow
    · rw [if_pos allowed, if_pos allowed]
      rfl
    · rw [if_neg allowed, if_neg allowed]

end

/-- A client that knows the password of an account, whose stored hash is one of the password, and
that may enter the account, in an engine where nothing goes on in its session. -/
structure Client.Eligible (client : Client) (engine : Engine MemoryDirectory PasswordHasher)
    (id : String) (account : Account) (hash : String) : Prop where
  sound : ∃ offered, engine.Sound offered
  built : engine.accounts.Built
  idle : engine.Idle id
  registered : ∃ registration server,
    engine.registry.find? client.digest.scramName = some registration ∧
      registration.mechanism = .scram server
  known : engine.accounts.findName? client.name = some account
  stable : Text.Stable client.name
  admitted : engine.accounts.admission account = .allow
  allowed : account.noPassword = false
  hashed : account.crypt = true
  stored : account.password = some hash
  made : PasswordHasher.Hashed client.digest client.password hash
  drawn : (engine.env.entropy.fill Limits.nonceLengthRaw).1.isSome = true

/-- The server that is found under the name of a digest uses that digest. -/
theorem Server.digest_of_find? {registry : Registry} {digest : Digest} {registration : Registration}
    {server : Server} (registered : registry.find? digest.scramName = some registration)
    (used : registration.mechanism = .scram server) : server.digest = digest := by
  have name : registration.name = digest.scramName := by
    simpa using List.find?_some registered
  rw [Registration.name, used] at name
  exact Digest.scramName_inj.mp name

/-- An eligible client is challenged and hears the signature that it expects. The account is left
with the hash that its own is upgraded to, which keeps the same credential, and the client is logged
in if the account is admitted with that hash. -/
theorem Client.Eligible.converses {client : Client}
    {engine : Engine MemoryDirectory PasswordHasher} {id : String} {account : Account}
    {hash : String} (eligible : client.Eligible engine id account hash) (uplink : String)
    (certfp : Option String) :
    ∃ talk credential left, client.converse engine uplink id certfp = some talk ∧
      talk.greeting = [] ∧ talk.verifier = client.verifier talk.challenge ∧
      Credential.ofHash? hash = some credential ∧
      Credential.ofHash? left = some { credential with native := true } ∧
      Credential.upgrade? hash = some left ∧
      (talk.engine.accounts.find? account.id).map Account.password = some (some left) ∧
      talk.verdict =
        if engine.accounts.admission (account.rehashed left) = .allow then
          [.login id account.name, .outcome id .success]
        else [.outcome id .failure] := by
  obtain ⟨_, sound⟩ := eligible.sound
  obtain ⟨registration, server, registered, used⟩ := eligible.registered
  obtain ⟨authcid, prepared, found⟩ :=
    MemoryDirectory.findName?_prepared eligible.stable eligible.known
  obtain ⟨credential, salt, extracted, digest, derived, kept⟩ := eligible.made.extracted
  obtain ⟨left, written, read⟩ := derived.storable.upgrade
  obtain ⟨serverNonce, drawn⟩ := Option.isSome_iff_exists.mp eligible.drawn
  have live : engine.accounts.find? account.id = some account :=
    eligible.built.keyed.find?_of_findName? eligible.known
  have width : serverNonce.length = Limits.nonceLengthRaw :=
    Entropy.length_fill (Prod.ext drawn rfl)
  have settled (native : credential.native = true) : left = hash :=
    Except.ok.inj (written.symm.trans (kept native))
  have serverDigest : credential.digest = server.digest :=
    digest.trans (Server.digest_of_find? registered used).symm
  obtain ⟨session, fresh, unresolved, greeted, listens, accounts, credentials, entropy⟩ :=
    Engine.listens_of_startAuth sound uplink eligible.idle registered used certfp
  have enrolled : Enrolled engine.accounts engine.credentials account credential := by
    refine ⟨live, eligible.admitted, eligible.allowed, eligible.hashed, ?_⟩
    rw [eligible.stored]
    exact extracted
  rw [← accounts, ← credentials] at enrolled
  rw [← entropy] at drawn
  obtain ⟨challenged, accountsOpened, proving, listensOpened, opened, authc, authz⟩ :=
    client.opens uplink prepared listens used fresh unresolved (accounts.symm ▸ found)
      enrolled serverDigest drawn
  have accountsOpened := accountsOpened.trans accounts
  obtain ⟨verified, accountsProved, proven, listensProved, proved, sameAuthc, sameAuthz⟩ :=
    client.proves uplink listensOpened used opened
      (Option.isSome_of_eq_some (accountsOpened.symm ▸ live)) digest derived width
  have accountsProved := accountsProved.trans accountsOpened
  obtain ⟨password, verdict⟩ :=
    login_of_acknowledge uplink listensProved used proved rfl rfl
      (sameAuthc.trans authc) (sameAuthz.trans authz) (accountsProved.symm ▸ live) eligible.hashed
      eligible.stored written settled
  rw [accountsProved] at verdict
  have upgraded : Credential.upgrade? hash = some left := by
    rw [Credential.upgrade?, extracted, Option.bind_some, written]
    rfl
  have heardGreeting := hear_ofMessage id (by decide : ([] : Bytes).length ≤ _)
  have heardChallenge := hear_ofMessage id (client.length_challenge authcid width derived)
  have told := client.readChallenge_challenge authcid serverNonce derived
  let challenge := (client.transcript authcid serverNonce credential).told salt
  have heardVerifier := hear_ofMessage id (client.length_verifier challenge)
  rw [← greeted] at heardGreeting
  rw [← challenged] at heardChallenge
  rw [← verified] at heardVerifier
  refine ⟨⟨[], challenge, client.verifier challenge, _, _⟩, credential, left, ?_, rfl, rfl,
    extracted, read, upgraded, password, verdict⟩
  simp only [converse, heardGreeting, heardChallenge, told, heardVerifier, challenge,
    Option.bind_eq_bind, Option.bind_some]

end Scram

/-- A client that knows the password of an account, and finds its session without a negotiation or a
login that waits, is challenged, hears the signature that it expects, and is logged in. The account
is left with a hash of the native layout that keeps the same credential. If that is not the hash
that it had, the account has to be admitted with it too: the engine asks again at the end. -/
theorem login_of_client {engine : Engine MemoryDirectory PasswordHasher} {client : Scram.Client}
    {id : String} {account : Account} {hash : String}
    (eligible : client.Eligible engine id account hash)
    (readmitted : ∀ left, left ≠ hash → Credential.upgrade? hash = some left →
      engine.accounts.admission (account.rehashed left) = .allow)
    (uplink : String) (certfp : Option String) :
    ∃ talk, client.converse engine uplink id certfp = some talk ∧ talk.greeting = [] ∧
      talk.verifier = client.verifier talk.challenge ∧
      talk.verdict = [.login id account.name, .outcome id .success] ∧
      ∃ credential left, Credential.ofHash? hash = some credential ∧
        Credential.ofHash? left = some { credential with native := true } ∧
        (talk.engine.accounts.find? account.id).map Account.password = some (some left) := by
  obtain ⟨talk, credential, left, held, greeting, verifier, extracted, read, upgraded, password,
    verdict⟩ := eligible.converses uplink certfp
  have allowed : engine.accounts.admission (account.rehashed left) = .allow := by
    by_cases same : left = hash
    · rw [same, Account.rehashed_self eligible.hashed eligible.stored]
      exact eligible.admitted
    · exact readmitted left same upgraded
  exact ⟨talk, held, greeting, verifier, verdict.trans (if_pos allowed), credential, left,
    extracted, read, password⟩

/-! ## A client that knows a password -/

/-- A client that is `alice` and has `wonder` for a password. -/
def wonderClient : Scram.Client where
  digest := .sha1
  unbound := .unsupported
  name := "alice"
  password := Bytes.ofString "wonder"
  nonce := Bytes.ofString "abcdefgh"
  nameClean := by decide
  nameShort := by decide
  nonceLeast := by decide
  nonceMost := by decide
  noncePrintable := by decide +kernel

/-- The account of that client, which is registered without a password. -/
def wonderAccount : Account := { id := ⟨1⟩, name := "alice", password := none, crypt := false }

/-- A directory where that account has a stored hash. -/
def wonderAccounts (hash : String) : MemoryDirectory where
  accounts := Table.empty.insert ⟨1⟩ (wonderAccount.rehashed hash)
  names := Table.empty.insert "alice" ⟨1⟩
  nextNumber := 2

theorem key_wonderAccounts (hash : String) : (wonderAccounts hash).key "alice" = some "alice" :=
  (by decide +kernel : MemoryDirectory.key {} "alice" = some "alice")

theorem built_wonderAccounts (hash : String) : (wonderAccounts hash).Built := by
  let empty : MemoryDirectory := {}
  let filled : MemoryDirectory :=
    { empty with
      accounts := Table.empty.insert ⟨1⟩ wonderAccount
      names := Table.empty.insert "alice" ⟨1⟩
      nextNumber := 2 }
  have registered : empty.apply (.register "alice" none) = filled := by
    have key : empty.key "alice" = some "alice" := key_wonderAccounts hash
    rw [MemoryDirectory.apply, MemoryDirectory.register, key]
    rfl
  have built : filled.Built := registered ▸ (MemoryDirectory.Built.empty default).apply _ trivial
  exact built.apply (.setPassword ⟨1⟩ hash) trivial

/-- A server that checks passwords with SHA-1. -/
def wonderServer : Scram.Server :=
  { digest := .sha1, mockKey := [1, 2, 3], mockIterations := 1, mockSaltLength := 8 }

/-- An engine with a directory that offers SCRAM to that client. -/
def wonderEngine (accounts : MemoryDirectory) : Engine MemoryDirectory PasswordHasher :=
  let opened : Engine MemoryDirectory PasswordHasher :=
    { options := {}, accounts, credentials := ⟨{}⟩, env := { entropy := .arithmetic 0 [] } }
  opened.perform (.registered (.scram wonderServer))

theorem sound_wonderEngine (accounts : MemoryDirectory) :
    (wonderEngine accounts).Sound fun _ => True := by
  have created : Engine.create {} accounts (⟨{}⟩ : PasswordHasher) (.arithmetic 0 []) = .ok _ := rfl
  exact (Engine.Sound.create created).perform (.registered (.scram wonderServer)) trivial

/-- What makes hashes for that client. -/
def wonderHasher : PasswordHasher := ⟨{ digest := .sha1 }⟩

theorem create_wonderHasher : PasswordHasher.create { digest := .sha1 } = .ok wonderHasher := rfl

/-- That client may enter its account wherever the account is admitted and has a hash of the
password. -/
theorem eligible_wonderClient {accounts : MemoryDirectory} {hash : String}
    (built : accounts.Built)
    (known : accounts.findName? "alice" = some (wonderAccount.rehashed hash))
    (admitted : accounts.admission (wonderAccount.rehashed hash) = .allow)
    (made : PasswordHasher.Hashed .sha1 wonderClient.password hash) :
    wonderClient.Eligible (wonderEngine accounts) "U1" (wonderAccount.rehashed hash) hash where
  sound := ⟨_, sound_wonderEngine accounts⟩
  built := built
  idle := by
    intro session found
    cases found
  registered := ⟨_, wonderServer, rfl, rfl⟩
  known := known
  stable := Text.stable_of_plain (by decide)
  admitted := admitted
  allowed := rfl
  hashed := rfl
  stored := rfl
  made := made
  drawn := rfl

theorem findName?_wonderAccounts (hash : String) :
    (wonderAccounts hash).findName? "alice" = some (wonderAccount.rehashed hash) := by
  rw [MemoryDirectory.findName?, key_wonderAccounts]
  rfl

/-- The directory with a hook that admits the account only as long as that hash is stored. -/
def pinnedAccounts (hash : String) : MemoryDirectory :=
  (wonderAccounts hash).addAdmissionHook fun account =>
    if account.password = some hash then .allow else .deny "stored hash was changed"

theorem admission_pinnedAccounts (hash other : String) :
    (pinnedAccounts hash).admission (wonderAccount.rehashed other) = .allow ↔ other = hash := by
  have hook : (pinnedAccounts hash).admission (wonderAccount.rehashed other) =
      MemoryDirectory.firstRefusal (wonderAccount.rehashed other)
        (pinnedAccounts hash).admissionHooks := rfl
  rw [hook]
  by_cases same : other = hash <;>
    simp [pinnedAccounts, MemoryDirectory.addAdmissionHook, wonderAccounts,
      MemoryDirectory.firstRefusal, Account.rehashed, same]

/-- The hook lets that client enter its account at first. -/
theorem eligible_pinned {hash : String}
    (made : PasswordHasher.Hashed .sha1 wonderClient.password hash) :
    wonderClient.Eligible (wonderEngine (pinnedAccounts hash)) "U1" (wonderAccount.rehashed hash)
      hash :=
  eligible_wonderClient ((built_wonderAccounts hash).apply (.admissionHook _) trivial)
    (findName?_wonderAccounts hash) ((admission_pinnedAccounts hash hash).mpr rfl) made

/-- There are random bytes for a salt. -/
theorem exists_wonderSalt : ∃ salt,
    ((Entropy.arithmetic 0 []).fill ({ digest := .sha1 } : HashOptions).saltLength).1 = some salt :=
  ⟨_, rfl⟩

/-- That client is logged in where its account has a hash of the legacy layout and is admitted with
every hash, and where the account has a hash of the native layout and is admitted with no other
one. -/
theorem login_of_client_wonder :
    (∃ hash after talk,
      wonderHasher.cryptLegacy wonderClient.password (.arithmetic 0 []) = (.ok hash, after) ∧
      wonderClient.converse (wonderEngine (wonderAccounts hash)) "hub" "U1" none = some talk ∧
      talk.verifier = wonderClient.verifier talk.challenge ∧
      talk.verdict = [.login "U1" "alice", .outcome "U1" .success]) ∧
    ∃ hash after talk,
      wonderHasher.crypt wonderClient.password (.arithmetic 0 []) = (.ok hash, after) ∧
      wonderClient.converse (wonderEngine (pinnedAccounts hash)) "hub" "U1" none = some talk ∧
      talk.verifier = wonderClient.verifier talk.challenge ∧
      talk.verdict = [.login "U1" "alice", .outcome "U1" .success] := by
  obtain ⟨salt, drawn⟩ := exists_wonderSalt
  obtain ⟨native, legacy, -, madeNative, madeLegacy, -⟩ :=
    PasswordHasher.exists_both create_wonderHasher wonderClient.password drawn
  constructor
  · have eligible := eligible_wonderClient (built_wonderAccounts legacy)
      (findName?_wonderAccounts legacy) rfl (.legacy create_wonderHasher rfl madeLegacy)
    obtain ⟨talk, held, -, verifier, verdict, -⟩ :=
      login_of_client eligible (fun _ _ _ => rfl) "hub" none
    exact ⟨legacy, _, talk, madeLegacy, held, verifier, verdict⟩
  · have unchanged (left : String) (other : left ≠ native)
        (upgraded : Credential.upgrade? native = some left) :
        (pinnedAccounts native).admission (wonderAccount.rehashed left) = .allow := by
      obtain ⟨credential, _, read, -, -, -, -, written⟩ :=
        PasswordHasher.extracted_of_crypt create_wonderHasher madeNative
      rw [Credential.upgrade?, read, Option.bind_some, written] at upgraded
      exact absurd (Option.some.inj upgraded).symm other
    obtain ⟨talk, held, -, verifier, verdict, -⟩ :=
      login_of_client (eligible_pinned (.native create_wonderHasher rfl madeNative)) unchanged
        "hub" none
    exact ⟨native, _, talk, madeNative, held, verifier, verdict⟩

/-- A hash of the legacy layout is replaced, so that such a hook refuses the account at the end
which it has admitted at first: the client hears the signature that it expects and is not logged in.
-/
theorem not_login_of_client_pinned :
    ∃ hash after talk,
      wonderHasher.cryptLegacy wonderClient.password (.arithmetic 0 []) = (.ok hash, after) ∧
      wonderClient.Eligible (wonderEngine (pinnedAccounts hash)) "U1"
        (wonderAccount.rehashed hash) hash ∧
      wonderClient.converse (wonderEngine (pinnedAccounts hash)) "hub" "U1" none = some talk ∧
      talk.verifier = wonderClient.verifier talk.challenge ∧
      talk.verdict = [.outcome "U1" .failure] := by
  obtain ⟨salt, drawn⟩ := exists_wonderSalt
  obtain ⟨-, hash, credential, -, made, -, -, legacy, -, extracted, -⟩ :=
    PasswordHasher.exists_both create_wonderHasher wonderClient.password drawn
  have eligible := eligible_pinned (.legacy create_wonderHasher rfl made)
  obtain ⟨talk, same, left, held, -, verifier, again, read, -, -, verdict⟩ :=
    eligible.converses "hub" none
  have other : left ≠ hash := by
    rintro rfl
    cases extracted.symm.trans again
    have layouts := congrArg (Option.map Credential.native) (extracted.symm.trans read)
    rw [Option.map_some, Option.map_some, legacy] at layouts
    cases layouts
  refine ⟨hash, _, talk, made, eligible, held, verifier, verdict.trans (if_neg ?_)⟩
  exact fun allowed => other ((admission_pinnedAccounts hash left).mp allowed)

end IrcSasl
