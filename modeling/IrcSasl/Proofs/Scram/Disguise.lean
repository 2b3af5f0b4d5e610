import IrcSasl.Proofs.Scram.Completeness
import IrcSasl.Proofs.Scram.Decoy

set_option autoImplicit false

/-!
# Whether an account is there

A made-up credential is to keep a client from finding out whether there is an account of some name.
The same first message is put to two engines that differ in one account, which the message names.
Unless the message also names somebody whom the account cannot act as, the client sees the same
until it has proved that it knows the password (`Engine.disguised_iff`). If it does, then only the
engine that has the account looks at that name, and refuses the message at once.
-/

namespace IrcSasl

/-- A frame without the data that it carries. -/
def Outbound.masked : Outbound → Outbound
  | .serverData session _ => .serverData session ""
  | frame => frame

namespace Scram

/-- Challenges that differ only in the bytes of the salt come in as many frames. -/
theorem map_masked_challengeFrames {salt other : Bytes} (width : salt.length = other.length)
    (id : String) (nonce : Bytes) (iterations : UInt32) :
    (challengeFrames id nonce salt iterations).map Outbound.masked =
      (challengeFrames id nonce other iterations).map Outbound.masked := by
  have blank (bytes : Bytes) :
      ((Frame.ofMessage bytes).map (.serverData id)).map Outbound.masked =
        List.replicate (Frame.ofMessage bytes).length (.serverData id "") := by
    rw [List.map_map, List.eq_replicate_iff]
    refine ⟨List.length_map _, ?_⟩
    intro frame member
    obtain ⟨chunk, -, rfl⟩ := List.mem_map.mp member
    rfl
  rw [challengeFrames, challengeFrames, blank, blank, Frame.length_ofMessage,
    Frame.length_ofMessage, length_challengeText width]

/-! ## Final messages -/

/-- The frames in answer to a final message, as long as its account is there. -/
def judgement (id : String) (exchange : Exchange) (final : Bytes) : List Outbound :=
  match checkMessage final with
  | .error fault => rejection id fault.token
  | .ok () =>
      match exchange.readProof final with
      | .error fault => rejection id fault.token
      | .ok proof =>
          if exchange.accepts proof then
            (Frame.ofMessage (Bytes.ofString
              ("v=" ++ Base64.encodeText exchange.serverSignature))).map (.serverData id)
          else rejection id "invalid-proof"

/-- Two exchanges answer a final message alike unless its proof decides: both reject it with one
token, or both check one proof, and reject it with one token if it is wrong. -/
inductive JudgedAlike (id : String) (made stored : Exchange) (final : Bytes)
    (frames others : List Outbound) : Prop where
  | refused (token : String) (same : frames = rejection id token)
      (sameOthers : others = rejection id token)
  | checked (proof : Bytes) (read : made.readProof final = .ok proof)
      (readOther : stored.readProof final = .ok proof)
      (wrong : made.accepts proof = false → frames = rejection id "invalid-proof")
      (wrongOther : stored.accepts proof = false → others = rejection id "invalid-proof")

/-- Exchanges that the same messages have opened look at a final message alike, whatever their
credentials are. -/
theorem judgedAlike_start (id : String) (first : ClientFirst) (serverNonce : Bytes)
    {credential other : Credential} (digest : credential.digest = other.digest)
    (account otherAccount : Option AccountId) (final : Bytes) :
    let made := Exchange.start first credential account serverNonce
    let stored := Exchange.start first other otherAccount serverNonce
    JudgedAlike id made stored final (judgement id made final) (judgement id stored final) := by
  intro made stored
  have same : made.readProof final = stored.readProof final := by
    have digest : made.digest = stored.digest := digest
    have nonce : made.nonce = stored.nonce := rfl
    have header64 : made.header64 = stored.header64 := rfl
    simp only [Exchange.readProof, Exchange.proofOf, nonce, header64, digest]
  cases clean : checkMessage final with
  | error fault =>
      refine .refused fault.token ?_ ?_
      · simp only [judgement, clean]
      · simp only [judgement, clean]
  | ok _ =>
      cases read : stored.readProof final with
      | error fault =>
          refine .refused fault.token ?_ ?_
          · simp only [judgement, clean, same, read]
          · simp only [judgement, clean, read]
      | ok proof =>
          refine .checked proof (same.trans read) read ?_ ?_
          · intro wrong
            simp only [judgement, clean, same, read, wrong, Bool.false_eq_true, if_false]
          · intro wrong
            simp only [judgement, clean, read, wrong, Bool.false_eq_true, if_false]

end Scram

namespace Engine

section

variable {D C : Type} [AccountDirectory D] [CredentialStore C] {engine : Engine D C} {id : String}
  {server : Scram.Server} {session : Session}

/-- A message in an exchange whose account is there is answered as a final message is. -/
theorem Serves.judges (serves : engine.Serves id server session) (uplink : String)
    {frames : List String} {final : Bytes}
    (whole : session.decoder.assemble? frames = some final) {exchange : Scram.Exchange}
    (proving : session.state = some (.scram exchange)) (incomplete : exchange.complete = false)
    (remains : Scram.accountRemains engine.accounts exchange = true) :
    (engine.handleAll uplink (frames.map (.clientData id))).1 =
      Scram.judgement id exchange final := by
  let ctx := engine.context (fed session)
  have remains : Scram.accountRemains ctx.accounts exchange = true := remains
  have stepped : server.step ctx final = Scram.clientFinal ctx exchange final := by
    have state : ctx.session.state = some (.scram exchange) := proving
    rw [Scram.Server.step, state]
    simp only [incomplete, Bool.false_eq_true, if_false]
  unfold Scram.judgement
  cases clean : Scram.checkMessage final with
  | error fault =>
      have rejected : Scram.clientFinal ctx exchange final = Scram.refuse ctx fault := by
        simp only [Scram.clientFinal, clean]
      exact serves.rejects uplink whole (stepped.trans rejected) rfl (.inl rfl)
  | ok _ =>
      cases read : exchange.readProof final with
      | error fault =>
          have rejected : Scram.clientFinal ctx exchange final = Scram.refuse ctx fault := by
            simp only [Scram.clientFinal, clean, remains, read, Bool.not_true, Bool.false_eq_true,
              if_false]
          exact serves.rejects uplink whole (stepped.trans rejected) rfl (.inl rfl)
      | ok proof =>
          simp only
          cases accepted : exchange.accepts proof with
          | false =>
              have rejected : Scram.clientFinal ctx exchange final =
                  (.failure (Scram.errorReply "invalid-proof"),
                    ctx.noteScram .proofMismatch) := by
                simp only [Scram.clientFinal, clean, remains, read, accepted, Bool.not_true,
                  Bool.false_eq_true, if_false]
              exact serves.rejects uplink whole (stepped.trans rejected) rfl (.inr rfl)
          | true =>
              have verified := Scram.clientFinal_of_accepts clean remains read accepted
              exact (serves.answers uplink whole (stepped.trans verified) rfl).1

end

/-! ## First messages -/

section

variable {D : Type} [AccountDirectory D]

/-- An account that may be logged into with a password, and has a new hash of one. -/
structure Joins (accounts : D) (options : HashOptions) (account : Account) : Prop where
  live : AccountDirectory.findById accounts account.id = some account
  admitted : AccountDirectory.admission accounts account = .allow
  allowed : account.noPassword = false
  hashed : account.crypt = true
  made : ∃ hasher password entropy hash after, PasswordHasher.create options = .ok hasher ∧
    hasher.crypt password entropy = (.ok hash, after) ∧ account.password = some hash

/-- Such an account can be entered by SCRAM, with the parameters of its hash. -/
theorem Joins.enrolled {accounts : D} {options : HashOptions} {account : Account}
    (joins : Joins accounts options account) (hasher : PasswordHasher) :
    ∃ credential salt, Scram.Enrolled accounts hasher account credential ∧
      credential.digest = options.digest ∧ credential.iterations = options.iterations ∧
      credential.salt64 = Base64.encodeText salt ∧ salt.length = options.saltLength := by
  obtain ⟨_, _, _, hash, _, created, made, stored⟩ := joins.made
  obtain ⟨credential, salt, read, digest, iterations, width, derived, -⟩ :=
    PasswordHasher.extracted_of_crypt created made
  refine ⟨credential, salt, ⟨joins.live, joins.admitted, joins.allowed, joins.hashed, ?_⟩, digest,
    iterations, derived.salt64, width⟩
  rw [stored]
  exact read

/-- Two results of the first message of a client that look alike to it, also after its final
message: both are the same rejection, or both are challenges that differ only in the bytes of the
salt. -/
inductive Disguised (id uplink : String) (decoder : Frame.Decoder)
    (result other : List Outbound × Engine D PasswordHasher) : Prop where
  | rejected (token : String) (same : result.1 = Scram.rejection id token)
      (sameOther : other.1 = Scram.rejection id token)
  | challenged (nonce salt otherSalt : Bytes) (iterations : UInt32)
      (width : salt.length = otherSalt.length)
      (sent : result.1 = Scram.challengeFrames id nonce salt iterations)
      (sentOther : other.1 = Scram.challengeFrames id nonce otherSalt iterations)
      (made stored : Scram.Exchange)
      (state : (result.2.sessions.find? id).bind Session.state = some (.scram made))
      (stateOther : (other.2.sessions.find? id).bind Session.state = some (.scram stored))
      (judged : ∀ finals final, decoder.assemble? finals = some final →
        Scram.JudgedAlike id made stored final
          (result.2.handleAll uplink (finals.map (.clientData id))).1
          (other.2.handleAll uplink (finals.map (.clientData id))).1)

/-- The same engine with other accounts. -/
def withAccounts (engine : Engine D PasswordHasher) (accounts : D) : Engine D PasswordHasher :=
  { engine with accounts }

omit [AccountDirectory D] in
theorem Serves.withAccounts {engine : Engine D PasswordHasher} {id : String} {server : Scram.Server}
    {session : Session} (serves : engine.Serves id server session) (accounts : D) :
    (engine.withAccounts accounts).Serves id server session := by
  obtain ⟨registration, scram, handles⟩ := serves
  exact ⟨registration, scram, handles.keyed, handles.found, handles.selected⟩

/-- A message gives away that its account is there: it also names somebody whom that account cannot
act as, and there are random bytes for a challenge. -/
def Exposed (engine : Engine D PasswordHasher) (accounts : D) (account : Account)
    (message : Bytes) : Prop :=
  ∃ first, Scram.ClientFirst.parse message = .ok first ∧ ¬Admits accounts account first.authzid ∧
    (engine.env.entropy.fill Limits.nonceLengthRaw).1.isSome = true

variable {engine : Engine D PasswordHasher} {id : String} {server : Scram.Server}
  {session : Session} {accounts : D} {options : HashOptions} {account : Account} {message : Bytes}
  {first : Scram.ClientFirst}

/-- What there is for a client that says to be an account that it can enter: the credential of the
account, unless the client cannot act as whom it names. -/
theorem Joins.credited (joins : Joins accounts options account)
    (made : server.MadeFor options) (ctx : Context D PasswordHasher)
    (there : ctx.accounts = accounts)
    (known : AccountDirectory.findByName accounts first.authcid = some account) :
    ∃ credential salt, credential.digest = server.digest ∧
      credential.iterations = server.mockIterations ∧
      credential.salt64 = Base64.encodeText salt ∧ salt.length = server.mockSaltLength ∧
      ∃ allowed middle, server.credentialFor ctx first =
          (if allowed then .ok (credential, some account.id) else .error .authzidRefused, middle) ∧
        ctx.Near middle ∧ (allowed = true ↔ Admits accounts account first.authzid) := by
  subst there
  obtain ⟨credential, salt, enrolled, digest, iterations, salted, width⟩ :=
    joins.enrolled ctx.credentials
  have digest : credential.digest = server.digest := digest.trans made.digest.symm
  refine ⟨credential, salt, digest, iterations.trans made.iterations.symm, salted,
    width.trans made.saltLength.symm, ?_⟩
  obtain ⟨allowed, middle, resolved, near, -⟩ :=
    (ctx.setAuthc account.identity).resolveOptionalAuthzid_cases first.authzid
  refine ⟨allowed, middle,
    Scram.Server.credentialFor_of_enrolled known enrolled digest resolved, ?_, ?_⟩
  · exact ⟨near.session, near.accounts, near.credentials, near.registry, near.mechlist,
      near.entropy⟩
  · have admits := Context.resolveOptionalAuthzid_iff
      (rfl : (ctx.setAuthc account.identity).session.authc = some account.identity) first.authzid
    rw [resolved] at admits
    exact admits

/-- No challenge looks like a rejection, which ends the negotiation. -/
theorem masked_challengeFrames_ne (nonce salt : Bytes) (iterations : UInt32) (token : String) :
    (Scram.challengeFrames id nonce salt iterations).map Outbound.masked ≠
      (Scram.rejection id token).map Outbound.masked := by
  intro same
  -- A rejection ends with an outcome, and a challenge is data only.
  have ended : Outbound.outcome id .failure ∈ (Scram.rejection id token).map Outbound.masked :=
    List.mem_map.mpr ⟨_, List.mem_append_right _ (List.mem_singleton.mpr rfl), rfl⟩
  rw [← same, Scram.challengeFrames, List.map_map] at ended
  obtain ⟨chunk, -, absurd⟩ := List.mem_map.mp ended
  cases absurd

variable (serves : engine.Serves id server session) (opening : session.state = none)
  (made : server.MadeFor options) (joins : Joins accounts options account) (uplink : String)
  {frames : List String} (whole : session.decoder.assemble? frames = some message)
  (parsed : Scram.ClientFirst.parse message = .ok first)
  (unknown : AccountDirectory.findByName engine.accounts first.authcid = none)
  (known : AccountDirectory.findByName accounts first.authcid = some account)

include serves opening made joins whole parsed unknown known

/-- A message that gives its account away is answered with a challenge where the account is not
there, and refused where it is. -/
theorem exposes (refused : ¬Admits accounts account first.authzid) {serverNonce : Bytes}
    (drawn : (engine.env.entropy.fill Limits.nonceLengthRaw).1 = some serverNonce) :
    (∃ nonce salt iterations, (engine.handleAll uplink (frames.map (.clientData id))).1 =
        Scram.challengeFrames id nonce salt iterations) ∧
      ((engine.withAccounts accounts).handleAll uplink (frames.map (.clientData id))).1 =
        Scram.rejection id "other-error" := by
  have credited := server.credentialFor_of_unknown
    ((engine.context (fed session)).noteScram (.parsed first.authcid first.authzid)) unknown
  obtain ⟨sent, -⟩ := serves.opens uplink whole opening parsed credited rfl rfl drawn
  refine ⟨⟨_, _, _, sent⟩, ?_⟩
  obtain ⟨_, _, -, -, -, -, allowed, middle, credited, near, admits⟩ :=
    joins.credited made (((engine.withAccounts accounts).context (fed session)).noteScram
      (.parsed first.authcid first.authzid)) rfl known
  cases allowed with
  | true => exact absurd (admits.mp rfl) refused
  | false =>
      have refused := (serves.withAccounts accounts).refuses uplink whole opening
        (Scram.Server.clientFirst_of_fault parsed credited) near.mechlist
      exact refused

/-- Without random bytes a message is refused with the same token, whether the account is there or
not. -/
theorem disguised_of_undrawn
    (drawn : (engine.env.entropy.fill Limits.nonceLengthRaw).1 = none) :
    Disguised id uplink session.decoder.clear
      (engine.handleAll uplink (frames.map (.clientData id)))
      ((engine.withAccounts accounts).handleAll uplink (frames.map (.clientData id))) := by
  have servesOther := serves.withAccounts accounts
  refine .rejected "other-error" ?_ ?_
  · have credited := server.credentialFor_of_unknown
      ((engine.context (fed session)).noteScram (.parsed first.authcid first.authzid)) unknown
    have refused := serves.refuses uplink whole opening
      (Scram.Server.clientFirst_of_undrawn parsed credited drawn) rfl
    exact refused
  · obtain ⟨_, _, -, -, -, -, allowed, middle, credited, near, -⟩ :=
      joins.credited made (((engine.withAccounts accounts).context (fed session)).noteScram
        (.parsed first.authcid first.authzid)) rfl known
    have quiet : middle.mechlist = none := near.mechlist
    have entropy : middle.env.entropy = engine.env.entropy := near.entropy
    rw [← entropy] at drawn
    -- Which check comes first does not matter: both faults have one token.
    cases allowed with
    | false =>
        have refused := servesOther.refuses uplink whole opening
          (Scram.Server.clientFirst_of_fault parsed credited) quiet
        exact refused
    | true =>
        have refused := servesOther.refuses uplink whole opening
          (Scram.Server.clientFirst_of_undrawn parsed credited drawn) quiet
        exact refused

/-- A message that only names whom its account can act as is challenged, whether the account is
there or not, and the final message after it is looked at alike. -/
theorem disguised_of_admits (admitted : Admits accounts account first.authzid)
    {serverNonce : Bytes}
    (drawn : (engine.env.entropy.fill Limits.nonceLengthRaw).1 = some serverNonce) :
    Disguised id uplink session.decoder.clear
      (engine.handleAll uplink (frames.map (.clientData id)))
      ((engine.withAccounts accounts).handleAll uplink (frames.map (.clientData id))) := by
  have servesOther := serves.withAccounts accounts
  have credited := server.credentialFor_of_unknown
    ((engine.context (fed session)).noteScram (.parsed first.authcid first.authzid)) unknown
  obtain ⟨credential, salt, digest, iterations, salted, width, allowed, middle, creditedOther, near,
    admits⟩ := joins.credited made (((engine.withAccounts accounts).context (fed session)).noteScram
      (.parsed first.authcid first.authzid)) rfl known
  have entropy : middle.env.entropy = engine.env.entropy := near.entropy
  have same : middle.accounts = accounts := near.accounts
  cases admits.mpr admitted
  -- Looking an account up draws nothing, so both engines draw the same nonce.
  obtain ⟨sent, -, after, servesAfter, decoder, state⟩ :=
    serves.opens uplink whole opening parsed credited rfl rfl drawn
  rw [← entropy] at drawn
  obtain ⟨sentOther, accountsAfter, afterOther, servesOtherAfter, decoderOther, stateOther⟩ :=
    servesOther.opens uplink whole opening parsed creditedOther near.mechlist salted drawn
  rw [iterations] at sentOther
  refine .challenged _ _ _ _ ((server.length_mockSalt _).trans width.symm) sent sentOther
    (.start first (server.mockCredential first.authcid) none serverNonce)
    (.start first credential (some account.id) serverNonce) ?_ ?_ ?_
  · rw [servesAfter.found]
    exact state
  · rw [servesOtherAfter.found]
    exact stateOther
  · intro finals final whole
    have live : (AccountDirectory.findById accounts account.id).isSome = true :=
      Option.isSome_of_eq_some joins.live
    rw [← same, ← accountsAfter] at live
    rw [servesAfter.judges uplink (decoder.symm ▸ whole) state rfl rfl,
      servesOtherAfter.judges uplink (decoderOther.symm ▸ whole) stateOther rfl live]
    exact Scram.judgedAlike_start id first serverNonce digest.symm none _ final

end

section

variable {D : Type} [AccountDirectory D]

/-- Results that look alike are of the same kinds of frames. -/
theorem Disguised.masked {id uplink : String} {decoder : Frame.Decoder}
    {result other : List Outbound × Engine D PasswordHasher}
    (disguised : Disguised id uplink decoder result other) :
    result.1.map Outbound.masked = other.1.map Outbound.masked := by
  cases disguised with
  | rejected token same sameOther => rw [same, sameOther]
  | challenged nonce salt otherSalt iterations width sent sentOther =>
      rw [sent, sentOther]
      exact Scram.map_masked_challengeFrames width id nonce iterations

/-- Two engines that differ in one account, which a first message names, give answers of the same
kinds of frames, with the same token or the same parameters, and look at the final message alike,
exactly if the message does not give the account away. -/
theorem disguised_iff {engine : Engine D PasswordHasher} {id : String} {server : Scram.Server}
    {session : Session} (serves : engine.Serves id server session)
    (opening : session.state = none) {options : HashOptions} (made : server.MadeFor options)
    {accounts : D} {account : Account} (joins : Joins accounts options account) (uplink : String)
    {frames : List String} {message : Bytes}
    (whole : session.decoder.assemble? frames = some message)
    (names : ∀ first, Scram.ClientFirst.parse message = .ok first →
      AccountDirectory.findByName engine.accounts first.authcid = none ∧
        AccountDirectory.findByName accounts first.authcid = some account) :
    let result := engine.handleAll uplink (frames.map (.clientData id))
    let other := (engine.withAccounts accounts).handleAll uplink (frames.map (.clientData id))
    (result.1.map Outbound.masked = other.1.map Outbound.masked ∧
        Disguised id uplink session.decoder.clear result other) ↔
      ¬engine.Exposed accounts account message := by
  intro result other
  constructor
  · rintro ⟨same, -⟩ ⟨first, parsed, refused, drawn⟩
    obtain ⟨unknown, known⟩ := names first parsed
    obtain ⟨serverNonce, drawn⟩ := Option.isSome_iff_exists.mp drawn
    obtain ⟨⟨nonce, salt, iterations, sent⟩, rejected⟩ :=
      exposes serves opening made joins uplink whole parsed unknown known refused drawn
    rw [sent, rejected] at same
    exact masked_challengeFrames_ne nonce salt iterations "other-error" same
  · intro hidden
    suffices disguised : Disguised id uplink session.decoder.clear result other from
      ⟨disguised.masked, disguised⟩
    cases parsed : Scram.ClientFirst.parse message with
    | error fault =>
        exact .rejected fault.token
          (serves.refuses uplink whole opening
            (Scram.Server.clientFirst_of_malformed server _ parsed) rfl)
          ((serves.withAccounts accounts).refuses uplink whole opening
            (Scram.Server.clientFirst_of_malformed server _ parsed) rfl)
    | ok first =>
        obtain ⟨unknown, known⟩ := names first parsed
        cases drawn : (engine.env.entropy.fill Limits.nonceLengthRaw).1 with
        | none =>
            exact disguised_of_undrawn serves opening made joins uplink whole parsed unknown known
              drawn
        | some serverNonce =>
            refine disguised_of_admits serves opening made joins uplink whole parsed unknown known
              ?_ drawn
            by_contra refused
            exact hidden ⟨first, parsed, refused, Option.isSome_of_eq_some drawn⟩

end

end Engine

/-! ## A name that nobody has -/

/-- The options of new hashes where the account is. -/
def plainOptions : HashOptions := { digest := .sha1, iterations := 10000, saltLength := 8 }

/-- The server that goes with these options. -/
def plainServer : Scram.Server :=
  { digest := .sha1, mockKey := [1, 2, 3], mockIterations := 10000, mockSaltLength := 8 }

/-- A client asks for SCRAM where there are no accounts. -/
def strangerEngine : Engine MemoryDirectory PasswordHasher :=
  emptyEngine.performAll
    [.registered (.scram plainServer), .frame "hub" (.startAuth "U1" "SCRAM-SHA-1" none)]

/-- The client says to be `alice`, and asks to act as somebody whom there is not. -/
def strangerFirst : Scram.ClientFirst where
  header := Bytes.ofString "n,a=nobody,"
  authzid := some "nobody"
  bare := Bytes.ofString "n=alice,r=abcdefgh"
  authcid := "alice"
  nonce := Bytes.ofString "abcdefgh"

set_option maxRecDepth 100000 in
/-- The answer to that client tells it whether there is an account of the name `alice`. -/
theorem disguised_iff_stranger :
    ∃ hash, Engine.Joins (wonderAccounts hash) plainOptions (wonderAccount.rehashed hash) ∧
      let frames : List Inbound := [.clientData "U1" "bixhPW5vYm9keSxuPWFsaWNlLHI9YWJjZGVmZ2g="]
      let result := strangerEngine.handleAll "hub" frames
      let other := (strangerEngine.withAccounts (wonderAccounts hash)).handleAll "hub" frames
      ¬(result.1.map Outbound.masked = other.1.map Outbound.masked ∧
        Engine.Disguised "U1" "hub" .fresh result other) := by
  have created : PasswordHasher.create plainOptions = .ok ⟨plainOptions⟩ := rfl
  obtain ⟨hash, after, made⟩ := PasswordHasher.exists_crypt created (Bytes.ofString "wonder")
    (rfl : ((Entropy.arithmetic 0 []).fill plainOptions.saltLength).1 = some _)
  have joins : Engine.Joins (wonderAccounts hash) plainOptions (wonderAccount.rehashed hash) :=
    ⟨rfl, rfl, rfl, rfl, _, _, _, hash, after, created, made, rfl⟩
  refine ⟨hash, joins, ?_⟩
  have reachable : strangerEngine.Reachable :=
    (Engine.Reachable.create (rfl : Engine.create {} {} ⟨{}⟩ (.arithmetic 0 []) =
      .ok emptyEngine)).performAll _
  have waiting : (strangerEngine.sessions.find? "U1").map (fun session =>
      (session.mechanism, session.state, session.decoder)) =
      some (some ⟨0, .scram plainServer⟩, none, .fresh) := by decide +kernel
  obtain ⟨session, found, same⟩ := Option.map_eq_some_iff.mp waiting
  simp only [Prod.mk.injEq] at same
  obtain ⟨selected, opening, fresh⟩ := same
  have whole : session.decoder.assemble? ["bixhPW5vYm9keSxuPWFsaWNlLHI9YWJjZGVmZ2g="] =
      some (Bytes.ofString "n,a=nobody,n=alice,r=abcdefgh") := by
    rw [fresh]
    decide +kernel
  have parsed : Scram.ClientFirst.parse (Bytes.ofString "n,a=nobody,n=alice,r=abcdefgh") =
      .ok strangerFirst := by decide +kernel
  have unknown : AccountDirectory.findByName strangerEngine.accounts "alice" = none := by
    decide +kernel
  have known : AccountDirectory.findByName (wonderAccounts hash) "alice" =
      some (wonderAccount.rehashed hash) := by
    have found : (wonderAccounts hash).findName? "alice" = some (wonderAccount.rehashed hash) := by
      rw [MemoryDirectory.findName?, key_wonderAccounts]
      rfl
    exact found
  have nobody : AccountDirectory.findByName (wonderAccounts hash) "nobody" = none := by
    have key : (wonderAccounts hash).key "nobody" = some "nobody" :=
      (by decide +kernel : MemoryDirectory.key {} "nobody" = some "nobody")
    have found : (wonderAccounts hash).findName? "nobody" = none := by
      rw [MemoryDirectory.findName?, key]
      rfl
    exact found
  have exposed : strangerEngine.Exposed (wonderAccounts hash) (wonderAccount.rehashed hash)
      (Bytes.ofString "n,a=nobody,n=alice,r=abcdefgh") := by
    refine ⟨strangerFirst, parsed, ?_, by decide +kernel⟩
    intro admits
    obtain ⟨target, found, -⟩ := admits "nobody" rfl
    cases nobody.symm.trans found
  have decided := Engine.disguised_iff ⟨_, rfl, reachable.sound.keyed, found, selected⟩ opening
    (⟨rfl, rfl, rfl⟩ : plainServer.MadeFor plainOptions) joins "hub" whole fun first same => by
      cases parsed.symm.trans same
      exact ⟨unknown, known⟩
  have clear : session.decoder.clear = .fresh := by
    rw [fresh]
    rfl
  rw [clear] at decided
  exact fun alike => decided.mp alike exposed

end IrcSasl
