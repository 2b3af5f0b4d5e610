import IrcSasl.Proofs.Base64
import IrcSasl.Proofs.Scram.Completeness
import IrcSasl.Proofs.Scram.Decoy
import IrcSasl.Proofs.Scram.Soundness

set_option autoImplicit false

/-!
# The grammar of first messages

The first message of a client is a GS2 header and an attribute list. `Header` and `Bare` are their
grammar, and the parser is shown to accept just that grammar and to cut the message in two without
loss (`ClientFirst.parse_iff_spells`). A server then opens an exchange exactly if it can supply a
credential for the name in the message and random bytes can be drawn (`Server.opens_iff`).
-/

namespace IrcSasl.Scram

/-! ## First messages -/

/-- A field stands for a name: it is not too long, and it reads as the prepared name. -/
structure Names (field : Bytes) (name : String) : Prop where
  short : field.length ≤ 50
  read : readName field = some name

/-- A field that stands for a name has no comma in it. -/
theorem Names.comma {field : Bytes} {name : String} (names : Names field name) :
    Attributes.comma ∉ field := by
  obtain ⟨decoded, read, -⟩ := Option.bind_eq_some_iff.mp names.read
  exact Text.SaslName.comma_not_mem_of_decode? read

/-- A GS2 header without channel binding, and whom the client wants to act as. -/
inductive Header : Bytes → Option String → Prop where
  | own {flag : UInt8} (unbound : flag = 0x6E ∨ flag = 0x79) : Header [flag, 0x2C, 0x2C] none
  | acting {flag : UInt8} {field : Bytes} {name : String} (unbound : flag = 0x6E ∨ flag = 0x79)
      (names : Names field name) :
      Header (flag :: 0x2C :: 0x61 :: 0x3D :: (field ++ [0x2C])) (some name)

/-- A first message without its header: a list with a name and a nonce, and without extensions. -/
structure Bare (bare : Bytes) (authcid : String) (nonce : Bytes) : Prop where
  listed : ∃ attributes field, Attributes.parse bare = .ok attributes ∧
    attributes.get? 0x6D = none ∧ attributes.get? 0x6E = some field ∧ Names field authcid ∧
    attributes.get? 0x72 = some nonce
  least : 8 ≤ nonce.length
  most : nonce.length ≤ 512
  printable : ∀ byte ∈ nonce, 0x21 ≤ byte ∧ byte ≤ 0x7E

namespace ClientFirst

/-- A message spells the parts of a first message. -/
structure Spells (message : Bytes) (first : ClientFirst) : Prop where
  clean : 0 ∉ message
  parts : message = first.header ++ first.bare
  header : Header first.header first.authzid
  bare : Bare first.bare first.authcid first.nonce

/-- What follows the channel binding flag ends the header, or says whom the client acts as and then
ends it. -/
theorem splitAuthzid_cases {rest bare : Bytes} {authzid : Option String}
    (split : splitAuthzid rest = .ok (authzid, bare)) :
    rest = 0x2C :: bare ∧ authzid = none ∨
      ∃ field name, rest = 0x61 :: 0x3D :: (field ++ 0x2C :: bare) ∧ authzid = some name ∧
        Names field name := by
  unfold splitAuthzid at split
  split at split
  · next rest =>
      simp only at split
      split at split
      · cases split
      · next stop tail found =>
          split at split
          · cases split
          · next short =>
              split at split
              · next name read =>
                  cases split
                  have ends : stop = Attributes.comma := by
                    have fails := List.head?_dropWhile_not (· ≠ Attributes.comma) rest
                    rw [found] at fails
                    simpa using fails
                  refine .inr ⟨rest.takeWhile (· ≠ Attributes.comma), name, ?_, rfl, ?_, read⟩
                  · rw [show (0x2C : UInt8) = stop from ends.symm, ← found,
                      List.takeWhile_append_dropWhile]
                  · exact Nat.not_lt.mp short
              · cases split
  · cases split
    exact .inl ⟨rfl, rfl⟩
  · cases split

/-- Whom the client acts as ends at the first comma. -/
theorem splitAuthzid_of_names {field : Bytes} {name : String} (names : Names field name)
    (bare : Bytes) :
    splitAuthzid (0x61 :: 0x3D :: (field ++ 0x2C :: bare)) = .ok (some name, bare) := by
  have inside : ∀ byte ∈ field, decide (byte ≠ Attributes.comma) = true := by
    intro byte member
    simpa using fun same : byte = Attributes.comma => names.comma (same ▸ member)
  have taken : (field ++ 0x2C :: bare).takeWhile (· ≠ Attributes.comma) = field := by
    rw [List.takeWhile_append_of_pos inside]
    simp [Attributes.comma]
  have dropped : (field ++ 0x2C :: bare).dropWhile (· ≠ Attributes.comma) = 0x2C :: bare := by
    rw [List.dropWhile_append_of_pos inside]
    simp [Attributes.comma]
  have short : ¬field.length > Limits.accountNameLength := Nat.not_lt.mpr names.short
  simp only [splitAuthzid, taken, dropped, short, names.read, if_false]

/-- A message is cut exactly behind a header. -/
theorem splitHeader_eq_ok_iff {message bare : Bytes} {authzid : Option String} :
    splitHeader message = .ok (authzid, bare) ↔
      ∃ header, Header header authzid ∧ message = header ++ bare := by
  constructor
  · intro split
    have behind {flag : UInt8} {rest : Bytes} (unbound : flag = 0x6E ∨ flag = 0x79)
        (split : splitAuthzid rest = .ok (authzid, bare)) :
        ∃ header, Header header authzid ∧ flag :: 0x2C :: rest = header ++ bare := by
      rcases splitAuthzid_cases split with ⟨rfl, rfl⟩ | ⟨field, name, rfl, rfl, names⟩
      · exact ⟨_, .own unbound, rfl⟩
      · exact ⟨_, .acting unbound names, by simp⟩
    unfold splitHeader at split
    split at split
    · exact behind (.inl rfl) split
    · exact behind (.inr rfl) split
    · cases split
    · cases split
  · rintro ⟨header, headed, rfl⟩
    cases headed with
    | own unbound =>
        rcases unbound with rfl | rfl <;> rfl
    | @acting flag field name unbound names =>
        have cut := splitAuthzid_of_names names bare
        have spelled : flag :: 0x2C :: 0x61 :: 0x3D :: (field ++ [0x2C]) ++ bare =
            flag :: 0x2C :: 0x61 :: 0x3D :: (field ++ 0x2C :: bare) := by simp
        rw [spelled]
        rcases unbound with rfl | rfl <;> exact cut

/-- Among values, which have no comma, the nonces are those of printable characters. -/
theorem isNonce_iff {nonce : Bytes} (unbroken : Attributes.comma ∉ nonce) :
    isNonce nonce = true ↔
      8 ≤ nonce.length ∧ nonce.length ≤ 512 ∧ ∀ byte ∈ nonce, 0x21 ≤ byte ∧ byte ≤ 0x7E := by
  have one (byte : UInt8) (other : byte ≠ Attributes.comma) :
      (0x20 < byte ∧ byte ≠ Attributes.comma) ∧ byte < 0x7F ↔ 0x21 ≤ byte ∧ byte ≤ 0x7E := by
    simp only [other, ne_eq, not_false_eq_true, and_true, UInt8.lt_iff_toNat_lt,
      UInt8.le_iff_toNat_le]
    exact and_congr Iff.rfl Nat.lt_succ_iff
  simp only [isNonce, Bool.and_eq_true, List.all_eq_true, decide_eq_true_eq, and_assoc]
  refine and_congr_right fun _ => and_congr_right fun _ => forall₂_congr fun byte member => ?_
  rw [← and_assoc]
  exact one byte fun same => unbroken (same ▸ member)

/-- The attributes of a first message are read exactly if they are those of its grammar. -/
theorem bare_iff {bare : Bytes} {authcid : String} {nonce : Bytes} :
    (∃ attributes, Attributes.parse bare = .ok attributes ∧
      readAttributes attributes = .ok (authcid, nonce)) ↔ Bare bare authcid nonce := by
  have unbroken {attributes : Attributes} {nonce : Bytes}
      (listed : Attributes.parse bare = .ok attributes)
      (found : attributes.get? 0x72 = some nonce) : Attributes.comma ∉ nonce :=
    ((Attributes.parse_eq_ok_iff.mp listed).1.values _ (Attributes.mem_of_get? found)).comma
  constructor
  · rintro ⟨attributes, listed, read⟩
    obtain ⟨plain, hasNonce, printable, field, hasName, short, named⟩ :=
      readAttributes_eq_ok_iff.mp read
    obtain ⟨least, most, printable⟩ := (isNonce_iff (unbroken listed hasNonce)).mp printable
    exact ⟨⟨attributes, field, listed, plain, hasName, ⟨short, named⟩, hasNonce⟩, least, most,
      printable⟩
  · rintro ⟨⟨attributes, field, listed, plain, hasName, names, hasNonce⟩, least, most, printable⟩
    exact ⟨attributes, listed, readAttributes_eq_ok_iff.mpr ⟨plain, hasNonce,
      (isNonce_iff (unbroken listed hasNonce)).mpr ⟨least, most, printable⟩, field, hasName,
      names.short, names.read⟩⟩

/-- A first message is read exactly if it follows the grammar, and as the parts that it spells. -/
theorem parse_iff_spells {message : Bytes} {first : ClientFirst} :
    parse message = .ok first ↔ Spells message first := by
  rw [parse_eq_ok_iff, bare_iff, checkMessage_eq_ok_iff, splitHeader_eq_ok_iff]
  constructor
  · rintro ⟨⟨-, clean⟩, ⟨header, headed, parts⟩, kept, body⟩
    have same : first.header = header := by
      rw [kept, parts, List.length_append, Nat.add_sub_cancel, List.take_left]
    rw [← same] at headed parts
    exact ⟨clean, parts, headed, body⟩
  · rintro ⟨clean, parts, headed, body⟩
    refine ⟨⟨?_, clean⟩, ⟨first.header, headed, parts⟩, ?_, body⟩
    · rintro rfl
      have none := (List.append_eq_nil_iff.mp parts.symm).1
      rw [none] at headed
      cases headed
    · rw [parts, List.length_append, Nat.add_sub_cancel, List.take_left]

end ClientFirst

/-! ## Credentials -/

variable {D C : Type} [AccountDirectory D] [CredentialStore C]

/-- What is stored for the account of an identifier can be used with a server. -/
structure Usable (server : Server) (accounts : D) (credentials : C) (id : AccountId)
    (credential : Credential) : Prop where
  stored : ∃ owner hash, AccountDirectory.findById accounts id = some owner ∧
    owner.noPassword = false ∧ owner.crypt = true ∧ owner.password = some hash ∧
    CredentialStore.extract credentials hash = some credential
  digest : credential.digest = server.digest

/-- The credential that a server has for a first message, with its account: a made-up one for a name
of nobody, or that of an admitted account that can act as whom the client names. -/
inductive Supplies (server : Server) (accounts : D) (credentials : C) (first : ClientFirst) :
    Credential → Option AccountId → Prop where
  | mock (unknown : AccountDirectory.findByName accounts first.authcid = none) :
      Supplies server accounts credentials first (server.mockCredential first.authcid) none
  | stored {source : Account} {credential : Credential}
      (known : AccountDirectory.findByName accounts first.authcid = some source)
      (admitted : AccountDirectory.admission accounts source = .allow)
      (acts : Admits accounts source first.authzid)
      (usable : Usable server accounts credentials source.id credential) :
      Supplies server accounts credentials first credential (some source.id)

theorem supplies_iff_of_known {server : Server} {accounts : D} {credentials : C}
    {first : ClientFirst} {source : Account} {credential : Credential} {account : Option AccountId}
    (known : AccountDirectory.findByName accounts first.authcid = some source) :
    Supplies server accounts credentials first credential account ↔
      AccountDirectory.admission accounts source = .allow ∧
      Admits accounts source first.authzid ∧
      Usable server accounts credentials source.id credential ∧ account = some source.id := by
  constructor
  · intro supplied
    cases supplied with
    | mock unknown => cases known.symm.trans unknown
    | stored other admitted acts usable =>
        cases known.symm.trans other
        exact ⟨admitted, acts, usable, rfl⟩
  · rintro ⟨admitted, acts, usable, rfl⟩
    exact .stored known admitted acts usable

namespace Server

/-- The credential of an account is given out exactly if it can be used with the server. -/
theorem storedCredential_eq_ok_iff (server : Server) (ctx : Context D C) (id : AccountId)
    {credential : Credential} :
    (server.storedCredential ctx id).1 = .ok credential ↔
      Usable server ctx.accounts ctx.credentials id credential := by
  constructor
  · intro given
    obtain ⟨outcome, after, looked, -, -, cases⟩ := server.storedCredential_cases ctx id
    rw [looked] at given
    rcases cases with ⟨fault, rfl⟩ | ⟨found, owner, hash, rfl, -, live, allowed, hashed, password,
      extracted, digest⟩
    · cases given
    · cases given
      exact ⟨⟨owner, hash, live, allowed, hashed, password, extracted⟩, digest⟩
  · rintro ⟨⟨owner, hash, live, allowed, hashed, password, extracted⟩, digest⟩
    simp only [storedCredential, live, allowed, hashed, password, Option.bind_some, extracted,
      digest, Bool.not_true, Bool.false_eq_true, ne_eq, not_true_eq_false, if_false]

/-- A server has a credential for a first message exactly as `Supplies` says, if it is not known yet
whom the client acts as. -/
theorem credentialFor_eq_ok_iff {server : Server} {ctx : Context D C} {first : ClientFirst}
    (unresolved : ctx.session.authz = none) {credential : Credential}
    {account : Option AccountId} :
    (server.credentialFor ctx first).1 = .ok (credential, account) ↔
      Supplies server ctx.accounts ctx.credentials first credential account := by
  cases known : AccountDirectory.findByName ctx.accounts first.authcid with
  | none =>
      rw [server.credentialFor_of_unknown ctx known]
      constructor
      · intro given
        cases given
        exact .mock known
      · intro supplied
        cases supplied with
        | mock => rfl
        | stored other => cases known.symm.trans other
  | some source =>
      cases admitted : AccountDirectory.admission ctx.accounts source with
      | deny reason =>
          have refused : (server.credentialFor ctx first).1 = .error .authcidRefused := by
            simp [credentialFor, known, Context.resolveAuthcid, Context.canLogin, unresolved,
              admitted]
          rw [refused]
          rw [supplies_iff_of_known known, admitted]
          simp
      | allow =>
          obtain ⟨allowed, after, resolved, near, -⟩ :=
            (ctx.setAuthc source.identity).resolveOptionalAuthzid_cases first.authzid
          have acts : allowed = true ↔ Admits ctx.accounts source first.authzid := by
            have acts := Context.resolveOptionalAuthzid_iff
              (show (ctx.setAuthc source.identity).session.authc = some source.identity from rfl)
              first.authzid
            rwa [resolved] at acts
          have usable (credential : Credential) :
              (server.storedCredential after source.id).1 = .ok credential ↔
                Usable server ctx.accounts ctx.credentials source.id credential := by
            rw [server.storedCredential_eq_ok_iff after source.id, near.accounts, near.credentials]
            rfl
          rw [supplies_iff_of_known known, ← acts, ← usable]
          simp only [credentialFor, known, Context.resolveAuthcid_of_allow known admitted,
            resolved, admitted, true_and]
          cases allowed with
          | false => simp
          | true =>
              rcases looked : server.storedCredential after source.id with
                ⟨fault | credential, final⟩
              · simp [looked]
              · simp [looked, eq_comm]

end Server

/-! ## Opening an exchange -/

/-- A server opens an exchange: it draws random bytes once, keeps both parts of the message, and
answers with nonce, salt and iteration count. -/
structure Opening (server : Server) (ctx : Context D C) (message reply : Bytes)
    (after : Context D C) (first : ClientFirst) (serverNonce : Bytes) (exchange : Exchange) :
    Prop where
  spelled : ClientFirst.Spells message first
  only : ∀ other, ClientFirst.Spells message other → other = first
  supplied : Supplies server ctx.accounts ctx.credentials first exchange.credential exchange.account
  drawn : ctx.env.entropy.fill 48 = (some serverNonce, after.env.entropy)
  width : serverNonce.length = 48
  kept : after.session.state = some (.scram exchange)
  header : exchange.header64 = Base64.encodeText first.header
  bare : exchange.clientFirst = first.bare
  nonce : Bytes.ofString exchange.nonce = first.nonce ++ Base64.encode serverNonce
  unproved : exchange.complete = false
  answered : reply = Bytes.ofString exchange.serverFirst
  read : Attributes.parse reply = .ok
        [(0x72, Bytes.ofString exchange.nonce),
         (0x73, Bytes.ofString exchange.credential.salt64),
         (0x69, Bytes.ofString (toString exchange.credential.iterations))] ↔
      Attributes.IsValue (Bytes.ofString exchange.credential.salt64)

namespace Server

/-- A first message that is read, with a credential and random bytes, opens an exchange. -/
theorem opening_of_drawn {server : Server} {ctx middle : Context D C} {message serverNonce : Bytes}
    {first : ClientFirst} {credential : Credential} {account : Option AccountId}
    (parsed : ClientFirst.parse message = .ok first)
    (supplied : Supplies server ctx.accounts ctx.credentials first credential account)
    (entropy : middle.env.entropy = ctx.env.entropy)
    (drawn : (ctx.env.entropy.fill 48).1 = some serverNonce) :
    let exchange := Exchange.start first credential account serverNonce
    Opening server ctx message (Bytes.ofString exchange.serverFirst)
      ((middle.draw Limits.nonceLengthRaw).2.setState (.scram exchange)) first serverNonce
      exchange := by
  intro exchange
  have printable := ClientFirst.isNonce_of_parse parsed
  have nonce := Exchange.ofString_nonce credential account serverNonce printable
  have answer := Exchange.ofString_serverFirst credential account serverNonce printable
  refine ⟨ClientFirst.parse_iff_spells.mp parsed, ?_, supplied, ?_, ?_, rfl, rfl, rfl, nonce, rfl,
    rfl, ?_⟩
  · intro other spelled
    have again := ClientFirst.parse_iff_spells.mpr spelled
    rw [parsed] at again
    exact (Except.ok.inj again).symm
  · have source : ((middle.draw Limits.nonceLengthRaw).2.setState (.scram exchange)).env.entropy =
        (ctx.env.entropy.fill 48).2 := by
      rw [← entropy]
      rfl
    rw [source, ← drawn]
  · exact Entropy.length_fill (Prod.ext drawn rfl)
  · rw [answer, nonce]
    exact Transcript.parse_challenge_iff ⟨first, serverNonce, credential⟩ printable

/-- The first message opens an exchange; or it is refused, and then it does not follow the grammar,
or there is no credential for it, or no random bytes. -/
theorem opening_or_refused (server : Server) {ctx : Context D C}
    (unresolved : ctx.session.authz = none) (message : Bytes) :
    (∃ reply after first serverNonce exchange,
      server.clientFirst ctx message = (.more reply, after) ∧
        Opening server ctx message reply after first serverNonce exchange) ∨
    (∃ fault middle, server.clientFirst ctx message = refuse middle fault) ∧
      ∀ first credential account, ClientFirst.Spells message first →
        Supplies server ctx.accounts ctx.credentials first credential account →
        (ctx.env.entropy.fill 48).1 = none := by
  rcases parsed : ClientFirst.parse message with fault | first
  · refine .inr ⟨⟨fault, ctx, clientFirst_of_malformed server ctx parsed⟩, ?_⟩
    intro first credential account spelled
    cases parsed.symm.trans (ClientFirst.parse_iff_spells.mpr spelled)
  · let noted := ctx.noteScram (.parsed first.authcid first.authzid)
    have nobody : noted.session.authz = none := unresolved
    have given {credential : Credential} {account : Option AccountId} :
        (server.credentialFor noted first).1 = .ok (credential, account) ↔
          Supplies server ctx.accounts ctx.credentials first credential account :=
      credentialFor_eq_ok_iff nobody
    obtain ⟨outcome, middle, credited, -, -, cases⟩ := server.credentialFor_cases noted first
    rw [credited] at given
    rcases cases with ⟨fault, rfl⟩ | ⟨credential, account, rfl, near, -⟩
    · refine .inr ⟨⟨fault, middle, clientFirst_of_fault parsed credited⟩, ?_⟩
      intro other credential account spelled supplied
      cases parsed.symm.trans (ClientFirst.parse_iff_spells.mpr spelled)
      cases given.mpr supplied
    · have entropy : middle.env.entropy = ctx.env.entropy := near.entropy
      cases drawn : (ctx.env.entropy.fill 48).1 with
      | none =>
          have failed : (middle.env.entropy.fill Limits.nonceLengthRaw).1 = none := by
            rw [entropy]
            exact drawn
          exact .inr ⟨⟨_, _, clientFirst_of_undrawn parsed credited failed⟩, fun _ _ _ _ _ => rfl⟩
      | some serverNonce =>
          have done : (middle.env.entropy.fill Limits.nonceLengthRaw).1 = some serverNonce := by
            rw [entropy]
            exact drawn
          exact .inl ⟨_, _, first, serverNonce, _, clientFirst_of_drawn parsed credited done,
            opening_of_drawn parsed (given.mp rfl) entropy drawn⟩

/-- A server for which nobody is resolved yet opens an exchange exactly if the message follows the
grammar, there is a credential for the name in it, and random bytes can be drawn. -/
theorem opens_iff (server : Server) {ctx : Context D C} (fresh : ctx.session.state = none)
    (unresolved : ctx.session.authz = none) (message : Bytes) :
    ((∃ reply, (server.step ctx message).1 = .more reply) ↔
      ∃ first, ClientFirst.Spells message first ∧
        (∃ credential account,
          Supplies server ctx.accounts ctx.credentials first credential account) ∧
        (ctx.env.entropy.fill 48).1.isSome) ∧
    ∀ reply, (server.step ctx message).1 = .more reply →
      ∃ first serverNonce exchange,
        Opening server ctx message reply (server.step ctx message).2 first serverNonce
          exchange := by
  have opening : server.step ctx message = server.clientFirst ctx message := by
    rw [step, fresh]
  rw [opening]
  rcases server.opening_or_refused unresolved message with
    ⟨reply, after, first, serverNonce, exchange, answered, opens⟩ | ⟨⟨fault, middle, refused⟩, none⟩
  · rw [answered]
    refine ⟨iff_of_true ⟨reply, rfl⟩ ⟨first, opens.spelled, ⟨_, _, opens.supplied⟩, ?_⟩, ?_⟩
    · rw [opens.drawn]
      rfl
    · intro other same
      cases same
      exact ⟨first, serverNonce, exchange, opens⟩
  · rw [refused]
    refine ⟨iff_of_false ?_ ?_, fun _ absurd => by cases absurd⟩
    · rintro ⟨_, absurd⟩
      cases absurd
    · rintro ⟨first, spelled, ⟨credential, account, supplied⟩, drawn⟩
      rw [none first credential account spelled supplied] at drawn
      cases drawn

end Server

/-! ## Salts in answers -/

/-- The text of a salt can stand in a message. -/
theorem Attributes.isValue_of_isSalt {text : String}
    (salted : Credential.isSalt text.toList = true) :
    Attributes.IsValue (Bytes.ofString text) := by
  simp only [Credential.isSalt, String.ofList_toList, Bool.and_eq_true, Bool.not_eq_true',
    List.isEmpty_eq_false_iff, Option.isSome_iff_exists] at salted
  obtain ⟨nonempty, salt, read⟩ := salted
  rw [Base64.decode?_ofString_eq_some_iff.mp read, Base64.ofString_encodeText]
  refine Attributes.isValue_encode ?_
  rintro rfl
  exact nonempty (by rw [Base64.decode?_ofString_eq_some_iff.mp read]; rfl)

/-- Where hashes are made with PBKDF2 and made-up credentials have a salt, the client reads nonce,
salt and iteration count in the answer that opens an exchange. -/
theorem Opening.read_of_hasher {server : Server} {ctx after : Context D PasswordHasher}
    {message reply serverNonce : Bytes} {first : ClientFirst} {exchange : Exchange}
    (opening : Opening server ctx message reply after first serverNonce exchange)
    (salted : server.mockSaltLength ≠ 0) :
    Attributes.parse reply = .ok
      [(0x72, Bytes.ofString exchange.nonce),
       (0x73, Bytes.ofString exchange.credential.salt64),
       (0x69, Bytes.ofString (toString exchange.credential.iterations))] := by
  refine opening.read.mpr ?_
  have supplied := opening.supplied
  generalize exchange.credential = credential, exchange.account = account at supplied
  cases supplied with
  | mock =>
      have width := server.length_mockSalt
        (Bytes.ofString (Text.Casemap.fold default first.authcid))
      refine Attributes.isValue_of_isSalt (Credential.isSalt_encodeText ?_)
      intro none
      rw [none] at width
      exact salted width.symm
  | stored _ _ _ usable =>
      obtain ⟨owner, hash, -, -, -, -, extracted⟩ := usable.stored
      exact Attributes.isValue_of_isSalt (Credential.storable_of_ofHash? extracted).salted

/-! ## An exchange that is opened -/

/-- What a server has at hand for a client of whom nothing is known yet, in a directory with one
account. -/
def pencilContext : Context MemoryDirectory PasswordHasher :=
  pencilEngine.context { info := { uid := "U1", server := "hub" } }

/-- The first message of a client that names the account. -/
def pencilFirst : Bytes := Bytes.ofString "n,,n=alice,r=abcdefgh"

set_option maxRecDepth 100000 in
/-- The message opens an exchange, and the client reads nonce, salt and iteration count in the
answer. -/
theorem opens_iff_pencil :
    pencilContext.session.state = none ∧ pencilContext.session.authz = none ∧
      ∃ reply, (pencilServer.step pencilContext pencilFirst).1 = .more reply ∧
        ∃ first serverNonce exchange,
          Opening pencilServer pencilContext pencilFirst reply
            (pencilServer.step pencilContext pencilFirst).2 first serverNonce exchange ∧
          Attributes.parse reply = .ok
            [(0x72, Bytes.ofString exchange.nonce),
             (0x73, Bytes.ofString exchange.credential.salt64),
             (0x69, Bytes.ofString (toString exchange.credential.iterations))] := by
  have answered : (pencilServer.step pencilContext pencilFirst).1 = .more (Bytes.ofString <|
      "r=abcdefghAAsWISw3Qk1YY255hI+apbC7xtHc5/L9CBMeKTQ/SlVga3aBjJeirbjDztnk7/oF" ++
        ",s=c2FsdHNhbHQ=,i=1") := by decide +kernel
  have fresh : pencilContext.session.state = none := rfl
  obtain ⟨first, serverNonce, exchange, opening⟩ :=
    (pencilServer.opens_iff fresh rfl pencilFirst).2 _ answered
  have told := opening.read_of_hasher (by decide)
  exact ⟨fresh, rfl, _, answered, first, serverNonce, exchange, opening, told⟩

end IrcSasl.Scram
