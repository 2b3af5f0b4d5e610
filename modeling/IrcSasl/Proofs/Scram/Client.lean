import IrcSasl.Proofs.Credential
import IrcSasl.Proofs.Frames
import IrcSasl.Proofs.Scram.Attributes
import IrcSasl.Proofs.Scram.Transcript
import IrcSasl.Proofs.Text.Names

set_option autoImplicit false

/-!
# The client side of SCRAM

A client that knows a name and a password (RFC 5802, section 3). It makes its messages from what it
knows and from what it reads in the answer to the first, with nothing of the server's but the bytes.
-/

namespace IrcSasl.Scram

/-- Why a client does without channel binding. -/
inductive Unbound where
  /-- The client has no channel binding. -/
  | unsupported
  /-- The client has channel binding, but believes that the server has not. -/
  | unoffered
  deriving DecidableEq, Repr

/-- The GS2 header: `n,,` or `y,,`. -/
def Unbound.header : Unbound → Bytes
  | .unsupported => [0x6E, 0x2C, 0x2C]
  | .unoffered => [0x79, 0x2C, 0x2C]

/-- A client. -/
structure Client where
  /-- The digest of the mechanism. -/
  digest : Digest
  /-- What the client says about channel binding. -/
  unbound : Unbound
  /-- Who the client says to be. -/
  name : String
  /-- The password. -/
  password : Bytes
  /-- The client's part of the nonce. -/
  nonce : Bytes
  nameClean : name.toList.any Text.SaslName.isControl = false
  nameShort : (Text.SaslName.encode name).utf8ByteSize ≤ 50
  nonceLeast : 8 ≤ nonce.length
  nonceMost : nonce.length ≤ 512
  noncePrintable : ∀ byte ∈ nonce, 0x20 < byte.toNat ∧ byte.toNat < 0x7F ∧ byte ≠ 0x2C

/-- What a client reads in the answer to its first message. -/
structure Challenge where
  /-- The answer itself. -/
  text : Bytes
  /-- The nonce of the client followed by that of the server. -/
  nonce : Bytes
  /-- The salt. -/
  salt : Bytes
  /-- The iteration count. -/
  iterations : UInt32
  deriving DecidableEq, Repr

/-! ## What can stand in a message -/

theorem Attributes.isValue_numeral (number : UInt32) :
    Attributes.IsValue (Bytes.ofString (toString number)) := by
  have spelled := Credential.toList_toString number
  rw [Bytes.ofString_eq_flatMap]
  refine ⟨?_, ?_⟩
  · rw [ne_eq, List.flatMap_eq_nil_iff]
    intro none
    cases digits : (toString number).toList with
    | nil =>
        rw [spelled] at digits
        exact Nat.toDigits_ne_nil digits
    | cons char rest =>
        exact String.utf8EncodeChar_ne_nil (none char (digits ▸ List.mem_cons_self))
  · rw [List.mem_flatMap]
    rintro ⟨char, inside, member⟩
    have comma := Text.SaslName.eq_of_mem member 0x2C (by decide) rfl
    rw [comma] at inside
    exact absurd (Credential.isDigit_of_mem inside) (by decide)

/-- The base64 text of something can stand in a message. -/
theorem Attributes.isValue_encode {bytes : Bytes} (some : bytes ≠ []) :
    Attributes.IsValue (Base64.encode bytes) := by
  refine ⟨Base64.encode_ne_nil some, ?_⟩
  intro member
  exact Base64.forall_mem_encode (· ≠ Attributes.comma) (by decide) (by decide) bytes _
    member rfl

/-- A printable nonce, with whatever base64 behind it, can stand in a message. -/
theorem Attributes.isValue_nonce {nonce : Bytes} (printable : ClientFirst.isNonce nonce = true)
    (bytes : Bytes) : Attributes.IsValue (nonce ++ Base64.encode bytes) := by
  simp only [ClientFirst.isNonce, Bool.and_eq_true, decide_eq_true_eq, List.all_eq_true]
    at printable
  obtain ⟨⟨least, -⟩, printable⟩ := printable
  refine ⟨?_, ?_⟩
  · intro none
    rw [(List.append_eq_nil_iff.mp none).1] at least
    exact absurd least (by decide)
  · intro member
    rcases List.mem_append.mp member with own | behind
    · exact (printable _ own).1.2 rfl
    · exact Base64.forall_mem_encode (· ≠ Attributes.comma) (by decide) (by decide) bytes _ behind
        rfl

theorem nul_not_mem_encode (bytes : Bytes) : 0 ∉ Base64.encode bytes := by
  intro member
  exact Base64.forall_mem_encode (· ≠ 0) (by decide) (by decide) bytes _ member rfl

/-! ## First messages -/

/-- The attributes of a first message: a written name and a nonce. -/
def naming (name : String) (nonce : Bytes) : Attributes :=
  [(0x6E, Bytes.ofString (Text.SaslName.encode name)), (0x72, nonce)]

theorem nul_not_mem_nonce {nonce : Bytes} (printable : ClientFirst.isNonce nonce = true) :
    0 ∉ nonce := by
  simp only [ClientFirst.isNonce, Bool.and_eq_true, decide_eq_true_eq, List.all_eq_true]
    at printable
  intro member
  exact absurd (printable.2 0 member).1.1 (by decide)

section

variable {name : String} {nonce : Bytes} (clean : name.toList.any Text.SaslName.isControl = false)
  (printable : ClientFirst.isNonce nonce = true)

include printable

/-- The attributes of a first message can be written. -/
theorem printable_naming (named : name ≠ "") : (naming name nonce).Printable := by
  have alone := Attributes.isValue_nonce printable []
  rw [Base64.encode, List.append_nil] at alone
  exact (Attributes.Printable.single (by decide) alone).cons (by decide) (by simp)
    ⟨Text.SaslName.ofString_encode_ne_nil named, Text.SaslName.comma_not_mem name⟩

include clean

theorem checkMessage_naming (unbound : Unbound) :
    checkMessage (unbound.header ++ (naming name nonce).print) = .ok () := by
  have named : 0 ∉ Bytes.ofString (Text.SaslName.encode name) := Text.SaslName.nul_not_mem clean
  have header : 0 ∉ unbound.header := by
    cases unbound <;> decide
  refine checkMessage_eq_ok_iff.mpr ⟨by cases unbound <;> exact List.cons_ne_nil _ _, ?_⟩
  simp only [naming, Attributes.print, List.map_cons, List.map_nil, Fields.join, List.mem_append,
    List.mem_cons, header, named, nul_not_mem_nonce printable, or_false, false_or, not_or]
  decide

/-- The name in a first message is measured as it is written, and then prepared. -/
theorem readAttributes_naming :
    ClientFirst.readAttributes (naming name nonce) =
      if 50 < (Text.SaslName.encode name).utf8ByteSize then
        .error (.authcidLength (Text.SaslName.encode name).utf8ByteSize)
      else
        match Text.prepareName name with
        | some authcid => .ok (authcid, nonce)
        | none => .error .authcid := by
  have read : readName (Bytes.ofString (Text.SaslName.encode name)) = Text.prepareName name := by
    rw [readName, Text.SaslName.decode?_encode clean, Option.bind_some]
  have most : Limits.accountNameLength = 50 := rfl
  cases prepared : Text.prepareName name with
  | none =>
      simp [ClientFirst.readAttributes, naming, Attributes.get?, printable, read, most, prepared]
  | some authcid =>
      simp [ClientFirst.readAttributes, naming, Attributes.get?, printable, read, most, prepared]

/-- What a server makes of a first message is decided by its attributes. -/
theorem parse_naming (named : name ≠ "") (unbound : Unbound) :
    ClientFirst.parse (unbound.header ++ (naming name nonce).print) =
      (ClientFirst.readAttributes (naming name nonce)).map fun read =>
        { header := unbound.header, authzid := none, bare := (naming name nonce).print
          authcid := read.1, nonce := read.2 } := by
  have split : ClientFirst.splitHeader (unbound.header ++ (naming name nonce).print) =
      .ok (none, (naming name nonce).print) := by
    cases unbound <;> rfl
  rw [ClientFirst.parse, checkMessage_naming clean printable]
  simp only [split, Attributes.parse_print (printable_naming printable named), List.length_append,
    Nat.add_sub_cancel, List.take_left]
  cases ClientFirst.readAttributes (naming name nonce) <;> rfl

end

/-! ## What a client says -/

namespace Client

/-- The first message without its header. -/
def bare (client : Client) : Bytes :=
  Attributes.print [(0x6E, Bytes.ofString (Text.SaslName.encode client.name)), (0x72, client.nonce)]

/-- The first message. -/
def first (client : Client) : Bytes := client.unbound.header ++ client.bare

/-- Reads the answer to the first message. Its nonce has to start with that of the client. -/
def readChallenge (client : Client) (message : Bytes) : Option Challenge := do
  let attributes ← (Attributes.parse message).toOption
  let nonce ← attributes.get? 0x72
  let salt ← (attributes.get? 0x73).bind Base64.decode?
  let iterations ← (attributes.get? 0x69).bind Bytes.toString?
  let iterations ← Credential.readNumeral iterations.toList
  if client.nonce.isPrefixOf nonce then some ⟨message, nonce, salt, iterations⟩ else none

variable (client : Client) (challenge : Challenge)

/-- The key that the client derives from its password. -/
def saltedPassword : Bytes :=
  client.digest.pbkdf2 challenge.iterations challenge.salt (Text.preparePassword client.password)

/-- The final message without its proof. -/
def proofless : Bytes :=
  Attributes.print [(0x63, Base64.encode client.unbound.header), (0x72, challenge.nonce)]

/-- The messages that both sides sign. -/
def authMessage : Bytes :=
  client.bare ++ 0x2C :: challenge.text ++ 0x2C :: client.proofless challenge

/-- The key that the client shows to have. -/
def clientKey : Bytes :=
  client.digest.hmac (client.saltedPassword challenge) (Bytes.ofString "Client Key")

/-- The proof: the key under the signature of its hash. -/
def proof : Bytes :=
  Bytes.xor (client.clientKey challenge)
    (client.digest.hmac (client.digest.hash (client.clientKey challenge))
      (client.authMessage challenge))

/-- The final message. -/
def final : Bytes :=
  Attributes.print [(0x63, Base64.encode client.unbound.header), (0x72, challenge.nonce),
    (0x70, Base64.encode (client.proof challenge))]

/-- The signature by which the server has to show that it knows the credential. -/
def serverSignature : Bytes :=
  client.digest.hmac
    (client.digest.hmac (client.saltedPassword challenge) (Bytes.ofString "Server Key"))
    (client.authMessage challenge)

/-- The answer that the client expects to its final message. -/
def verifier : Bytes := Bytes.ofString "v=" ++ Base64.encode (client.serverSignature challenge)

/-! ## The first message -/

section

omit challenge

theorem isNonce_nonce : ClientFirst.isNonce client.nonce = true := by
  have least := client.nonceLeast
  have most := client.nonceMost
  simp only [ClientFirst.isNonce, Bool.and_eq_true, decide_eq_true_eq, List.all_eq_true]
  refine ⟨⟨least, most⟩, ?_⟩
  intro byte member
  obtain ⟨above, below, comma⟩ := client.noncePrintable byte member
  exact ⟨⟨UInt8.lt_iff_toNat_lt.mpr above, comma⟩, UInt8.lt_iff_toNat_lt.mpr below⟩

/-- The nonce of a client, with whatever base64 behind it, can stand in a message. -/
theorem isValue_nonce (bytes : Bytes) :
    Attributes.IsValue (client.nonce ++ Base64.encode bytes) :=
  Attributes.isValue_nonce client.isNonce_nonce bytes

theorem length_header : client.unbound.header.length = 3 := by
  cases client.unbound <;> rfl

/-- The first message is short enough to be put together from its frames. -/
theorem length_first : client.first.length ≤ 570 := by
  have short := client.nameShort
  have most := client.nonceMost
  have spelled : client.first.length = 3 + (2 + (Text.SaslName.encode client.name).utf8ByteSize +
      (3 + client.nonce.length)) := by
    rw [first, List.length_append, client.length_header, ← Bytes.length_ofString]
    simp only [bare, Attributes.print, List.map_cons, List.map_nil, Fields.join,
      List.length_append, List.length_cons]
    omega
  omega

/-- What the server has to read in the first message of a client, given the prepared form of the
name. -/
def opening (authcid : String) : ClientFirst where
  header := client.unbound.header
  authzid := none
  bare := client.bare
  authcid := authcid
  nonce := client.nonce

/-- The server reads the first message of a client as it is meant. -/
theorem parse_first {authcid : String} (prepared : Text.prepareName client.name = some authcid) :
    ClientFirst.parse client.first = .ok (client.opening authcid) := by
  have read := parse_naming client.nameClean client.isNonce_nonce
    (Text.ne_empty_of_prepareName prepared) client.unbound
  rw [readAttributes_naming client.nameClean client.isNonce_nonce,
    if_neg (Nat.not_lt.mpr client.nameShort), prepared] at read
  exact read

end

end Client

/-! ## The answer to the first message -/

namespace Transcript

/-- The answer to the first message is a list of attributes. -/
theorem challenge_eq_print (transcript : Transcript) :
    transcript.challenge = Attributes.print
      [(0x72, transcript.nonce), (0x73, Bytes.ofString transcript.credential.salt64),
       (0x69, Bytes.ofString (toString transcript.credential.iterations))] := by
  have nonce : Bytes.ofString "r=" = [0x72, 0x3D] := by decide
  have salt : Bytes.ofString ",s=" = [0x2C, 0x73, 0x3D] := by decide
  have iterations : Bytes.ofString ",i=" = [0x2C, 0x69, 0x3D] := by decide
  simp only [challenge, nonce, salt, iterations, Attributes.print, Attributes.comma,
    Attributes.equalsSign, List.map_cons, List.map_nil, Fields.join, List.cons_append,
    List.append_assoc, List.nil_append]

/-- The answer to the first message is read as nonce, salt and iteration count exactly if there is a
salt that can stand in a message. -/
theorem parse_challenge_iff (transcript : Transcript)
    (printable : ClientFirst.isNonce transcript.opening.nonce = true) :
    Attributes.parse transcript.challenge = .ok
        [(0x72, transcript.nonce), (0x73, Bytes.ofString transcript.credential.salt64),
         (0x69, Bytes.ofString (toString transcript.credential.iterations))] ↔
      Attributes.IsValue (Bytes.ofString transcript.credential.salt64) := by
  rw [challenge_eq_print]
  constructor
  · intro read
    exact (Attributes.parse_eq_ok_iff.mp read).1.values _ (.tail _ (.head _))
  · intro value
    exact Attributes.parse_print
      (((Attributes.Printable.single (by decide) (Attributes.isValue_numeral _)).cons (by decide)
        (by simp) value).cons (by decide) (by simp) (Attributes.isValue_nonce printable _))

/-- What a client reads of a transcript, given the salt in it. -/
def told (transcript : Transcript) (salt : Bytes) : Challenge where
  text := transcript.challenge
  nonce := transcript.nonce
  salt := salt
  iterations := transcript.credential.iterations

end Transcript

namespace Client

/-- What goes to and fro between a client and a server that has looked up a credential and drawn
random bytes. -/
def transcript (client : Client) (authcid : String) (serverNonce : Bytes)
    (credential : Credential) :
    Transcript :=
  ⟨client.opening authcid, serverNonce, credential⟩

section

variable (client : Client) (authcid : String) (serverNonce : Bytes) {credential : Credential}
  {password salt : Bytes}

theorem isValue_nonce_transcript :
    Attributes.IsValue (client.transcript authcid serverNonce credential).nonce :=
  client.isValue_nonce serverNonce

theorem nul_not_mem_nonce_transcript :
    0 ∉ (client.transcript authcid serverNonce credential).nonce := by
  intro member
  rcases List.mem_append.mp member with own | behind
  · exact nul_not_mem_nonce client.isNonce_nonce own
  · exact nul_not_mem_encode serverNonce behind

/-- A client reads nonce, salt and iteration count in the answer to its first message. -/
theorem readChallenge_challenge (derived : credential.Of password salt) :
    client.readChallenge (client.transcript authcid serverNonce credential).challenge =
      some ((client.transcript authcid serverNonce credential).told salt) := by
  have salt64 : Bytes.ofString credential.salt64 = Base64.encode salt := by
    rw [derived.salt64, Base64.ofString_encodeText]
  have value : Attributes.IsValue (Bytes.ofString credential.salt64) := by
    rw [salt64]
    exact Attributes.isValue_encode derived.salt_ne_nil
  have listed := ((client.transcript authcid serverNonce credential).parse_challenge_iff
    client.isNonce_nonce).mpr value
  generalize made : client.transcript authcid serverNonce credential = transcript at listed ⊢
  have leads : client.nonce <+: transcript.nonce := by
    rw [← made]
    exact List.prefix_append _ _
  have salt64 : Bytes.ofString transcript.credential.salt64 = Base64.encode salt := by
    rw [← made]
    exact salt64
  simp [readChallenge, listed, Except.toOption, Attributes.get?, salt64, leads, Transcript.told]

/-- A client signs the transcript. -/
theorem authMessage_told (credential : Credential) (salt : Bytes) :
    client.authMessage ((client.transcript authcid serverNonce credential).told salt) =
      (client.transcript authcid serverNonce credential).signed := by
  have comma : Bytes.ofString "," = [0x2C] := by decide
  have header : Bytes.ofString ",c=" = [0x2C, 0x63, 0x3D] := by decide
  have nonce : Bytes.ofString ",r=" = [0x2C, 0x72, 0x3D] := by decide
  simp only [authMessage, proofless, Transcript.signed, Transcript.told, transcript, opening, comma,
    header, nonce, Attributes.print, Attributes.comma, Attributes.equalsSign, List.map_cons,
    List.map_nil, Fields.join, List.cons_append, List.append_assoc, List.nil_append]

end

/-! ## The final message -/

section

variable (client : Client) {challenge : Challenge}

theorem length_clientKey (challenge : Challenge) :
    (client.clientKey challenge).length = client.digest.outputLength :=
  Digest.length_hmac ..

theorem length_proof (challenge : Challenge) :
    (client.proof challenge).length = client.digest.outputLength := by
  rw [proof, Bytes.length_xor, length_clientKey, Digest.length_hmac, Nat.min_self]

theorem proof_ne_nil (challenge : Challenge) : client.proof challenge ≠ [] := by
  intro none
  have width := client.length_proof challenge
  rw [none] at width
  cases digest : client.digest <;> rw [digest] at width <;> cases width

/-- The server finds header, nonce and proof in the final message of a client. -/
theorem parse_final (nonce : Attributes.IsValue challenge.nonce) :
    Attributes.parse (client.final challenge) =
      .ok [(0x63, Base64.encode client.unbound.header), (0x72, challenge.nonce),
        (0x70, Base64.encode (client.proof challenge))] := by
  have header : client.unbound.header ≠ [] := by
    cases client.unbound <;> decide
  have proof : Attributes.IsValue (Base64.encode (client.proof challenge)) :=
    Attributes.isValue_encode (client.proof_ne_nil challenge)
  exact Attributes.parse_print
    (((Attributes.Printable.single (by decide) proof).cons (by decide) (by simp) nonce).cons
      (by decide) (by simp) (Attributes.isValue_encode header))

theorem checkMessage_final (nonce : 0 ∉ challenge.nonce) :
    checkMessage (client.final challenge) = .ok () := by
  have whole : 0 ∉ client.final challenge := by
    simp only [final, Attributes.print, List.map_cons, List.map_nil, Fields.join, List.mem_append,
      List.mem_cons, nonce, nul_not_mem_encode, or_false, not_or]
    decide
  exact checkMessage_eq_ok_iff.mpr ⟨List.cons_ne_nil _ _, whole⟩

end

section

variable (client : Client) (authcid : String) (serverNonce : Bytes) {credential : Credential}
  {salt : Bytes} (digest : credential.digest = client.digest)
  (derived : credential.Of client.password salt)

include digest derived

/-- The key under its own signature is accepted by whoever has stored its hash. -/
theorem accepts_proof :
    (client.transcript authcid serverNonce credential).Accepts
      (client.proof ((client.transcript authcid serverNonce credential).told salt)) := by
  have signed := client.authMessage_told authcid serverNonce credential salt
  have storedKey : credential.storedKey = client.digest.hash
      (client.clientKey ((client.transcript authcid serverNonce credential).told salt)) := by
    rw [derived.storedKey, digest]
    rfl
  have key : Bytes.xor
      (client.proof ((client.transcript authcid serverNonce credential).told salt))
      (client.digest.hmac credential.storedKey
        (client.transcript authcid serverNonce credential).signed) =
        client.clientKey ((client.transcript authcid serverNonce credential).told salt) := by
    rw [storedKey, ← signed, proof]
    exact Bytes.xor_xor_cancel (by rw [length_clientKey, Digest.length_hmac])
  have same : (client.transcript authcid serverNonce credential).credential = credential := rfl
  simp only [Transcript.Accepts, same]
  rw [digest, key, storedKey]

/-- The server signs what the client expects it to sign. -/
theorem serverSignature_told :
    client.serverSignature ((client.transcript authcid serverNonce credential).told salt) =
      client.digest.hmac credential.serverKey
        (client.transcript authcid serverNonce credential).signed := by
  rw [derived.serverKey, digest, serverSignature, client.authMessage_told]
  rfl

end

/-! ## How long messages get -/

section

variable (client : Client)

theorem outputLength_le (digest : Digest) : digest.outputLength ≤ 64 := by
  cases digest <;> decide

/-- The nonce of an exchange is as long as both parts together. -/
theorem length_nonce_transcript (authcid : String) {serverNonce : Bytes} (credential : Credential)
    (width : serverNonce.length = Limits.nonceLengthRaw) :
    (client.transcript authcid serverNonce credential).nonce.length ≤ 576 := by
  have most := client.nonceMost
  have raw : Limits.nonceLengthRaw = 48 := rfl
  have spelled : (client.transcript authcid serverNonce credential).nonce.length =
      client.nonce.length + (Base64.encode serverNonce).length := List.length_append
  rw [spelled, Base64.length_encode, width, raw]
  omega

theorem length_final {challenge : Challenge} (most : challenge.nonce.length ≤ 576) :
    (client.final challenge).length ≤ Limits.bufferLengthRaw := by
  have header := client.length_header
  have proof := client.length_proof challenge
  have digest := outputLength_le client.digest
  have spelled : (client.final challenge).length =
      2 + (client.unbound.header.length + 2) / 3 * 4 + (3 + challenge.nonce.length +
        (3 + ((client.proof challenge).length + 2) / 3 * 4)) := by
    simp only [final, Attributes.print, List.map_cons, List.map_nil, Fields.join,
      List.length_append, List.length_cons, Base64.length_encode]
    omega
  rw [spelled, header, proof]
  unfold Limits.bufferLengthRaw
  omega

theorem length_verifier (challenge : Challenge) :
    (client.verifier challenge).length ≤ Limits.bufferLengthRaw := by
  have digest := outputLength_le client.digest
  have two : (Bytes.ofString "v=").length = 2 := by decide
  rw [verifier, List.length_append, two, Base64.length_encode, serverSignature, Digest.length_hmac]
  unfold Limits.bufferLengthRaw
  omega

theorem length_challenge (authcid : String) {serverNonce password salt : Bytes}
    {credential : Credential} (width : serverNonce.length = Limits.nonceLengthRaw)
    (derived : credential.Of password salt) :
    (client.transcript authcid serverNonce credential).challenge.length ≤
      Limits.bufferLengthRaw := by
  have nonce := client.length_nonce_transcript authcid credential width
  have numeral := Credential.length_ofString_toString credential.iterations
  have most : salt.length ≤ 64 := derived.most
  have salt64 : (Bytes.ofString credential.salt64).length = (salt.length + 2) / 3 * 4 := by
    rw [derived.salt64, Base64.ofString_encodeText, Base64.length_encode]
  have spelled : (client.transcript authcid serverNonce credential).challenge.length =
      2 + (client.transcript authcid serverNonce credential).nonce.length +
        (3 + (Bytes.ofString credential.salt64).length +
          (3 + (Bytes.ofString (toString credential.iterations)).length)) := by
    have same : (client.transcript authcid serverNonce credential).credential = credential := rfl
    rw [Transcript.challenge_eq_print, same]
    simp only [Attributes.print, List.map_cons, List.map_nil, Fields.join, List.length_append,
      List.length_cons]
    omega
  rw [spelled, salt64]
  unfold Limits.bufferLengthRaw
  omega

end

end Client

end IrcSasl.Scram
