import IrcSasl.Proofs.Bytes
import IrcSasl.Scram.Exchange

set_option autoImplicit false

/-!
# The transcript of an exchange

Both sides of an exchange sign the messages that have gone to and fro. `Transcript` puts these bytes
together from what the messages carry, and `Exchange.start` is shown to sign just them.
-/

namespace IrcSasl.Scram

/-- What goes to and fro before there is a proof. -/
structure Transcript where
  /-- The first message of the client. -/
  opening : ClientFirst
  /-- The random bytes of the server. -/
  serverNonce : Bytes
  /-- The credential that the server checks the proof against. -/
  credential : Credential

namespace Transcript

/-- The nonce of the client followed by that of the server. -/
def nonce (transcript : Transcript) : Bytes :=
  transcript.opening.nonce ++ Base64.encode transcript.serverNonce

/-- The answer to the first message: nonce, salt and iteration count. -/
def challenge (transcript : Transcript) : Bytes :=
  Bytes.ofString "r=" ++ transcript.nonce ++ Bytes.ofString ",s=" ++
    Bytes.ofString transcript.credential.salt64 ++ Bytes.ofString ",i=" ++
    Bytes.ofString (toString transcript.credential.iterations)

/-- What both sides sign: the first message without its header, the answer to it, and the final
message without its proof. -/
def signed (transcript : Transcript) : Bytes :=
  transcript.opening.bare ++ Bytes.ofString "," ++ transcript.challenge ++
    Bytes.ofString ",c=" ++ Base64.encode transcript.opening.header ++
    Bytes.ofString ",r=" ++ transcript.nonce

/-- Whether a proof shows the knowledge of the key that the credential keeps the hash of. -/
def Accepts (transcript : Transcript) (proof : Bytes) : Prop :=
  let digest := transcript.credential.digest
  let storedKey := transcript.credential.storedKey
  digest.hash (Bytes.xor proof (digest.hmac storedKey transcript.signed)) = storedKey

end Transcript

/-! ## First messages -/

/-- A message is looked at if it is not empty and has no NUL byte. -/
theorem checkMessage_eq_ok_iff {message : Bytes} :
    checkMessage message = .ok () ↔ message ≠ [] ∧ 0 ∉ message := by
  unfold checkMessage
  cases message with
  | nil => simp
  | cons byte rest => simp

/-- What is wrong with a message is no fault of the server. -/
theorem isInternal_of_checkMessage {message : Bytes} {fault : Fault}
    (failed : checkMessage message = .error fault) : fault.isInternal = false := by
  unfold checkMessage at failed
  grind [Fault.isInternal]

namespace ClientFirst

/-- What the attributes of a first message have to be. -/
theorem readAttributes_eq_ok_iff {attributes : Attributes} {authcid : String} {nonce : Bytes} :
    readAttributes attributes = .ok (authcid, nonce) ↔
      attributes.get? 0x6D = none ∧ attributes.get? 0x72 = some nonce ∧ isNonce nonce = true ∧
      ∃ field, attributes.get? 0x6E = some field ∧ field.length ≤ Limits.accountNameLength ∧
        readName field = some authcid := by
  unfold readAttributes
  constructor
  · intro read
    split at read
    · cases read
    · next plain =>
        split at read
        · next field nonce hasName hasNonce =>
            split at read
            · cases read
            · next printable =>
                split at read
                · cases read
                · next short =>
                    split at read
                    · next name named =>
                        cases read
                        refine ⟨by simpa using plain, hasNonce, by simpa using printable, field,
                          hasName, ?_, named⟩
                        simpa using short
                    · cases read
        · cases read
  · rintro ⟨plain, hasNonce, printable, field, hasName, short, named⟩
    simp [plain, hasNonce, printable, hasName, Nat.not_lt.mpr short, named]

/-- The stages in which a first message is read. -/
theorem parse_eq_ok_iff {message : Bytes} {first : ClientFirst} :
    parse message = .ok first ↔
      checkMessage message = .ok () ∧ splitHeader message = .ok (first.authzid, first.bare) ∧
      first.header = message.take (message.length - first.bare.length) ∧
      ∃ attributes, Attributes.parse first.bare = .ok attributes ∧
        readAttributes attributes = .ok (first.authcid, first.nonce) := by
  unfold parse
  constructor
  · intro parsed
    split at parsed
    · cases parsed
    · next clean =>
        split at parsed
        · cases parsed
        · next split =>
            split at parsed
            · cases parsed
            · next attributes listed =>
                split at parsed
                · cases parsed
                · next read =>
                    cases parsed
                    exact ⟨clean, split, rfl, attributes, listed, read⟩
  · obtain ⟨header, authzid, bare, authcid, nonce⟩ := first
    rintro ⟨clean, split, kept, attributes, listed, read⟩
    simp only at split kept listed read
    simp only [clean, split, listed, read, kept]

section

variable {fault : Fault}

theorem isInternal_of_splitHeader {message : Bytes} (failed : splitHeader message = .error fault) :
    fault.isInternal = false := by
  have acting (rest : Bytes) (failed : splitAuthzid rest = .error fault) :
      fault.isInternal = false := by
    unfold splitAuthzid at failed
    grind [Fault.isInternal]
  unfold splitHeader at failed
  grind [Fault.isInternal]

theorem isInternal_of_readAttributes {attributes : Attributes}
    (failed : readAttributes attributes = .error fault) : fault.isInternal = false := by
  unfold readAttributes at failed
  grind [Fault.isInternal]

/-- What is wrong with a first message is no fault of the server. -/
theorem isInternal_of_parse {message : Bytes} (failed : parse message = .error fault) :
    fault.isInternal = false := by
  unfold parse at failed
  split at failed
  · next unclean =>
      cases failed
      exact isInternal_of_checkMessage unclean
  · split at failed
    · next unsplit =>
        cases failed
        exact isInternal_of_splitHeader unsplit
    · split at failed
      · cases failed
        rfl
      · split at failed
        · next unread =>
            cases failed
            exact isInternal_of_readAttributes unread
        · cases failed

end

/-- A nonce that was read is printable. -/
theorem isNonce_of_parse {message : Bytes} {first : ClientFirst}
    (parsed : parse message = .ok first) : isNonce first.nonce = true := by
  obtain ⟨-, -, -, attributes, -, read⟩ := parse_eq_ok_iff.mp parsed
  exact (readAttributes_eq_ok_iff.mp read).2.2.1

theorem ascii_nonce {nonce : Bytes} (printable : isNonce nonce = true) :
    ∀ byte ∈ nonce, byte.toNat < 0x80 := by
  intro byte member
  simp only [isNonce, Bool.and_eq_true, List.all_eq_true] at printable
  have bounds := printable.2 byte member
  simp only [decide_eq_true_eq] at bounds
  have below : byte.toNat < 0x7F := UInt8.lt_iff_toNat_lt.mp bounds.2
  omega

end ClientFirst

/-! ## Final messages -/

namespace Exchange

/-- What the attributes of a final message have to be for their proof to be looked at. -/
theorem proofOf_eq_ok_iff {exchange : Exchange} {attributes : Attributes} {proof : Bytes} :
    exchange.proofOf attributes = .ok proof ↔
      attributes.get? 0x6D = none ∧
      attributes.get? 0x63 = some (Bytes.ofString exchange.header64) ∧
      attributes.get? 0x72 = some (Bytes.ofString exchange.nonce) ∧
      ∃ proof64, attributes.get? 0x70 = some proof64 ∧ Base64.decode? proof64 = some proof ∧
        proof.length = exchange.digest.outputLength := by
  unfold proofOf
  constructor
  · intro read
    split at read
    · cases read
    · next plain =>
        split at read
        · next header proof64 nonce hasHeader hasProof hasNonce =>
            split at read
            · cases read
            · next sameNonce =>
                split at read
                · cases read
                · next sameHeader =>
                    simp only [ne_eq, Decidable.not_not] at sameNonce sameHeader
                    subst sameNonce sameHeader
                    split at read
                    · next decoded found =>
                        split at read
                        · next width =>
                            cases read
                            refine ⟨?_, hasHeader, hasNonce, proof64, hasProof, found, width⟩
                            simpa using plain
                        · cases read
                    · cases read
        · cases read
  · rintro ⟨plain, hasHeader, hasNonce, proof64, hasProof, found, width⟩
    simp [plain, hasHeader, hasNonce, hasProof, found, width]

/-- What a final message has to be for its proof to be looked at. -/
theorem readProof_eq_ok_iff {exchange : Exchange} {message proof : Bytes} :
    exchange.readProof message = .ok proof ↔
      ∃ attributes, Attributes.parse message = .ok attributes ∧
        exchange.proofOf attributes = .ok proof := by
  unfold readProof
  cases Attributes.parse message with
  | error cause => simp
  | ok attributes => simp

/-- What is wrong with a final message is no fault of the server. -/
theorem isInternal_of_readProof {exchange : Exchange} {message : Bytes} {fault : Fault}
    (failed : exchange.readProof message = .error fault) : fault.isInternal = false := by
  unfold readProof proofOf at failed
  grind [Fault.isInternal]

end Exchange

/-! ## What an exchange signs -/

namespace Exchange

variable {first : ClientFirst} (credential : Credential) (account : Option AccountId)
  (serverNonce : Bytes)

/-- The nonce of an exchange is that of its transcript. -/
theorem ofString_nonce (printable : ClientFirst.isNonce first.nonce = true) :
    Bytes.ofString (start first credential account serverNonce).nonce =
      (Transcript.mk first serverNonce credential).nonce := by
  unfold start Transcript.nonce
  simp only [Bytes.ofString_append, Base64.ofString_encodeText,
    Bytes.ofString_asciiText (ClientFirst.ascii_nonce printable)]

theorem ofString_header64 :
    Bytes.ofString (start first credential account serverNonce).header64 =
      Base64.encode first.header :=
  Base64.ofString_encodeText _

/-- The answer of an exchange to the first message is that of its transcript. -/
theorem ofString_serverFirst (printable : ClientFirst.isNonce first.nonce = true) :
    Bytes.ofString (start first credential account serverNonce).serverFirst =
      (Transcript.mk first serverNonce credential).challenge := by
  have nonce := ofString_nonce credential account serverNonce printable
  have spelled : (start first credential account serverNonce).serverFirst =
      "r=" ++ (start first credential account serverNonce).nonce ++ ",s=" ++ credential.salt64 ++
        ",i=" ++ toString credential.iterations := rfl
  rw [spelled]
  simp only [Bytes.ofString_append, nonce, Transcript.challenge]

/-- An exchange signs its transcript. -/
theorem authMessage_start (printable : ClientFirst.isNonce first.nonce = true) :
    (start first credential account serverNonce).authMessage =
      (Transcript.mk first serverNonce credential).signed := by
  have nonce := ofString_nonce credential account serverNonce printable
  have header64 : Bytes.ofString (start first credential account serverNonce).header64 =
      Base64.encode first.header := ofString_header64 credential account serverNonce
  have serverFirst := ofString_serverFirst credential account serverNonce printable
  unfold authMessage Transcript.signed
  rw [nonce, header64, serverFirst]
  rfl

theorem accepts_start (printable : ClientFirst.isNonce first.nonce = true) (proof : Bytes) :
    (start first credential account serverNonce).accepts proof = true ↔
      (Transcript.mk first serverNonce credential).Accepts proof := by
  unfold accepts clientSignature Transcript.Accepts
  rw [authMessage_start credential account serverNonce printable]
  simp only [decide_eq_true_eq]
  rfl

end Exchange

end IrcSasl.Scram
