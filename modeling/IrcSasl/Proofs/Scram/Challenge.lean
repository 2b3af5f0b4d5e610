import IrcSasl.Proofs.Engine.Receive
import IrcSasl.Proofs.Scram.Client
import Mathlib.Data.List.Basic

set_option autoImplicit false

/-!
# Challenges

The answer to the first message of a client holds a nonce, a salt and an iteration count, which can
be told from its frames (`Scram.challengeFrames_inj`). A SCRAM server gives that answer whenever it
has come by a credential and by random bytes, and it does not matter in which frames the message of
the client comes (`Engine.Serves.opens`).
-/

namespace IrcSasl

namespace Scram

/-- The answer to a first message: nonce, salt and iteration count. -/
def challengeText (nonce salt : Bytes) (iterations : UInt32) : Bytes :=
  Bytes.ofString "r=" ++ nonce ++ (Bytes.ofString ",s=" ++
    (Base64.encode salt ++ Attributes.comma :: (Bytes.ofString "i=" ++
      Bytes.ofString (toString iterations))))

/-- What a client reads in a challenge is decided by the challenge. -/
theorem challengeText_inj {nonce salt other : Bytes} {iterations count : UInt32} :
    challengeText nonce salt iterations = challengeText nonce other count ↔
      salt = other ∧ iterations = count := by
  constructor
  · intro same
    have unbroken (bytes : Bytes) : Attributes.comma ∉ Base64.encode bytes := fun member =>
      Base64.forall_mem_encode (· ≠ Attributes.comma) (by decide) (by decide) bytes _ member rfl
    have behind (number : UInt32) :
        Attributes.comma ∉ Bytes.ofString "i=" ++ Bytes.ofString (toString number) := by
      intro member
      rcases List.mem_append.mp member with front | digits
      · exact absurd front (by decide)
      · exact (Attributes.isValue_numeral number).comma digits
    have rest := List.append_cancel_left (List.append_cancel_left same)
    obtain ⟨salts, -, counts⟩ :=
      (List.append_cons_inj_of_notMem (unbroken salt) (behind iterations)).mp rest
    have salts := congrArg Base64.decode? salts
    simp only [Base64.decode?_encode, Option.some.injEq] at salts
    have counts := congrArg (fun text => Credential.readNumeral text.toList)
      (Bytes.ofString_inj.mp (List.append_cancel_left counts))
    simp only [Credential.readNumeral_toString, Option.some.injEq] at counts
    exact ⟨salts, counts⟩
  · rintro ⟨rfl, rfl⟩
    rfl

/-- Challenges that differ only in the bytes of the salt are of one length. -/
theorem length_challengeText {salt other : Bytes} (width : salt.length = other.length)
    (nonce : Bytes) (iterations : UInt32) :
    (challengeText nonce salt iterations).length =
      (challengeText nonce other iterations).length := by
  simp only [challengeText, List.length_append, List.length_cons, Base64.length_encode, width]

/-- The frames of a challenge. -/
def challengeFrames (id : String) (nonce salt : Bytes) (iterations : UInt32) : List Outbound :=
  (Frame.ofMessage (challengeText nonce salt iterations)).map (.serverData id)

/-- What a client reads in a challenge can be told from its frames. -/
theorem challengeFrames_inj {id : String} {nonce salt other : Bytes} {iterations count : UInt32} :
    challengeFrames id nonce salt iterations = challengeFrames id nonce other count ↔
      salt = other ∧ iterations = count := by
  have injective : Function.Injective (Outbound.serverData id) := by
    intro chunk other same
    cases same
    rfl
  rw [challengeFrames, challengeFrames, (List.map_injective_iff.mpr injective).eq_iff,
    Frame.ofMessage_inj, challengeText_inj]

/-- The answer of an exchange to the message that has opened it. -/
theorem Exchange.ofString_serverFirst_start {first : ClientFirst}
    (printable : ClientFirst.isNonce first.nonce = true) {credential : Credential} {salt : Bytes}
    (salted : credential.salt64 = Base64.encodeText salt) (account : Option AccountId)
    (serverNonce : Bytes) :
    Bytes.ofString (start first credential account serverNonce).serverFirst =
      challengeText (first.nonce ++ Base64.encode serverNonce) salt credential.iterations := by
  rw [ofString_serverFirst credential account serverNonce printable]
  have comma : Bytes.ofString ",i=" = Attributes.comma :: Bytes.ofString "i=" := by decide
  simp only [Transcript.challenge, Transcript.nonce, salted, Base64.ofString_encodeText,
    challengeText, comma, List.append_assoc, List.cons_append]

/-- The rejection of a message: what was wrong, and that the negotiation has failed. -/
def rejection (id token : String) : List Outbound :=
  Engine.replyFrames id (errorReply token) ++ [.outcome id .failure]

end Scram

/-! ## Messages to a SCRAM server -/

namespace Engine

variable {D C : Type}

/-- The messages of a session go to a SCRAM server. -/
def Serves (engine : Engine D C) (id : String) (server : Scram.Server) (session : Session) : Prop :=
  ∃ registration : Registration, registration.mechanism = .scram server ∧
    engine.Handles id registration session

theorem Serves.found {engine : Engine D C} {id : String} {server : Scram.Server} {session : Session}
    (serves : engine.Serves id server session) : engine.sessions.find? id = some session := by
  obtain ⟨registration, scram, handles⟩ := serves
  exact handles.found

/-- The first message of a client is the one that finds no exchange. -/
theorem step_of_opening [AccountDirectory D] [CredentialStore C] (engine : Engine D C)
    (server : Scram.Server) (message : Bytes) {session : Session} (opening : session.state = none) :
    server.step (engine.context (fed session)) message =
      server.clientFirst (engine.context (fed session)) message := by
  have idle : (engine.context (fed session)).session.state = none := opening
  rw [Scram.Server.step, idle]

namespace Serves

variable [AccountDirectory D] [CredentialStore C] {engine : Engine D C} {id : String}
  {server : Scram.Server} {session : Session} (serves : engine.Serves id server session)
  (uplink : String) {frames : List String} {message : Bytes}
  (whole : session.decoder.assemble? frames = some message)

include serves whole

/-- A client whose message is not accepted is told so. -/
theorem rejects {step : Step} {after : Context D C} {token : String}
    (stepped : server.step (engine.context (fed session)) message = (step, after))
    (quiet : after.mechlist = none)
    (rejected : step = .refused (Scram.errorReply token) ∨
      step = .failure (Scram.errorReply token)) :
    (engine.handleAll uplink (frames.map (.clientData id))).1 = Scram.rejection id token := by
  obtain ⟨registration, scram, handles⟩ := serves
  have stepped := (Registration.step_of_scram scram _ _).trans stepped
  rw [(handles.gives uplink whole stepped quiet).frames, Scram.rejection]
  have uid := handles.uid stepped
  rcases rejected with rfl | rfl
  · simp only [Reply.ofStep, uid]
  · simp only [Reply.ofStep, uid]

/-- A client whose message is answered goes on in the session that the step has left. -/
theorem answers {data : Bytes} {after : Context D C}
    (stepped : server.step (engine.context (fed session)) message = (.more data, after))
    (quiet : after.mechlist = none) :
    let result := engine.handleAll uplink (frames.map (.clientData id))
    result.1 = (Frame.ofMessage data).map (.serverData id) ∧
      result.2.accounts = after.accounts ∧ result.2.Serves id server after.session ∧
      after.session.decoder = session.decoder.clear := by
  obtain ⟨registration, scram, handles⟩ := serves
  have stepped := (Registration.step_of_scram scram _ _).trans stepped
  obtain ⟨sent, accounts, -, handled, decoder⟩ := handles.answers uplink whole stepped quiet
  exact ⟨sent, accounts, ⟨registration, scram, handled⟩, decoder⟩

/-- A client whose first message is refused is told why. -/
theorem refuses (opening : session.state = none) {fault : Scram.Fault} {middle : Context D C}
    (refused : server.clientFirst (engine.context (fed session)) message =
      Scram.refuse middle fault) (quiet : middle.mechlist = none) :
    (engine.handleAll uplink (frames.map (.clientData id))).1 = Scram.rejection id fault.token :=
  serves.rejects uplink whole ((step_of_opening engine server message opening).trans refused) quiet
    (.inl rfl)

/-- A first message that there is a credential for opens an exchange with the next random bytes. -/
theorem opens (opening : session.state = none) {first : Scram.ClientFirst}
    (parsed : Scram.ClientFirst.parse message = .ok first) {credential : Credential}
    {account : Option AccountId} {middle : Context D C}
    (credited : server.credentialFor
      ((engine.context (fed session)).noteScram (.parsed first.authcid first.authzid)) first =
        (.ok (credential, account), middle))
    (quiet : middle.mechlist = none) {salt : Bytes}
    (salted : credential.salt64 = Base64.encodeText salt) {serverNonce : Bytes}
    (drawn : (middle.env.entropy.fill Limits.nonceLengthRaw).1 = some serverNonce) :
    let result := engine.handleAll uplink (frames.map (.clientData id))
    result.1 = Scram.challengeFrames id (first.nonce ++ Base64.encode serverNonce) salt
        credential.iterations ∧
      result.2.accounts = middle.accounts ∧ ∃ after : Session,
        result.2.Serves id server after ∧ after.decoder = session.decoder.clear ∧
        after.state = some (.scram (.start first credential account serverNonce)) := by
  intro result
  have stepped := (step_of_opening engine server message opening).trans
    (Scram.Server.clientFirst_of_drawn parsed credited drawn)
  rw [Scram.Exchange.ofString_serverFirst_start (Scram.ClientFirst.isNonce_of_parse parsed)
    salted] at stepped
  obtain ⟨sent, accounts, serves, decoder⟩ := serves.answers uplink whole stepped quiet
  exact ⟨sent, accounts, _, serves, decoder, rfl⟩

end Serves

end Engine

end IrcSasl
