import IrcSasl.Proofs.Base64
import IrcSasl.Proofs.Scram.Completeness
import IrcSasl.Proofs.Scram.Soundness

set_option autoImplicit false

/-!
# Final messages

A final message is well formed if it repeats the header and the nonce of the exchange and brings a
proof of the length of the digest. The proof then decides whether the client goes on or has failed,
and every other message is refused. Unless the client goes on, the exchange stays as it was, so that
another final message may follow (`Server.final_classified`).
-/

namespace IrcSasl.Scram

variable {D C : Type} [AccountDirectory D] [CredentialStore C]

/-- A final message for an exchange whose account is still there, if it has one: a list without
extensions that repeats header and nonce and brings a proof of the right length. -/
structure WellFormed (accounts : D) (exchange : Exchange) (message proof : Bytes) : Prop where
  live : ∀ id, exchange.account = some id → (AccountDirectory.findById accounts id).isSome
  clean : 0 ∉ message
  listed : ∃ attributes, Attributes.parse message = .ok attributes ∧
    attributes.get? 0x6D = none ∧
    attributes.get? 0x63 = some (Bytes.ofString exchange.header64) ∧
    attributes.get? 0x72 = some (Bytes.ofString exchange.nonce) ∧
    attributes.get? 0x70 = some (Base64.encode proof)
  width : proof.length = exchange.digest.outputLength

/-- The stored key is the hash of what a proof hides under the signature of the client. -/
def Exchange.Unlocks (exchange : Exchange) (proof : Bytes) : Prop :=
  let storedKey := exchange.credential.storedKey
  exchange.digest.hash
    (Bytes.xor proof (exchange.digest.hmac storedKey exchange.authMessage)) = storedKey

theorem Exchange.accepts_iff_unlocks {exchange : Exchange} {proof : Bytes} :
    exchange.accepts proof = true ↔ exchange.Unlocks proof := decide_eq_true_iff

omit [CredentialStore C] in
theorem accountRemains_iff {accounts : D} {exchange : Exchange} :
    accountRemains accounts exchange = true ↔
      ∀ id, exchange.account = some id → (AccountDirectory.findById accounts id).isSome := by
  unfold accountRemains
  cases exchange.account with
  | none => simp
  | some id => simp

omit [CredentialStore C] in
/-- A message is well formed exactly if it passes every check before that of its proof. -/
theorem wellFormed_iff {accounts : D} {exchange : Exchange} {message proof : Bytes} :
    WellFormed accounts exchange message proof ↔
      checkMessage message = .ok () ∧ accountRemains accounts exchange = true ∧
        exchange.readProof message = .ok proof := by
  rw [accountRemains_iff, checkMessage_eq_ok_iff, Exchange.readProof_eq_ok_iff]
  simp only [Exchange.proofOf_eq_ok_iff, Base64.decode?_eq_some_iff]
  constructor
  · rintro ⟨live, clean, ⟨attributes, listed, plain, header, nonce, proof64⟩, width⟩
    refine ⟨⟨?_, clean⟩, live, attributes, listed, plain, header, nonce, _, proof64, rfl, width⟩
    rintro rfl
    cases listed
  · rintro ⟨⟨-, clean⟩, live, attributes, listed, plain, header, nonce, _, proof64, rfl, width⟩
    exact ⟨live, clean, ⟨attributes, listed, plain, header, nonce, proof64⟩, width⟩

omit [CredentialStore C] in
/-- A message brings one proof at most. -/
theorem WellFormed.unique {accounts : D} {exchange : Exchange} {message proof other : Bytes}
    (formed : WellFormed accounts exchange message proof)
    (again : WellFormed accounts exchange message other) : other = proof := by
  obtain ⟨-, -, read⟩ := wellFormed_iff.mp formed
  obtain ⟨-, -, readOther⟩ := wellFormed_iff.mp again
  exact Except.ok.inj (readOther.symm.trans read)

/-- What becomes of a final message, with the context that is left. -/
inductive Outcome (ctx : Context D C) (exchange : Exchange) (message : Bytes) :
    Step × Context D C → Prop where
  | proved {proof : Bytes} (formed : WellFormed ctx.accounts exchange message proof)
      (unlocks : exchange.Unlocks proof) :
      Outcome ctx exchange message
        (.more (Bytes.ofString ("v=" ++ Base64.encodeText exchange.serverSignature)),
          (ctx.noteScram .authenticated).setState (.scram { exchange with complete := true }))
  | mismatched {proof : Bytes} (formed : WellFormed ctx.accounts exchange message proof)
      (locked : ¬exchange.Unlocks proof) :
      Outcome ctx exchange message
        (.failure (errorReply "invalid-proof"), ctx.noteScram .proofMismatch)
  | refused (fault : Fault)
      (malformed : ¬∃ proof, WellFormed ctx.accounts exchange message proof) :
      Outcome ctx exchange message (refuse ctx fault)

omit [CredentialStore C] in
theorem outcome_clientFinal (ctx : Context D C) (exchange : Exchange) (message : Bytes) :
    Outcome ctx exchange message (clientFinal ctx exchange message) := by
  have passes {proof : Bytes} (formed : WellFormed ctx.accounts exchange message proof) :=
    wellFormed_iff.mp formed
  unfold clientFinal
  split
  · next fault unclean =>
      refine .refused fault fun ⟨_, formed⟩ => ?_
      cases unclean.symm.trans (passes formed).1
  · next clean =>
      split
      · next dropped =>
          refine .refused _ fun ⟨_, formed⟩ => ?_
          rw [(passes formed).2.1] at dropped
          cases dropped
      · next remains =>
          have remains : accountRemains ctx.accounts exchange = true := by simpa using remains
          split
          · next fault unread =>
              refine .refused fault fun ⟨_, formed⟩ => ?_
              cases unread.symm.trans (passes formed).2.2
          · next proof read =>
              have formed := wellFormed_iff.mpr ⟨clean, remains, read⟩
              split
              · next accepted => exact .proved formed (Exchange.accepts_iff_unlocks.mp accepted)
              · next rejected =>
                  exact .mismatched formed fun unlocks =>
                    rejected (Exchange.accepts_iff_unlocks.mpr unlocks)

omit [CredentialStore C] in
/-- Another note in the log changes nothing about what becomes of a final message. -/
theorem clientFinal_noteScram (ctx : Context D C) (note : Log.ScramNote) (exchange : Exchange)
    (message : Bytes) :
    (clientFinal (ctx.noteScram note) exchange message).1 = (clientFinal ctx exchange message).1 ∧
      (clientFinal (ctx.noteScram note) exchange message).2.session =
        (clientFinal ctx exchange message).2.session := by
  have accounts : (ctx.noteScram note).accounts = ctx.accounts := rfl
  unfold clientFinal
  rw [accounts]
  split
  · exact ⟨rfl, rfl⟩
  · split
    · exact ⟨rfl, rfl⟩
    · split
      · exact ⟨rfl, rfl⟩
      · split <;> exact ⟨rfl, rfl⟩

namespace Server

/-- What becomes of a message when an exchange waits for the proof. The client goes on if the
message is well formed and its proof fits, has failed if the message is well formed and its proof
does not fit, and is refused otherwise. To go on completes the exchange and changes nothing else;
otherwise nothing is changed, and what becomes of any later message is the same as before. -/
theorem final_classified (server : Server) {ctx : Context D C} {exchange : Exchange}
    (waits : ctx.session.state = some (.scram exchange)) (unproved : exchange.complete = false)
    (message : Bytes) :
    let result := server.step ctx message
    ((∃ reply, result.1 = .more reply) ↔
        ∃ proof, WellFormed ctx.accounts exchange message proof ∧ exchange.Unlocks proof) ∧
      (result.1 = .failure (Bytes.ofString "e=invalid-proof") ↔
        ∃ proof, WellFormed ctx.accounts exchange message proof ∧ ¬exchange.Unlocks proof) ∧
      ((∃ reply, result.1 = .refused reply) ↔
        ¬∃ proof, WellFormed ctx.accounts exchange message proof) ∧
      (∀ reply, result.1 = .more reply →
        reply = Bytes.ofString "v=" ++ Base64.encode
            (exchange.digest.hmac exchange.credential.serverKey exchange.authMessage) ∧
          result.2.session =
            { ctx.session with state := some (.scram { exchange with complete := true }) } ∧
          result.2.accounts = ctx.accounts) ∧
      ((∀ reply, result.1 ≠ .more reply) →
        result.2.session = ctx.session ∧ result.2.accounts = ctx.accounts ∧
          ∀ later, (server.step result.2 later).1 = (server.step ctx later).1 ∧
            (server.step result.2 later).2.session = (server.step ctx later).2.session) := by
  have fed {other : Context D C} (same : other.session = ctx.session) (message : Bytes) :
      server.step other message = clientFinal other exchange message := by
    rw [step, same, waits]
    simp only [unproved, Bool.false_eq_true, if_false]
  have unmoved (note : Log.ScramNote) (later : Bytes) :
      (server.step (ctx.noteScram note) later).1 = (server.step ctx later).1 ∧
        (server.step (ctx.noteScram note) later).2.session =
          (server.step ctx later).2.session := by
    have same : (ctx.noteScram note).session = ctx.session := rfl
    rw [fed same, fed rfl]
    exact clientFinal_noteScram ctx note exchange later
  intro result
  have outcome : Outcome ctx exchange message result := by
    rw [show result = clientFinal ctx exchange message from fed rfl message]
    exact outcome_clientFinal ctx exchange message
  clear_value result
  cases outcome with
  | @proved proof formed unlocks =>
      refine ⟨iff_of_true ⟨_, rfl⟩ ⟨proof, formed, unlocks⟩, iff_of_false (by rintro ⟨⟩) ?_,
        iff_of_false (by rintro ⟨_, ⟨⟩⟩) (fun none => none ⟨proof, formed⟩), ?_,
        fun none => absurd rfl (none _)⟩
      · rintro ⟨other, again, locked⟩
        exact locked (formed.unique again ▸ unlocks)
      · rintro reply ⟨⟩
        refine ⟨?_, rfl, rfl⟩
        rw [Bytes.ofString_append, Base64.ofString_encodeText]
        rfl
  | @mismatched proof formed locked =>
      refine ⟨iff_of_false (by rintro ⟨_, ⟨⟩⟩) ?_, iff_of_true rfl ⟨proof, formed, locked⟩,
        iff_of_false (by rintro ⟨_, ⟨⟩⟩) (fun none => none ⟨proof, formed⟩), by rintro _ ⟨⟩,
        fun _ => ⟨rfl, rfl, ?_⟩⟩
      · rintro ⟨other, again, unlocks⟩
        exact locked (formed.unique again ▸ unlocks)
      · exact unmoved _
  | refused fault malformed =>
      refine ⟨iff_of_false (by rintro ⟨_, ⟨⟩⟩) ?_, iff_of_false (by rintro ⟨⟩) ?_,
        iff_of_true ⟨_, rfl⟩ malformed, by rintro _ ⟨⟩, fun _ => ⟨rfl, rfl, unmoved _⟩⟩
      · rintro ⟨proof, formed, -⟩
        exact malformed ⟨proof, formed⟩
      · rintro ⟨proof, formed, -⟩
        exact malformed ⟨proof, formed⟩

end Server

/-! ## A wrong proof, and then the right one -/

/-- An exchange that waits for the proof that its client knows `pencil`. -/
def pencilExchange : Exchange :=
  .start ⟨Bytes.ofString "n,,", none, Bytes.ofString "n=alice,r=abcdefgh", "alice",
      Bytes.ofString "abcdefgh"⟩
    (.ofSaltedPassword .sha1 1 "c2FsdHNhbHQ=" <|
      Digest.sha1.pbkdf2 1 (Bytes.ofString "saltsalt") (Bytes.ofString "pencil"))
    (some ⟨1⟩) ((List.range 48).map fun place => UInt8.ofNat (11 * place))

/-- What a server has at hand in that exchange. -/
def pencilWaiting : Context MemoryDirectory PasswordHasher :=
  pencilEngine.context
    { info := { uid := "U1", server := "hub" }, state := some (.scram pencilExchange) }

/-- A final message for that exchange with a proof in base64. -/
def pencilFinal (proof64 : String) : Bytes :=
  Bytes.ofString <| "c=biws,r=abcdefghAAsWISw3Qk1YY255hI+apbC7xtHc5/L9CBMeKTQ/SlVga3aBjJeirbjDz" ++
    "tnk7/oF,p=" ++ proof64

set_option maxRecDepth 100000 in
/-- A proof that does not fit fails, and the one that fits is accepted behind it. -/
theorem final_classified_pencil :
    (∃ proof, WellFormed pencilWaiting.accounts pencilExchange
        (pencilFinal "AAAAAAAAAAAAAAAAAAAAAAAAAAA=") proof ∧ ¬pencilExchange.Unlocks proof) ∧
      (pencilServer.step
          (pencilServer.step pencilWaiting (pencilFinal "AAAAAAAAAAAAAAAAAAAAAAAAAAA=")).2
          (pencilFinal "EVWM+NXmNObvXh2Ot6+WYigiOl4=")).1 =
        .more (Bytes.ofString "v=yk5QsR7dphuSOj56Az95DFNCTE8=") := by
  have waits : pencilWaiting.session.state = some (.scram pencilExchange) := rfl
  obtain ⟨-, failed, -, -, unmoved⟩ := pencilServer.final_classified waits rfl
    (pencilFinal "AAAAAAAAAAAAAAAAAAAAAAAAAAA=")
  have wrong : (pencilServer.step pencilWaiting (pencilFinal "AAAAAAAAAAAAAAAAAAAAAAAAAAA=")).1 =
      .failure (Bytes.ofString "e=invalid-proof") := by decide +kernel
  have right : (pencilServer.step pencilWaiting (pencilFinal "EVWM+NXmNObvXh2Ot6+WYigiOl4=")).1 =
      .more (Bytes.ofString "v=yk5QsR7dphuSOj56Az95DFNCTE8=") := by decide +kernel
  refine ⟨failed.mp wrong, ?_⟩
  obtain ⟨-, -, later⟩ := unmoved fun reply same => by cases wrong.symm.trans same
  rw [(later _).1, right]

end IrcSasl.Scram
