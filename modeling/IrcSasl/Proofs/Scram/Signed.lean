import IrcSasl.Proofs.Scram.Final
import IrcSasl.Proofs.Scram.Replay
import Mathlib.Data.List.Nodup
import Mathlib.Data.List.Perm.Subperm

set_option autoImplicit false

/-!
# What a final message leaves unsigned

The last part of what both sides sign is put together from the header and the nonce of the exchange.
It is the final message as it was received, without its proof, exactly if this message brings these
two and then the proof, and nothing else (`Transcript.Carries.covers_iff`). Any other attribute, and
the order of all, is up to whoever passes the message on: the server decides as it would without
(`accepted_covers_iff`).
-/

namespace IrcSasl.Scram

namespace Attributes

/-- Lists with the same names in the same order are equal if one has all that is in the other. -/
theorem eq_of_names {first second : Attributes} (distinct : (first.map Prod.fst).Nodup)
    (names : first.map Prod.fst = second.map Prod.fst) (within : ∀ entry ∈ second, entry ∈ first) :
    first = second := by
  have lengths : first.length = second.length := by
    simpa using congrArg List.length names
  refine List.ext_getElem lengths fun place early late => ?_
  refine List.inj_on_of_nodup_map distinct (List.getElem_mem early)
    (within _ (List.getElem_mem late)) ?_
  have same := List.getElem_of_eq names (by simpa using early)
  simpa using same

end Attributes

namespace Transcript

/-! ## Final messages and their signatures -/

/-- The final message without its proof, as both sides sign it. -/
def final (transcript : Transcript) : Bytes :=
  Bytes.ofString "c=" ++ Base64.encode transcript.opening.header ++ Bytes.ofString ",r=" ++
    transcript.nonce

/-- The attributes that a final message has to bring. -/
def fields (transcript : Transcript) (proof : Bytes) : Attributes :=
  [(0x63, Base64.encode transcript.opening.header), (0x72, transcript.nonce),
   (0x70, Base64.encode proof)]

theorem signed_eq (transcript : Transcript) :
    transcript.signed = transcript.opening.bare ++ Bytes.ofString "," ++ transcript.challenge ++
      Bytes.ofString "," ++ transcript.final := by
  have header : Bytes.ofString ",c=" = Bytes.ofString "," ++ Bytes.ofString "c=" := by decide
  simp only [signed, final, header, List.append_assoc]

theorem nodup_fields (transcript : Transcript) (proof : Bytes) :
    ((transcript.fields proof).map Prod.fst).Nodup := by
  simp [fields]

theorem print_fields (transcript : Transcript) (proof : Bytes) :
    Attributes.print (transcript.fields proof) =
      transcript.final ++ Bytes.ofString ",p=" ++ Base64.encode proof := by
  have header : Bytes.ofString "c=" = [0x63, 0x3D] := by decide
  have nonce : Bytes.ofString ",r=" = [0x2C, 0x72, 0x3D] := by decide
  have sign : Bytes.ofString ",p=" = [0x2C, 0x70, 0x3D] := by decide
  simp only [fields, final, header, nonce, sign, Attributes.print, Attributes.comma,
    Attributes.equalsSign, List.map_cons, List.map_nil, Fields.join, List.cons_append,
    List.append_assoc, List.nil_append]

/-- A final message brings header, nonce and proof, in whatever order, and other attributes. -/
structure Carries (transcript : Transcript) (proof message : Bytes)
    (attributes others : Attributes) : Prop where
  clean : 0 ∉ message
  listed : Attributes.parse message = .ok attributes
  arranged : attributes.Perm (transcript.fields proof ++ others)
  foreign : ∀ entry ∈ others, entry.1 ∉ [0x63, 0x72, 0x70, 0x6D]

/-- The last part of what was signed is a message without its proof. -/
def Covers (transcript : Transcript) (proof message : Bytes) : Prop :=
  ∃ withoutProof,
    message = withoutProof ++ Bytes.ofString ",p=" ++ Base64.encode proof ∧
    transcript.signed = transcript.opening.bare ++ Bytes.ofString "," ++ transcript.challenge ++
      Bytes.ofString "," ++ withoutProof

/-- The only message that is covered is the one that brings just what it has to, in order. -/
theorem covers_iff {transcript : Transcript} {proof message : Bytes} :
    transcript.Covers proof message ↔ message = Attributes.print (transcript.fields proof) := by
  rw [print_fields]
  constructor
  · rintro ⟨withoutProof, rfl, signed⟩
    rw [signed_eq] at signed
    rw [List.append_cancel_left signed]
  · rintro rfl
    exact ⟨transcript.final, rfl, transcript.signed_eq⟩

namespace Carries

variable {transcript : Transcript} {proof message : Bytes} {attributes others : Attributes}

theorem printable (carries : transcript.Carries proof message attributes others) :
    attributes.Printable :=
  (Attributes.parse_eq_ok_iff.mp carries.listed).1

theorem mem (carries : transcript.Carries proof message attributes others) {entry : UInt8 × Bytes}
    (member : entry ∈ transcript.fields proof) : entry ∈ attributes :=
  carries.arranged.mem_iff.mpr (List.mem_append_left _ member)

/-- A message is covered exactly if it names header, nonce and proof in this order and nothing
else. -/
theorem covers_iff (carries : transcript.Carries proof message attributes others) :
    transcript.Covers proof message ↔ attributes.map Prod.fst = [0x63, 0x72, 0x70] := by
  obtain ⟨printable, rfl⟩ := Attributes.parse_eq_ok_iff.mp carries.listed
  rw [Transcript.covers_iff]
  constructor
  · intro same
    have fields : (transcript.fields proof).Printable :=
      ⟨List.cons_ne_nil _ _, transcript.nodup_fields proof,
        fun entry member => printable.letters entry (carries.mem member),
        fun entry member => printable.values entry (carries.mem member)⟩
    have parsed := Attributes.parse_print printable
    rw [same, Attributes.parse_print fields] at parsed
    rw [← Except.ok.inj parsed]
    rfl
  · intro names
    have same : attributes = transcript.fields proof :=
      Attributes.eq_of_names printable.distinct names fun entry => carries.mem
    rw [same]

/-- The message has no extension. -/
theorem plain (carries : transcript.Carries proof message attributes others) :
    attributes.get? 0x6D = none := by
  rw [Attributes.get?_eq_none_iff, (carries.arranged.map Prod.fst).mem_iff, List.map_append,
    List.mem_append, not_or]
  refine ⟨(by decide : (0x6D : UInt8) ∉ [0x63, 0x72, 0x70]), ?_⟩
  intro member
  obtain ⟨entry, inside, named⟩ := List.mem_map.mp member
  exact carries.foreign entry inside (by simp [named])

end Carries

/-- A message without extensions that brings what it has to brings the rest besides. -/
theorem exists_carries {transcript : Transcript} {proof message : Bytes} {attributes : Attributes}
    (clean : 0 ∉ message) (listed : Attributes.parse message = .ok attributes)
    (plain : attributes.get? 0x6D = none)
    (within : ∀ entry ∈ transcript.fields proof, entry ∈ attributes) :
    ∃ others, transcript.Carries proof message attributes others := by
  have distinct := (Attributes.parse_eq_ok_iff.mp listed).1.distinct
  obtain ⟨found, same, inside⟩ :=
    List.subperm_of_subset (transcript.nodup_fields proof).of_map within
  obtain ⟨others, rest⟩ := inside.exists_perm_append
  have arranged : attributes.Perm (transcript.fields proof ++ others) :=
    rest.trans (same.append_right others)
  refine ⟨others, clean, listed, arranged, ?_⟩
  intro entry member named
  -- As names are distinct, what is left over has none of the names that were asked for.
  rw [show [0x63, 0x72, 0x70, 0x6D] = (transcript.fields proof).map Prod.fst ++ [0x6D] from rfl,
    List.mem_append, List.mem_singleton] at named
  rcases named with own | extension
  · have apart := (arranged.map Prod.fst).nodup distinct
    rw [List.map_append, List.nodup_append] at apart
    exact apart.2.2 entry.1 own entry.1 (List.mem_map_of_mem member) rfl
  · have present : entry ∈ attributes := arranged.mem_iff.mpr (List.mem_append_right _ member)
    exact Attributes.get?_eq_none_iff.mp plain (extension ▸ List.mem_map_of_mem present)

end Transcript

/-! ## Messages that are accepted -/

namespace Exchange

variable {first : ClientFirst} {credential : Credential} {account : Option AccountId}
  {serverNonce message proof : Bytes}

/-- The proof of a message can be read exactly if the message brings what it has to. -/
theorem read_iff_carries (printable : ClientFirst.isNonce first.nonce = true) :
    (checkMessage message = .ok () ∧
        (start first credential account serverNonce).readProof message = .ok proof) ↔
      proof.length = credential.digest.outputLength ∧ ∃ attributes others,
        (Transcript.mk first serverNonce credential).Carries proof message attributes others := by
  rw [checkMessage_eq_ok_iff, readProof_eq_ok_iff]
  simp only [proofOf_eq_ok_iff, Base64.decode?_eq_some_iff, ofString_header64,
    ofString_nonce credential account serverNonce printable]
  constructor
  · rintro ⟨⟨-, clean⟩, attributes, listed, plain, header, nonce, _, proof64, rfl, width⟩
    refine ⟨width, attributes, Transcript.exists_carries clean listed plain ?_⟩
    simp only [Transcript.fields, List.forall_mem_cons]
    exact ⟨Attributes.mem_of_get? header, Attributes.mem_of_get? nonce,
      Attributes.mem_of_get? proof64, List.forall_mem_nil _⟩
  · rintro ⟨width, attributes, others, carries⟩
    have found {name : UInt8} {value : Bytes}
        (member : (name, value) ∈ (Transcript.mk first serverNonce credential).fields proof) :
        attributes.get? name = some value :=
      (Attributes.get?_eq_some_iff carries.printable.distinct).mpr (carries.mem member)
    refine ⟨⟨?_, carries.clean⟩, attributes, carries.listed, carries.plain, found (.head _),
      found (.tail _ (.head _)), _, found (.tail _ (.tail _ (.head _))), rfl, width⟩
    rintro rfl
    cases carries.listed

end Exchange

variable {D C : Type} [AccountDirectory D] [CredentialStore C]

omit [CredentialStore C] in
/-- A client goes on after a final message only if the message passes every check and its proof
fits. -/
theorem checked_of_more {ctx after : Context D C} {exchange : Exchange} {message reply : Bytes}
    (went : clientFinal ctx exchange message = (.more reply, after)) :
    ∃ proof, checkMessage message = .ok () ∧ accountRemains ctx.accounts exchange = true ∧
      exchange.readProof message = .ok proof ∧ exchange.accepts proof = true := by
  have outcome := outcome_clientFinal ctx exchange message
  rw [went] at outcome
  cases outcome with
  | @proved proof formed unlocks =>
      obtain ⟨clean, remains, read⟩ := wellFormed_iff.mp formed
      exact ⟨proof, clean, remains, read, Exchange.accepts_iff_unlocks.mpr unlocks⟩

/-- A proof was accepted for what an exchange has signed: the first message without its header, the
answer as it was sent, and the final message as it is put together. -/
structure Endorsed (id : String) (first : Message D C) (exchange : Exchange)
    (transcript : Transcript) (proof : Bytes) : Prop where
  parsed : ClientFirst.parse first.bytes = .ok transcript.opening
  spelled : transcript.opening.header ++ transcript.opening.bare = first.bytes
  challenged : first.answer = (Frame.ofMessage transcript.challenge).map (.serverData id)
  signed : exchange.authMessage = transcript.signed
  accepted : transcript.Accepts proof

/-- A client that goes on after its final message has brought header, nonce and proof, which are
endorsed. What was signed ends with that message, without its proof, exactly if it names these three
in this order and nothing else, and any other message that brings them has the server decide the
same. -/
theorem accepted_covers_iff {observed : Observed D C} (reachable : observed.Reachable)
    (uplink : String) {inbound : Inbound} {arrival : Arrival} {server : Server}
    {exchange : Exchange} {reply : Bytes} {after : Context D C}
    (arrived : observed.engine.arrival? inbound = some arrival)
    (scram : arrival.registration.mechanism = .scram server)
    (waits : arrival.session.state = some (.scram exchange)) (unproved : exchange.complete = false)
    (continued : observed.engine.decide arrival = (.more reply, after)) :
    ∃ first transcript proof attributes others,
      ((observed.perform (.frame uplink inbound)).dialogue inbound.session).messages =
        [first, observed.heard uplink inbound arrival] ∧
      Endorsed inbound.session first exchange transcript proof ∧
      transcript.Carries proof arrival.message attributes others ∧
      (transcript.Covers proof arrival.message ↔ attributes.map Prod.fst = [0x63, 0x72, 0x70]) ∧
      ∀ message written more, transcript.Carries proof message written more →
        observed.engine.decide { arrival with message } = (.more reply, after) := by
  have faithful := reachable.faithful
  have decides (message : Bytes) : observed.engine.decide { arrival with message } =
      clientFinal (observed.engine.context arrival.session) exchange message :=
    (Registration.step_of_scram scram _ message).trans (server.step_of_waits waits unproved message)
  cases faithful.progress arrived with
  | silent said none => cases none.symm.trans waits
  | proved _ _ complete =>
      cases complete.symm.trans waits
      cases unproved
  | @opened _ first opening serverNonce _ _ said state opened =>
      cases state.symm.trans waits
      have went := (decides arrival.message).symm.trans continued
      obtain ⟨proof, clean, remains, read, accepted⟩ := checked_of_more went
      have printable := ClientFirst.isNonce_of_parse opened.parsed
      have started := opened.started
      let transcript : Transcript := ⟨opening, serverNonce, exchange.credential⟩
      have reads (message : Bytes) :
          (checkMessage message = .ok () ∧ exchange.readProof message = .ok proof) ↔
            proof.length = exchange.credential.digest.outputLength ∧
              ∃ attributes others, transcript.Carries proof message attributes others := by
        have reads := @Exchange.read_iff_carries opening exchange.credential exchange.account
          serverNonce message proof printable
        rwa [← started] at reads
      obtain ⟨width, attributes, others, carries⟩ := (reads arrival.message).mp ⟨clean, read⟩
      refine ⟨first, transcript, proof, attributes, others, ?_,
        ⟨opened.parsed, ClientFirst.header_append_bare opened.parsed, ?_, ?_, ?_⟩, carries,
        carries.covers_iff, ?_⟩
      · rw [faithful.messages uplink arrived, Dialogue.answered, said]
        rfl
      · have answered := opened.answered
        rwa [started, Exchange.ofString_serverFirst _ _ _ printable] at answered
      · exact (congrArg Exchange.authMessage started).trans
          (Exchange.authMessage_start _ _ _ printable)
      · rwa [started, Exchange.accepts_start _ _ _ printable] at accepted
      · intro message written more carries
        obtain ⟨cleanOther, readOther⟩ := (reads message).mpr ⟨width, written, more, carries⟩
        rw [decides, clientFinal_of_accepts cleanOther remains readOther accepted, ← went,
          clientFinal_of_accepts clean remains read accepted]

/-! ## A message with an attribute put in -/

/-- The client has opened an exchange. -/
def pencilOpened : Observed MemoryDirectory PasswordHasher :=
  (Observed.opening pencilEngine).run (pencilEvents.take 3)

/-- Its final message, into which somebody has put an attribute on the way. -/
def pencilTampered : Bytes :=
  Bytes.ofString <| "c=biws,r=abcdefghAAsWISw3Qk1YY255hI+apbC7xtHc5/L9CBMeKTQ/SlVga3aBjJeirbjDz" ++
    "tnk7/oF,x=unsigned,p=EVWM+NXmNObvXh2Ot6+WYigiOl4="

/-- The frame that brings the message. -/
def pencilTamperedFrame : Inbound := .clientData "U1" (Base64.encodeText pencilTampered)

set_option maxRecDepth 100000 in
/-- The message is accepted although what is signed does not end with it. -/
theorem accepted_covers_iff_tampered :
    ∃ (arrival : Arrival) (reply : Bytes) (first : Message MemoryDirectory PasswordHasher)
      (exchange : Exchange) (transcript : Transcript) (proof : Bytes)
      (attributes others : Attributes),
      pencilOpened.engine.arrival? pencilTamperedFrame = some arrival ∧
      arrival.message = pencilTampered ∧
      (pencilOpened.engine.decide arrival).1 = .more reply ∧
      reply = Bytes.ofString "v=yk5QsR7dphuSOj56Az95DFNCTE8=" ∧
      Endorsed "U1" first exchange transcript proof ∧
      transcript.Carries proof pencilTampered attributes others ∧
      attributes.map Prod.fst = [0x63, 0x72, 0x78, 0x70] ∧
      ¬transcript.Covers proof pencilTampered := by
  have created : Engine.create {} pencilAccounts ⟨{}⟩ (.arithmetic 0 []) = .ok pencilEngine := rfl
  have reachable : pencilOpened.Reachable := .of_all created rfl
  have known : (pencilOpened.engine.arrival? pencilTamperedFrame).map (fun arrival =>
      (arrival.message, arrival.registration.mechanism, (pencilOpened.engine.decide arrival).1,
        (arrival.session.state.bind MechanismState.exchange?).map Exchange.complete)) =
      some (pencilTampered, .scram pencilServer,
        .more (Bytes.ofString "v=yk5QsR7dphuSOj56Az95DFNCTE8="), some false) := by
    decide +kernel
  have named : (Attributes.parse pencilTampered).toOption.map (·.map Prod.fst) =
      some [0x63, 0x72, 0x78, 0x70] := by
    decide +kernel
  obtain ⟨arrival, arrived, facts⟩ := Option.map_eq_some_iff.mp known
  simp only [Prod.mk.injEq] at facts
  obtain ⟨brings, scram, continued, state⟩ := facts
  obtain ⟨exchange, state, unproved⟩ := Option.map_eq_some_iff.mp state
  obtain ⟨state, waits, own⟩ := Option.bind_eq_some_iff.mp state
  rw [MechanismState.eq_of_exchange? own] at waits
  obtain ⟨first, transcript, proof, attributes, others, -, endorsed, carries, covers, -⟩ :=
    accepted_covers_iff reachable "hub" arrived scram waits unproved (Prod.ext continued rfl)
  rw [brings] at carries covers
  rw [carries.listed] at named
  have named : attributes.map Prod.fst = [0x63, 0x72, 0x78, 0x70] := Option.some.inj named
  refine ⟨arrival, _, first, exchange, transcript, proof, attributes, others, arrived, brings,
    continued, rfl, endorsed, carries, named, ?_⟩
  rw [covers, named]
  decide

end IrcSasl.Scram
