import IrcSasl.Proofs.Engine.Sound

set_option autoImplicit false

/-!
# Negotiations

What a session holds while it negotiates is explained by what its client has said since it asked for
the mechanism. `Progress` says how, for PLAIN, EXTERNAL and SCRAM, and `Progress.verdict` what one
more message can come to. `Introduced` says what the first message of a negotiation makes of the
identities of its session.
-/

namespace IrcSasl

variable {D C : Type}

namespace Dialogue

/-- Who the client was when it asked for the mechanism. -/
def leftAuthc (dialogue : Dialogue D C) : Option Identity := dialogue.found.bind Session.authc

/-- Whom the client acted as when it asked for the mechanism. -/
def leftAuthz (dialogue : Dialogue D C) : Option Identity := dialogue.found.bind Session.authz

/-- One more message has been answered. -/
def answered (dialogue : Dialogue D C) (message : Message D C) : Dialogue D C :=
  { dialogue with messages := dialogue.messages ++ [message] }

end Dialogue

variable [AccountDirectory D]

/-! ## First messages -/

/-- Who the client says to be in the first message of a negotiation, and whom it wants to act as. In
EXTERNAL it is the certificate that says who the client is. -/
def Mechanism.names? (mechanism : Mechanism) (accounts : D) (certfp : Option String)
    (message : Bytes) : Option (String × Option String) :=
  match mechanism with
  | .plain => (Plain.parse message).map fun message => (message.authcid, message.otherName)
  | .external =>
      match External.parse message, certfp.bind (AccountDirectory.findByCertfp accounts) with
      | some authzid, some owner => some (owner.name, External.otherName authzid)
      | _, _ => none
  | .scram _ =>
      match Scram.ClientFirst.parse message with
      | .ok first => some (first.authcid, first.authzid)
      | .error _ => none
  | .scripted _ | .inert _ => none

/-- What the first message of a negotiation has made of the identities of its session, given those
before it. -/
inductive Introduced (mechanism : Mechanism) (accounts : D) (certfp : Option String)
    (message : Bytes) (authc authz : Option Identity) (session : Session) : Prop where
  /-- The client has named an account. -/
  | known {authcid : String} {authzid : Option String} {source : Account}
      (names : mechanism.names? accounts certfp message = some (authcid, authzid))
      (identified : Identified accounts authcid authzid authz source session)
  /-- The client has named nobody, and is led on with a made-up credential. -/
  | unknown {server : Scram.Server} {authcid : String} {authzid : Option String}
      (scram : mechanism = .scram server)
      (names : mechanism.names? accounts certfp message = some (authcid, authzid))
      (nobody : AccountDirectory.findByName accounts authcid = none)
      (sameAuthc : session.authc = authc) (sameAuthz : session.authz = authz)

theorem Identified.of_same {accounts : D} {authcid : String} {authzid : Option String}
    {before : Option Identity} {source : Account} {session other : Session}
    (identified : Identified accounts authcid authzid before source session)
    (authc : other.authc = session.authc) (authz : other.authz = session.authz) :
    Identified accounts authcid authzid before source other := by
  refine ⟨identified.known, authc.trans identified.authc, ?_, identified.admitted⟩
  rw [authz]
  exact identified.authz

variable [CredentialStore C]

namespace Scram

theorem Credited.of_same {server : Server} {accounts : D} {credentials : C} {first : ClientFirst}
    {authc authz : Option Identity} {credential : Credential} {account : Option AccountId}
    {session other : Session}
    (credited : Credited server accounts credentials first authc authz credential account session)
    (sameAuthc : other.authc = session.authc) (sameAuthz : other.authz = session.authz) :
    Credited server accounts credentials first authc authz credential account other := by
  cases credited with
  | mock unknown made nobody authc authz =>
      exact .mock unknown made nobody (sameAuthc.trans authc) (sameAuthz.trans authz)
  | stored identified somebody found allowed hashed password extracted digest =>
      exact .stored (identified.of_same sameAuthc sameAuthz) somebody found allowed hashed password
        extracted digest

/-- A first message has opened an exchange, given the identities before it. -/
structure Opened (server : Server) (id : String) (authc authz : Option Identity)
    (first : Message D C) (opening : ClientFirst) (serverNonce : Bytes) (exchange : Exchange)
    (session : Session) : Prop where
  parsed : ClientFirst.parse first.bytes = .ok opening
  drawn : (first.engine.env.draw Limits.nonceLengthRaw).1 = some serverNonce
  credited : Credited server first.engine.accounts first.engine.credentials opening authc authz
    exchange.credential exchange.account session
  started : exchange = .start opening exchange.credential exchange.account serverNonce
  answered : first.answer =
    (Frame.ofMessage (Bytes.ofString exchange.serverFirst)).map (.serverData id)

/-- A final message has proved that the client knows the password. -/
structure Proved (id : String) (second : Message D C) (exchange : Exchange) (proof : Bytes) :
    Prop where
  read : exchange.readProof second.bytes = .ok proof
  accepted : exchange.accepts proof = true
  answered : second.answer =
    (Frame.ofMessage (Bytes.ofString ("v=" ++ Base64.encodeText exchange.serverSignature))).map
      (.serverData id)

namespace Opened

variable {server : Server} {id : String} {authc authz : Option Identity} {first : Message D C}
  {opening : ClientFirst} {serverNonce : Bytes} {exchange : Exchange} {session other : Session}

theorem of_same
    (opened : Opened server id authc authz first opening serverNonce exchange session)
    (sameAuthc : other.authc = session.authc) (sameAuthz : other.authz = session.authz) :
    Opened server id authc authz first opening serverNonce exchange other :=
  ⟨opened.parsed, opened.drawn, opened.credited.of_same sameAuthc sameAuthz, opened.started,
    opened.answered⟩

theorem incomplete
    (opened : Opened server id authc authz first opening serverNonce exchange session) :
    exchange.complete = false := by
  rw [opened.started]
  rfl

theorem names (opened : Opened server id authc authz first opening serverNonce exchange session)
    (certfp : Option String) :
    (Mechanism.scram server).names? first.engine.accounts certfp first.bytes =
      some (opening.authcid, opening.authzid) := by
  simp only [Mechanism.names?, opened.parsed]

theorem introduced
    (opened : Opened server id authc authz first opening serverNonce exchange session)
    (certfp : Option String) :
    Introduced (.scram server) first.engine.accounts certfp first.bytes authc authz session := by
  have names := opened.names certfp
  cases opened.credited with
  | mock unknown _ _ sameAuthc sameAuthz => exact .unknown rfl names unknown sameAuthc sameAuthz
  | stored identified => exact .known names identified

end Opened

end Scram

/-! ## Progress -/

/-- How far a negotiation has come, told from what the client has said. -/
inductive Progress (id : String) (mechanism : Mechanism) (dialogue : Dialogue D C)
    (session : Session) : Prop where
  /-- Nothing was said yet. -/
  | silent (said : dialogue.messages = []) (state : session.state = none)
      (authc : session.authc = dialogue.leftAuthc) (authz : session.authz = dialogue.leftAuthz)
  /-- A SCRAM exchange was opened. -/
  | opened {server : Scram.Server} {first : Message D C} {opening : Scram.ClientFirst}
      {serverNonce : Bytes} {exchange : Scram.Exchange} (scram : mechanism = .scram server)
      (said : dialogue.messages = [first]) (state : session.state = some (.scram exchange))
      (opened : Scram.Opened server id dialogue.leftAuthc dialogue.leftAuthz first opening
        serverNonce exchange session)
  /-- A SCRAM exchange waits for its acknowledgement. -/
  | proved {server : Scram.Server} {first second : Message D C} {opening : Scram.ClientFirst}
      {serverNonce proof : Bytes} {exchange : Scram.Exchange} (scram : mechanism = .scram server)
      (said : dialogue.messages = [first, second])
      (state : session.state = some (.scram { exchange with complete := true }))
      (opened : Scram.Opened server id dialogue.leftAuthc dialogue.leftAuthz first opening
        serverNonce exchange session)
      (proved : Scram.Proved id second exchange proof)

namespace Progress

variable {id : String} {mechanism : Mechanism} {dialogue : Dialogue D C} {session other : Session}

/-- Progress depends on what the mechanism keeps and on the identities only. -/
theorem of_same (progress : Progress id mechanism dialogue session)
    (state : other.state = session.state) (authc : other.authc = session.authc)
    (authz : other.authz = session.authz) : Progress id mechanism dialogue other := by
  cases progress with
  | silent said none left acting =>
      exact .silent said (state.trans none) (authc.trans left) (authz.trans acting)
  | opened scram said kept opened =>
      exact .opened scram said (state.trans kept) (opened.of_same authc authz)
  | proved scram said kept opened proved =>
      exact .proved scram said (state.trans kept) (opened.of_same authc authz) proved

/-- An exchange that is complete was opened by a first message and proved by a second one. -/
theorem proved_of_complete {exchange : Scram.Exchange}
    (progress : Progress id mechanism dialogue session)
    (kept : session.state = some (.scram exchange)) (complete : exchange.complete = true) :
    ∃ server first second opening serverNonce earlier proof, mechanism = .scram server ∧
      dialogue.messages = [first, second] ∧ exchange = { earlier with complete := true } ∧
      Scram.Opened server id dialogue.leftAuthc dialogue.leftAuthz first opening serverNonce earlier
        session ∧
      Scram.Proved id second earlier proof := by
  cases progress with
  | silent _ state => cases state.symm.trans kept
  | opened _ _ state opened =>
      cases state.symm.trans kept
      rw [opened.incomplete] at complete
      cases complete
  | proved scram said state opened proved =>
      cases state.symm.trans kept
      exact ⟨_, _, _, _, _, _, _, scram, said, rfl, opened, proved⟩

/-- Mechanisms other than SCRAM conclude at the first message. -/
theorem silent_of_not_scram (progress : Progress id mechanism dialogue session)
    (other : ∀ server, mechanism ≠ .scram server) :
    dialogue.messages = [] ∧ session.authc = dialogue.leftAuthc ∧
      session.authz = dialogue.leftAuthz := by
  cases progress with
  | silent said state authc authz => exact ⟨said, authc, authz⟩
  | opened scram => exact absurd scram (other _)
  | proved scram => exact absurd scram (other _)

/-- Frames that complete no message make no progress. -/
theorem of_dialogue {later : Dialogue D C} (progress : Progress id mechanism dialogue session)
    (found : later.found = dialogue.found) (messages : later.messages = dialogue.messages) :
    Progress id mechanism later session := by
  have authc : later.leftAuthc = dialogue.leftAuthc := by rw [Dialogue.leftAuthc, found]; rfl
  have authz : later.leftAuthz = dialogue.leftAuthz := by rw [Dialogue.leftAuthz, found]; rfl
  cases progress with
  | silent said state left acting =>
      exact .silent (messages.trans said) state (left.trans authc.symm) (acting.trans authz.symm)
  | opened scram said state opened =>
      rw [← authc, ← authz] at opened
      exact .opened scram (messages.trans said) state opened
  | proved scram said state opened proved =>
      rw [← authc, ← authz] at opened
      exact .proved scram (messages.trans said) state opened proved

end Progress

/-- What a standard mechanism does when it is selected. -/
theorem Registration.start_cases (registration : Registration) (ctx : Context D C)
    (standard : registration.mechanism.isStandard = true) :
    registration.start ctx = (.more [], ctx) ∨
      ∃ after, registration.start ctx = (.refused [], after) ∧ ctx.Near after := by
  unfold Registration.start
  cases known : registration.mechanism with
  | plain => exact .inl rfl
  | scram server => exact .inl rfl
  | external =>
      simp only [External.start]
      split
      · exact .inr ⟨_, rfl, ctx.near_note _⟩
      · exact .inl rfl
  | scripted script =>
      rw [known] at standard
      cases standard
  | inert name =>
      rw [known] at standard
      cases standard

/-! ## Steps of a negotiation -/

section Step

variable {registration : Registration} {dialogue : Dialogue D C} {session : Session}
  {engine middle : Engine D C} {bytes : Bytes} {after : Context D C}

/-- A first message that is answered has opened an exchange. -/
theorem Scram.opened_of_clientFirst (id : String) {server : Server} {data : Bytes}
    (alike : engine.Alike middle)
    (stepped : server.clientFirst (middle.context session) bytes = (.more data, after)) :
    after.mechlist = none ∧ ∃ opening serverNonce exchange,
      after.session.state = some (.scram exchange) ∧
        Opened server id session.authc session.authz
          ⟨engine, bytes, (Frame.ofMessage data).map (.serverData id)⟩ opening serverNonce exchange
          after.session := by
  obtain ⟨step, result, done, -, -, outcome⟩ :=
    server.clientFirst_cases (middle.context session) bytes
  rw [done] at stepped
  cases stepped
  rcases outcome with ⟨reply, absurd⟩ | ⟨opening, credential, account, serverNonce, parsed, drawn,
    credited, state, mechlist, sent⟩
  · cases absurd
  · cases sent
    refine ⟨mechlist, opening, serverNonce, _, state, parsed, ?_, ?_, rfl, rfl⟩
    · have drawn : (middle.env.draw Limits.nonceLengthRaw).1 = some serverNonce := drawn
      rw [← drawn]
      simp only [Environment.draw, alike.entropy]
    · have credited : Credited server middle.accounts middle.credentials opening session.authc
          session.authz credential account after.session := credited
      rw [alike.accounts, alike.credentials] at credited
      exact credited

/-- What a step of SCRAM on one more message comes to, told from what the client has said before.
The first message and the second one are answered with data, a wrong proof in the second fails, and
only the third one can succeed. -/
inductive Scram.Verdict (id : String) (server : Server) (engine : Engine D C) (bytes : Bytes)
    (dialogue : Dialogue D C) (session : Session) (after : Context D C) : Step → Prop where
  | refused (reply : Bytes) : Verdict id server engine bytes dialogue session after (.refused reply)
  | more {data : Bytes} (quiet : after.mechlist = none)
      (progress : Progress id (.scram server)
        (dialogue.answered ⟨engine, bytes, (Frame.ofMessage data).map (.serverData id)⟩)
        after.session) :
      Verdict id server engine bytes dialogue session after (.more data)
  | failure {reply : Bytes} {first : Message D C} {opening : ClientFirst} {serverNonce : Bytes}
      {exchange : Exchange} (quiet : after.mechlist = none)
      (accounts : after.accounts = engine.accounts) (said : dialogue.messages = [first])
      (opened : Opened server id dialogue.leftAuthc dialogue.leftAuthz first opening serverNonce
        exchange after.session) :
      Verdict id server engine bytes dialogue session after (.failure reply)
  | success {first second : Message D C} {opening : ClientFirst} {serverNonce proof : Bytes}
      {exchange : Exchange} {account : AccountId} (quiet : after.mechlist = none)
      (authc : after.session.authc = session.authc) (authz : after.session.authz = session.authz)
      (said : dialogue.messages = [first, second])
      (opened : Opened server id dialogue.leftAuthc dialogue.leftAuthz first opening serverNonce
        exchange session)
      (proved : Proved id second exchange proof) (named : exchange.account = some account)
      (live : (AccountDirectory.findById engine.accounts account).isSome) :
      Verdict id server engine bytes dialogue session after .success

/-- Every step of SCRAM comes to a verdict. -/
theorem Scram.verdict_of_step {id : String} {server : Server} (alike : engine.Alike middle)
    (progress : Progress id (.scram server) dialogue session) {step : Step}
    (stepped : server.step (middle.context session) bytes = (step, after)) :
    Verdict id server engine bytes dialogue session after step := by
  have kept : (middle.context session).session.state = session.state := rfl
  simp only [Server.step, kept] at stepped
  cases progress with
  | silent said state authc authz =>
      rw [state] at stepped
      obtain ⟨step, result, done, -, -, outcome⟩ :=
        server.clientFirst_cases (middle.context session) bytes
      simp only [done] at stepped
      cases stepped
      rcases outcome with ⟨reply, rfl⟩ | ⟨_, _, _, _, _, _, _, _, _, rfl⟩
      · exact .refused reply
      · obtain ⟨quiet, opening, serverNonce, exchange, state, opened⟩ :=
          opened_of_clientFirst id alike done
        rw [authc, authz] at opened
        exact .more quiet (.opened rfl (congrArg (· ++ _) said) state opened)
  | opened scram said state opened =>
      cases scram
      rw [state] at stepped
      simp only [opened.incomplete, Bool.false_eq_true, if_false] at stepped
      obtain ⟨step, result, done, -, accounts, authc, authz, quiet, outcome⟩ :=
        clientFinal_cases (middle.context session) _ bytes
      rw [done] at stepped
      cases stepped
      have opened := opened.of_same authc authz
      rcases outcome with ⟨reply, rfl⟩ | ⟨proof, read, ⟨accepted, state, rfl⟩ | ⟨rejected, rfl⟩⟩
      · exact .refused reply
      · have proved : Proved id ⟨engine, bytes, _⟩ _ proof := ⟨read, accepted, rfl⟩
        exact .more quiet (.proved rfl (congrArg (· ++ _) said) state opened proved)
      · exact .failure quiet (accounts.trans alike.accounts) said opened
  | proved scram said state opened proved =>
      cases scram
      rw [state] at stepped
      simp only [if_true] at stepped
      obtain ⟨step, result, done, -, authc, authz, quiet, -, outcome⟩ :=
        acknowledge_cases (middle.context session) _
      rw [done] at stepped
      cases stepped
      rcases outcome with rfl | ⟨rfl, account, named, live⟩
      · exact .refused []
      · have live : (AccountDirectory.findById middle.accounts account).isSome := live
        rw [alike.accounts] at live
        exact .success quiet authc authz said opened proved named live

/-- What a step of a standard mechanism on one more message comes to, told from what the client has
said before. Only data that asks for more lets the negotiation go on; a client that succeeds or
fails has been introduced by its first message. -/
inductive Verdict (id : String) (mechanism : Mechanism) (dialogue : Dialogue D C)
    (certfp : Option String) (message : Message D C) (after : Context D C) : Step → Prop where
  | refused (reply : Bytes) : Verdict id mechanism dialogue certfp message after (.refused reply)
  | more {data : Bytes} (quiet : after.mechlist = none)
      (progress : message.answer = (Frame.ofMessage data).map (.serverData id) →
        Progress id mechanism (dialogue.answered message) after.session) :
      Verdict id mechanism dialogue certfp message after (.more data)
  | failure {reply : Bytes} {first : Message D C} {rest : List (Message D C)}
      (quiet : after.mechlist = none) (accounts : after.accounts = message.engine.accounts)
      (begins : (dialogue.answered message).messages = first :: rest)
      (introduced : Introduced mechanism first.engine.accounts certfp first.bytes
        dialogue.leftAuthc dialogue.leftAuthz after.session) :
      Verdict id mechanism dialogue certfp message after (.failure reply)
  | success {first : Message D C} {rest : List (Message D C)} {authcid : String}
      {authzid : Option String} {source : Account} (quiet : after.mechlist = none)
      (begins : (dialogue.answered message).messages = first :: rest)
      (names : mechanism.names? first.engine.accounts certfp first.bytes = some (authcid, authzid))
      (identified : Identified first.engine.accounts authcid authzid dialogue.leftAuthz source
        after.session) :
      Verdict id mechanism dialogue certfp message after .success

/-- A step of PLAIN comes to a verdict. -/
theorem Progress.verdict_plain {id : String} {message : Message D C}
    (alike : message.engine.Alike middle) (progress : Progress id .plain dialogue session)
    {step : Step} (stepped : Plain.step (middle.context session) message.bytes = (step, after)) :
    Verdict id .plain dialogue session.info.certfp message after step := by
  obtain ⟨step, result, done, near, outcome⟩ :=
    Plain.step_cases (middle.context session) message.bytes
  rw [done] at stepped
  cases stepped
  rcases outcome with rfl | ⟨read, source, parsed, identified, outcome⟩
  · exact .refused _
  · obtain ⟨said, -, authz⟩ := progress.silent_of_not_scram (by simp)
    have begins : (dialogue.answered message).messages = message :: [] :=
      congrArg (· ++ _) said
    have identified : Identified middle.accounts read.authcid read.otherName session.authz source
        after.session := identified
    rw [alike.accounts, authz] at identified
    have names : Mechanism.plain.names? message.engine.accounts session.info.certfp
        message.bytes = some (read.authcid, read.otherName) := by
      simp only [Mechanism.names?, parsed, Option.map_some]
    rcases outcome with rfl | rfl
    · exact .success near.mechlist begins names identified
    · exact .failure near.mechlist (near.accounts.trans alike.accounts) begins
        (.known names identified)

/-- A step of EXTERNAL comes to a verdict. -/
theorem Progress.verdict_external {id : String} {message : Message D C}
    (alike : message.engine.Alike middle) (progress : Progress id .external dialogue session)
    {step : Step} (stepped : External.step (middle.context session) message.bytes = (step, after)) :
    Verdict id .external dialogue session.info.certfp message after step := by
  obtain ⟨step, result, done, near, outcome⟩ :=
    External.step_cases (middle.context session) message.bytes
  rw [done] at stepped
  cases stepped
  rcases outcome with rfl | ⟨authzid, certfp, owner, source, parsed, presented, owned, identified,
    rfl⟩
  · exact .refused _
  · obtain ⟨said, -, authz⟩ := progress.silent_of_not_scram (by simp)
    have begins : (dialogue.answered message).messages = message :: [] :=
      congrArg (· ++ _) said
    have identified : Identified middle.accounts owner.name (External.otherName authzid)
      session.authz source after.session := identified
    have presented : session.info.certfp = some certfp := presented
    have owned : AccountDirectory.findByCertfp middle.accounts certfp = some owner := owned
    rw [alike.accounts] at identified owned
    rw [authz] at identified
    refine .success near.mechlist begins ?_ identified
    simp only [Mechanism.names?, parsed, presented, Option.bind_some, owned]

/-- A step of SCRAM comes to a verdict. -/
theorem Progress.verdict_scram {id : String} {server : Scram.Server} {message : Message D C}
    (alike : message.engine.Alike middle)
    (progress : Progress id (.scram server) dialogue session) {step : Step}
    (stepped : server.step (middle.context session) message.bytes = (step, after)) :
    Verdict id (.scram server) dialogue session.info.certfp message after step := by
  cases Scram.verdict_of_step alike progress stepped with
  | refused reply => exact .refused reply
  | more quiet more =>
      refine .more quiet ?_
      intro answer
      rw [← answer] at more
      exact more
  | failure quiet accounts said opened =>
      exact .failure quiet accounts (congrArg (· ++ _) said) (opened.introduced _)
  | success quiet authc authz said opened proved named live =>
      have opened := opened.of_same authc authz
      cases opened.credited with
      | mock unknown made nobody =>
          rw [named] at nobody
          cases nobody
      | stored identified =>
          exact .success quiet (congrArg (· ++ _) said) (opened.names _) identified

/-- Every step of a standard mechanism comes to a verdict. -/
theorem Progress.verdict {id : String} {message : Message D C}
    (standard : registration.mechanism.isStandard = true) (alike : message.engine.Alike middle)
    (progress : Progress id registration.mechanism dialogue session) {step : Step}
    (stepped : registration.step (middle.context session) message.bytes = (step, after)) :
    Verdict id registration.mechanism dialogue session.info.certfp message after step := by
  unfold Registration.step at stepped
  cases known : registration.mechanism with
  | plain =>
      rw [known] at stepped progress
      exact progress.verdict_plain alike stepped
  | external =>
      rw [known] at stepped progress
      exact progress.verdict_external alike stepped
  | scram server =>
      rw [known] at stepped progress
      exact progress.verdict_scram alike stepped
  | scripted script =>
      rw [known] at standard
      cases standard
  | inert name =>
      rw [known] at standard
      cases standard

/-- What a step that asks for more sends is its data alone. -/
theorem Verdict.of_more {id : String} {mechanism : Mechanism} {certfp : Option String}
    {message : Message D C} {data : Bytes}
    (verdict : Verdict id mechanism dialogue certfp message after (.more data)) :
    after.mechlist = none ∧
      (message.answer = (Frame.ofMessage data).map (.serverData id) →
        Progress id mechanism (dialogue.answered message) after.session) := by
  cases verdict with
  | more quiet progress => exact ⟨quiet, progress⟩

/-- A step of a standard mechanism leaves the accounts as they are, or rewrites a credential. -/
theorem Registration.accounts_step (standard : registration.mechanism.isStandard = true)
    (ctx : Context D C) (bytes : Bytes) :
    (registration.step ctx bytes).2.accounts = ctx.accounts ∨ ∃ account credential,
      (registration.step ctx bytes).2.accounts =
        (AccountDirectory.rewrite ctx.accounts account credential).2 := by
  unfold Registration.step
  cases known : registration.mechanism with
  | plain =>
      obtain ⟨step, result, done, near, -⟩ := Plain.step_cases ctx bytes
      simp only [done]
      exact .inl near.accounts
  | external =>
      obtain ⟨step, result, done, near, -⟩ := External.step_cases ctx bytes
      simp only [done]
      exact .inl near.accounts
  | scram server => exact Scram.accounts_step server ctx bytes
  | scripted script =>
      rw [known] at standard
      cases standard
  | inert name =>
      rw [known] at standard
      cases standard

end Step

end IrcSasl
