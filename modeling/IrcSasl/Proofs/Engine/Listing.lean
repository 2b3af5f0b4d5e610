import IrcSasl.Proofs.Engine.Configuration
import IrcSasl.Proofs.Engine.Verdict
import IrcSasl.Proofs.Scram.Challenge
import IrcSasl.Proofs.Scram.Soundness

set_option autoImplicit false

/-!
# Lists of mechanisms

A list that a client gets to see is the longest beginning of the names that fits into a frame. It
has whole names only, and reading it gives them back (`exists_listing_joinNames`). The list that
comes with the rejection of a client whose account has a hash of another digest has no mechanism
that this client would fail with (`Registry.listings_usable`).
-/

namespace IrcSasl

/-! ## Joined names -/

/-- The names in a list with commas in between. An empty list has none. -/
def namesIn (list : String) : List String :=
  if list.isEmpty then [] else (Fields.split ',' list.toList).map String.ofList

/-- Names that can be told apart in a list: they are not empty and have no commas. -/
def Separable (names : List String) : Prop := ∀ name ∈ names, name ≠ "" ∧ ',' ∉ name.toList

theorem toList_intercalate_comma (names : List String) :
    (String.intercalate "," names).toList = Fields.join ',' (names.map String.toList) := by
  induction names with
  | nil => rfl
  | cons name names ih =>
      cases names with
      | nil => simp [Fields.join]
      | cons next names =>
          rw [String.intercalate_cons_cons, String.toList_append, String.toList_append, ih]
          simp [Fields.join]

/-- A list of names that are not empty is empty only if it has none. -/
theorem intercalate_eq_empty_iff {names : List String} (proper : ∀ name ∈ names, name ≠ "") :
    String.intercalate "," names = "" ↔ names = [] := by
  constructor
  · intro empty
    cases names with
    | nil => rfl
    | cons name names =>
        cases names with
        | nil => exact absurd empty (by simpa using proper name)
        | cons next names =>
            have length := congrArg (fun list => list.toList.length) empty
            simp at length
  · rintro rfl
    rfl

/-- Reading a list gives the names that it was made of. -/
theorem namesIn_intercalate {names : List String} (separable : Separable names) :
    namesIn (String.intercalate "," names) = names := by
  have empty := intercalate_eq_empty_iff fun name member => (separable name member).1
  unfold namesIn
  by_cases none : names = []
  · rw [if_pos (String.isEmpty_iff.mpr (empty.mpr none)), none]
  · have clean : ∀ field ∈ names.map String.toList, ',' ∉ field := by
      intro field member
      obtain ⟨name, listed, rfl⟩ := List.mem_map.mp member
      exact (separable name listed).2
    rw [if_neg (mt (fun blank => empty.mp (String.isEmpty_iff.mp blank)) none),
      toList_intercalate_comma, Fields.split_join ',' (by simpa using none) clean, List.map_map]
    simp

/-- More names take more room. -/
theorem utf8ByteSize_intercalate_mono {names more : List String} (start : names <+: more) :
    (String.intercalate "," names).utf8ByteSize ≤ (String.intercalate "," more).utf8ByteSize := by
  obtain ⟨rest, rfl⟩ := start
  by_cases none : names = []
  · rw [none]
    exact Nat.zero_le _
  · by_cases last : rest = []
    · exact Nat.le_of_eq (by rw [last, List.append_nil])
    · rw [String.intercalate_append_of_ne_nil none last, String.utf8ByteSize_append,
        String.utf8ByteSize_append, Nat.add_assoc]
      exact Nat.le_add_right ..

/-! ## Names that fit -/

/-- A list shows names: they are the longest beginning of all names whose list is shorter than a
frame, and reading the list gives them back. -/
structure Listing (names : List String) (list : String) (shown : List String) : Prop where
  start : shown <+: names
  joined : list = String.intercalate "," shown
  fits : list.utf8ByteSize ≤ 399
  longest : ∀ more, more <+: names → (String.intercalate "," more).utf8ByteSize ≤ 399 →
    more <+: shown
  read : namesIn list = shown

theorem append_of_joined {shown : List String} (proper : ∀ name ∈ shown, name ≠ "")
    (name : String) :
    (if (String.intercalate "," shown).isEmpty then name
      else String.intercalate "," shown ++ "," ++ name) =
      String.intercalate "," (shown ++ [name]) := by
  by_cases none : shown = []
  · subst none
    simp
  · have present : ¬(String.intercalate "," shown).isEmpty = true := by
      rwa [String.isEmpty_iff, intercalate_eq_empty_iff proper]
    rw [if_neg present, String.intercalate_append_of_ne_nil none (by simp),
      String.intercalate_singleton]

/-- Names are added to those of a list as long as the list fits. The induction takes the next name
over to the list, so that what was shown so far is always a list of its own. -/
theorem appendNames_longest (shown rest : List String)
    (proper : ∀ name ∈ shown ++ rest, name ≠ "")
    (fits : (String.intercalate "," shown).utf8ByteSize ≤ 399) :
    ∃ taken, taken <+: rest ∧
      appendNames (String.intercalate "," shown) rest = String.intercalate "," (shown ++ taken) ∧
      (String.intercalate "," (shown ++ taken)).utf8ByteSize ≤ 399 ∧
      ∀ more, more <+: rest →
        (String.intercalate "," (shown ++ more)).utf8ByteSize ≤ 399 → more <+: taken := by
  induction rest generalizing shown with
  | nil =>
      refine ⟨[], List.prefix_rfl, ?_, ?_, fun more start _ => start⟩
      · rw [List.append_nil, appendNames]
      · rwa [List.append_nil]
  | cons name rest ih =>
      have longer := append_of_joined
        (fun name member => proper name (List.mem_append_left _ member)) name
      simp only [appendNames, longer]
      by_cases full : Limits.frameLength ≤ (String.intercalate "," (shown ++ [name])).utf8ByteSize
      · rw [if_pos full]
        refine ⟨[], List.nil_prefix, by rw [List.append_nil], by rwa [List.append_nil], ?_⟩
        intro more start small
        cases more with
        | nil => exact List.prefix_rfl
        | cons first more =>
            obtain ⟨rfl, -⟩ := List.cons_prefix_cons.mp start
            have begun : shown ++ [first] <+: shown ++ first :: more := ⟨more, by simp⟩
            have large := utf8ByteSize_intercalate_mono begun
            simp only [Limits.frameLength] at full
            omega
      · rw [if_neg full]
        have step : shown ++ [name] ++ rest = shown ++ name :: rest := by simp
        obtain ⟨taken, start, appended, small, longest⟩ := ih _ (step ▸ proper)
          (by simp only [Limits.frameLength] at full; omega)
        simp only [List.append_assoc, List.singleton_append] at appended small longest
        refine ⟨name :: taken, List.cons_prefix_cons.mpr ⟨rfl, start⟩, appended, small, ?_⟩
        intro more startMore smallMore
        cases more with
        | nil => exact List.nil_prefix
        | cons first more =>
            obtain ⟨rfl, startRest⟩ := List.cons_prefix_cons.mp startMore
            exact List.cons_prefix_cons.mpr ⟨rfl, longest more startRest smallMore⟩

/-- The list of any names shows the longest beginning of them that fits. -/
theorem exists_listing_joinNames {names : List String} (separable : Separable names) :
    ∃ shown, Listing names (joinNames names) shown := by
  have proper : ∀ name ∈ [] ++ names, name ≠ "" := fun name member => (separable name member).1
  obtain ⟨shown, start, joined, fits, longest⟩ :=
    appendNames_longest [] names proper (by decide)
  rw [List.nil_append] at joined fits
  have joined : joinNames names = String.intercalate "," shown := joined
  refine ⟨shown, start, joined, joined ▸ fits, longest, ?_⟩
  rw [joined]
  exact namesIn_intercalate fun name member => separable name (start.subset member)

/-- The names of the mechanisms that suit an account, without those to avoid. -/
def Registry.suitable (registry : Registry) (account : Account) (avoid : List String) :
    List String :=
  (registry.entries.filter fun entry => entry.name ∉ avoid ∧
    ¬(account.noPassword = true ∧ entry.mechanism.passwordBased = true)).map Registration.name

theorem Registry.mechlistFor_eq (registry : Registry) (account : Account) (avoid : List String) :
    registry.mechlistFor account avoid = joinNames (registry.suitable account avoid) := by
  rw [mechlistFor, suitable, List.filter_map, List.filter_filter]
  congr 3
  funext entry
  simp

theorem Registry.suitable_subset (registry : Registry) (account : Account)
    (avoid : List String) : registry.suitable account avoid ⊆ registry.names :=
  List.map_subset _ (List.filter_subset_self _)

theorem Registry.not_mem_suitable {registry : Registry} {account : Account} {avoid : List String}
    {name : String} (avoided : name ∈ avoid) : name ∉ registry.suitable account avoid := by
  intro member
  obtain ⟨entry, kept, rfl⟩ := List.mem_map.mp member
  exact (of_decide_eq_true (List.mem_filter.mp kept).2).1 avoided

theorem Digest.mem_avoidList_iff {digest other : Digest} :
    other.scramName ∈ digest.avoidList ↔ other ≠ digest := by
  cases digest <;> cases other <;> decide

/-! ## Accounts with another digest -/

variable {D C : Type}

namespace Scram

theorem errorReply_inj {token other : String} :
    errorReply token = errorReply other ↔ token = other := by
  simp only [errorReply, Bytes.ofString_append, List.append_cancel_left_eq, Bytes.ofString_inj]

/-- A fault that does not tell the client to use another digest. -/
def Fault.IsOther (fault : Fault) : Prop := fault.token ≠ "digest-algorithm-mismatch"

theorem Fault.isOther_of_token {fault : Fault} (token : fault.token = "other-error") :
    fault.IsOther := by
  rw [IsOther, token]
  decide

theorem isOther_of_checkMessage {message : Bytes} {fault : Fault}
    (failed : checkMessage message = .error fault) : fault.IsOther := by
  unfold checkMessage at failed
  grind [Fault.IsOther, Fault.token]

theorem Exchange.isOther_of_readProof {exchange : Exchange} {message : Bytes} {fault : Fault}
    (failed : exchange.readProof message = .error fault) : fault.IsOther := by
  unfold readProof proofOf at failed
  grind [Fault.IsOther, Fault.token]

namespace ClientFirst

variable {fault : Fault}

theorem isOther_of_splitHeader {message : Bytes} (failed : splitHeader message = .error fault) :
    fault.IsOther := by
  have acting (rest : Bytes) (failed : splitAuthzid rest = .error fault) : fault.IsOther := by
    unfold splitAuthzid at failed
    grind [Fault.IsOther, Fault.token]
  unfold splitHeader at failed
  grind [Fault.IsOther, Fault.token]

theorem isOther_of_readAttributes {attributes : Attributes}
    (failed : readAttributes attributes = .error fault) : fault.IsOther := by
  unfold readAttributes at failed
  grind [Fault.IsOther, Fault.token]

theorem isOther_of_parse {message : Bytes} (failed : parse message = .error fault) :
    fault.IsOther := by
  unfold parse at failed
  split at failed
  · next unclean =>
      cases failed
      exact isOther_of_checkMessage unclean
  · split at failed
    · next unsplit =>
        cases failed
        exact isOther_of_splitHeader unsplit
    · split at failed
      · cases failed
        simp [Fault.IsOther, Fault.token]
      · split at failed
        · next unread =>
            cases failed
            exact isOther_of_readAttributes unread
        · cases failed

end ClientFirst

variable [AccountDirectory D] [CredentialStore C]

/-- The account that a first message names has a hash of another digest than that of the server. -/
structure Mismatch (server : Server) (accounts : D) (credentials : C) (message : Bytes)
    (account : Account) (credential : Credential) : Prop where
  named : ∃ first known, ClientFirst.parse message = .ok first ∧
    AccountDirectory.findByName accounts first.authcid = some known ∧
    AccountDirectory.findById accounts known.id = some account
  hashed : ∃ hash, account.password = some hash ∧
    CredentialStore.extract credentials hash = some credential
  other : credential.digest ≠ server.digest

/-- What a step of a SCRAM server can come to: if it tells the client to use another digest, there
is a mismatch, and the client is sent the mechanisms that suit the account instead. -/
inductive Told (server : Server) (ctx : Context D C) (message : Bytes) :
    Step × Context D C → Prop where
  | more (data : Bytes) (after : Context D C) : Told server ctx message (.more data, after)
  | success (after : Context D C) : Told server ctx message (.success, after)
  | failure (after : Context D C) :
      Told server ctx message (.failure (errorReply "invalid-proof"), after)
  | quiet (after : Context D C) : Told server ctx message (.refused [], after)
  | refused {fault : Fault} (other : fault.IsOther) (after : Context D C) :
      Told server ctx message (.refused (errorReply fault.token), after)
  | mismatch {account : Account} {credential : Credential} {after : Context D C}
      (differs : Mismatch server ctx.accounts ctx.credentials message account credential)
      (listed : after.mechlist =
        some (ctx.registry.mechlistFor account credential.digest.avoidList)) :
      Told server ctx message (.refused (errorReply "digest-algorithm-mismatch"), after)

namespace Server

/-- Either there is another fault than a mismatch, or the credential of the account is of another
digest and the list was made for it. -/
theorem fault_of_storedCredential {server : Server} {ctx after : Context D C} {id : AccountId}
    {fault : Fault} (refused : server.storedCredential ctx id = (.error fault, after)) :
    fault.IsOther ∨ fault.token = "digest-algorithm-mismatch" ∧ ∃ account credential,
      AccountDirectory.findById ctx.accounts id = some account ∧
      (∃ hash, account.password = some hash ∧
        CredentialStore.extract ctx.credentials hash = some credential) ∧
      credential.digest ≠ server.digest ∧
      after.mechlist = some (ctx.registry.mechlistFor account credential.digest.avoidList) := by
  unfold storedCredential at refused
  split at refused
  · cases refused
    exact .inl (Fault.isOther_of_token rfl)
  · next account found =>
      split at refused
      · cases refused
        exact .inl (Fault.isOther_of_token rfl)
      · split at refused
        · cases refused
          exact .inl (Fault.isOther_of_token rfl)
        · split at refused
          · cases refused
            exact .inl (Fault.isOther_of_token rfl)
          · next credential extracted =>
              split at refused
              · next other =>
                  cases refused
                  refine .inr ⟨rfl, account, credential, found,
                    Option.bind_eq_some_iff.mp extracted, other, ?_⟩
                  simp only [Context.recalcMechlist, found]
              · cases refused

theorem fault_of_credentialFor {server : Server} {ctx after : Context D C} {first : ClientFirst}
    {fault : Fault} {message : Bytes} (parsed : ClientFirst.parse message = .ok first)
    (refused : server.credentialFor ctx first = (.error fault, after)) :
    fault.IsOther ∨ fault.token = "digest-algorithm-mismatch" ∧ ∃ account credential,
      Mismatch server ctx.accounts ctx.credentials message account credential ∧
      after.mechlist = some (ctx.registry.mechlistFor account credential.digest.avoidList) := by
  unfold credentialFor at refused
  split at refused
  · cases refused
  · obtain ⟨id, middle, resolved, near, outcome⟩ := ctx.resolveAuthcid_cases first.authcid
    simp only [resolved] at refused
    rcases outcome with rfl | ⟨known, named, rfl, -⟩
    · cases refused
      exact .inl (Fault.isOther_of_token rfl)
    · obtain ⟨allowed, acting, resolvedOther, nearOther, -⟩ :=
        middle.resolveOptionalAuthzid_cases first.authzid
      simp only [resolvedOther] at refused
      cases allowed with
      | false =>
          cases refused
          exact .inl (Fault.isOther_of_token rfl)
      | true =>
          have both : ctx.Near acting := near.trans nearOther
          simp only at refused
          split at refused
          · next missing =>
              cases refused
              refine (fault_of_storedCredential missing).imp id ?_
              rintro ⟨told, account, credential, found, hashed, other, listed⟩
              rw [both.accounts] at found
              rw [both.credentials] at hashed
              rw [both.registry] at listed
              exact ⟨told, account, credential, ⟨⟨first, known, parsed, named, found⟩, hashed,
                other⟩, listed⟩
          · cases refused

theorem told_clientFirst (server : Server) (ctx : Context D C) (message : Bytes) :
    Told server ctx message (server.clientFirst ctx message) := by
  cases parsed : ClientFirst.parse message with
  | error fault =>
      rw [clientFirst_of_malformed server ctx parsed]
      exact .refused (ClientFirst.isOther_of_parse parsed) _
  | ok first =>
      obtain ⟨outcome, middle, credited, -, -, -⟩ :=
        server.credentialFor_cases (ctx.noteScram (.parsed first.authcid first.authzid)) first
      cases outcome with
      | error fault =>
          rw [clientFirst_of_fault parsed credited]
          rcases fault_of_credentialFor parsed credited with
            other | ⟨told, account, credential, differs, listed⟩
          · exact .refused other _
          · rw [refuse, told]
            exact .mismatch differs listed
      | ok pair =>
          cases drawn : (middle.env.entropy.fill Limits.nonceLengthRaw).1 with
          | none =>
              rw [clientFirst_of_undrawn parsed credited drawn]
              exact .refused (Fault.isOther_of_token rfl) _
          | some serverNonce =>
              rw [clientFirst_of_drawn parsed credited drawn]
              exact .more _ _

theorem told_clientFinal (server : Server) (ctx : Context D C) (exchange : Exchange)
    (message : Bytes) : Told server ctx message (clientFinal ctx exchange message) := by
  unfold clientFinal
  split
  · next unclean => exact .refused (isOther_of_checkMessage unclean) _
  · split
    · exact .refused (Fault.isOther_of_token rfl) _
    · split
      · next unread => exact .refused (Exchange.isOther_of_readProof unread) _
      · split
        · exact .more _ _
        · exact .failure _

theorem told_step (server : Server) (ctx : Context D C) (message : Bytes) :
    Told server ctx message (server.step ctx message) := by
  unfold step
  split
  · exact server.told_clientFirst ctx message
  · next exchange _ =>
      split
      · obtain ⟨step, after, stepped, -, -, -, -, -, outcome⟩ := acknowledge_cases ctx exchange
        rw [stepped]
        rcases outcome with rfl | ⟨rfl, -⟩
        · exact .quiet after
        · exact .success after
      · exact server.told_clientFinal ctx exchange message
  · exact .refused (Fault.isOther_of_token rfl) _

end Server

/-! ## What the client gets to see -/

theorem Fault.length_token (fault : Fault) : fault.token.utf8ByteSize ≤ 30 := by
  unfold token
  split <;> decide

/-- A rejection with a short token is one frame of data and the outcome. -/
theorem rejection_of_short (id : String) {token : String} (short : token.utf8ByteSize ≤ 30) :
    ∃ text, Frame.ofMessage (errorReply token) = [text] ∧
      rejection id token = [.serverData id text, .outcome id .failure] := by
  have width : (errorReply token).length ≤ 32 := by
    have sign : "e=".utf8ByteSize = 2 := rfl
    simp only [errorReply, Bytes.length_ofString, String.utf8ByteSize_append, sign]
    omega
  have single : (Frame.ofMessage (errorReply token)).length = 1 := by
    simp only [Frame.length_ofMessage, Limits.frameLength]
    omega
  obtain ⟨text, framed⟩ := List.length_eq_one_iff.mp single
  have present : (errorReply token).isEmpty = false := by
    simp only [errorReply, Bytes.ofString_append]
    rfl
  refine ⟨text, framed, ?_⟩
  rw [rejection, Engine.replyFrames, present, framed]
  rfl

variable {id token other text : String}

/-- Rejections are told apart by their data. -/
theorem token_of_rejection (framed : Frame.ofMessage (errorReply token) = [text])
    (short : other.utf8ByteSize ≤ 30) (member : .serverData id text ∈ rejection id other) :
    token = other := by
  obtain ⟨otherText, framedOther, rejected⟩ := rejection_of_short id short
  rw [rejected] at member
  have same : text = otherText := by simpa using member
  rw [same, ← framedOther] at framed
  exact errorReply_inj.mp (Frame.ofMessage_inj.mp framed)

/-- A step after which the client is told to use another digest, and that the negotiation has
failed, was one that has found a mismatch. -/
theorem Told.mismatch_of_sent {server : Server} {ctx after : Context D C} {message : Bytes}
    {step : Step} (told : Told server ctx message (step, after)) (mechanism : String)
    (framed : Frame.ofMessage (errorReply "digest-algorithm-mismatch") = [text])
    (uid : after.session.info.uid = id) :
    let reply := Reply.ofStep after.accounts after.env.entropy after.session mechanism step
    .serverData id text ∈ reply.frames → .outcome id .failure ∈ reply.frames →
    step = .refused (errorReply "digest-algorithm-mismatch") ∧ ∃ account credential,
      Mismatch server ctx.accounts ctx.credentials message account credential ∧
      after.mechlist = some (ctx.registry.mechlistFor account credential.digest.avoidList) := by
  intro reply sent ended
  cases told with
  | more data =>
      simp [reply, Reply.ofStep] at ended
  | success =>
      simp only [reply, Reply.frames_ofStep_success] at sent
      split at sent <;> simp at sent
  | failure =>
      have rejected : reply.frames = rejection id "invalid-proof" := by rw [← uid]; rfl
      rw [rejected] at sent
      exact absurd (token_of_rejection framed (by decide) sent) (by decide)
  | quiet =>
      simp [reply, Reply.ofStep, Engine.replyFrames] at sent
  | @refused fault other =>
      have rejected : reply.frames = rejection id fault.token := by rw [← uid]; rfl
      rw [rejected] at sent
      exact absurd (token_of_rejection framed fault.length_token sent).symm other
  | mismatch differs listed => exact ⟨rfl, _, _, differs, listed⟩

end Scram

namespace Engine

variable [AccountDirectory D] [CredentialStore C]

/-- A frame of data that completes no message is answered by an outcome at most. -/
theorem frames_of_unarrived {engine : Engine D C} (keyed : engine.Keyed) (uplink : String)
    {id data : String} (nothing : engine.arrival? (.clientData id data) = none) :
    (engine.handle uplink (.clientData id data)).1 ⊆ [.outcome id .failure] := by
  rcases engine.handle_cases uplink (.clientData id data) keyed with
    ⟨-, silent, -⟩ | ⟨session, middle, enters, gives⟩
  · rw [silent]
    exact List.nil_subset _
  · have uid : session.info.uid = id := enters.uid
    rw [gives.frames, reply]
    split
    · simp [refusal, uid]
    · next registration selected =>
        split
        · exact List.nil_subset _
        · next message decoder added =>
            -- A session that has just begun has no mechanism, so this one was there before.
            cases known : engine.sessions.find? id with
            | none =>
                rw [enters.fresh known] at selected
                cases selected
            | some earlier =>
                obtain ⟨rfl, -⟩ := enters.known earlier known
                rw [arrival?_of_complete known selected added] at nothing
                cases nothing
        · simp [refusal, uid]
        · simp [refusal, uid]

/-- If the answer to a message for a SCRAM server ends with the rejection that tells the client to
use another digest, then the account that the client has named has a hash of another digest, and
nothing but the mechanisms that suit it is sent before. -/
theorem mismatch_of_rejection {engine : Engine D C} (keyed : engine.Keyed) (uplink : String)
    {id data : String} {session : Session} {registration : Registration} {server : Scram.Server}
    (found : engine.sessions.find? id = some session)
    (selected : session.mechanism = some registration)
    (scram : registration.mechanism = .scram server)
    (rejected : Scram.rejection id "digest-algorithm-mismatch" <:+
      (engine.handle uplink (.clientData id data)).1) :
    ∃ arrival account credential, engine.arrival? (.clientData id data) = some arrival ∧
      Scram.Mismatch server engine.accounts engine.credentials arrival.message account credential ∧
      (engine.handle uplink (.clientData id data)).1 =
        .mechanismList id (engine.registry.mechlistFor account credential.digest.avoidList) ::
          Scram.rejection id "digest-algorithm-mismatch" := by
  obtain ⟨text, framed, shape⟩ :=
    Scram.rejection_of_short id (by decide : "digest-algorithm-mismatch".utf8ByteSize ≤ 30)
  have sent : .serverData id text ∈ (engine.handle uplink (.clientData id data)).1 :=
    rejected.subset (by rw [shape]; exact List.mem_cons_self)
  have ended : .outcome id .failure ∈ (engine.handle uplink (.clientData id data)).1 :=
    rejected.subset (by rw [shape]; simp)
  cases arrived : engine.arrival? (.clientData id data) with
  | none =>
      have member := frames_of_unarrived keyed uplink arrived sent
      simp at member
  | some arrival =>
      obtain ⟨_, _, decoder, -, again, busy, -, fed⟩ := arrival?_eq_some arrived
      cases found.symm.trans again
      cases selected.symm.trans busy
      have uid : arrival.session.info.uid = id := by
        rw [fed]
        exact keyed id session found
      have stepped := Registration.step_of_scram scram (engine.context arrival.session)
        arrival.message
      have told := server.told_step (engine.context arrival.session) arrival.message
      have kept := Scram.keeps_step server (engine.context arrival.session) arrival.message
      rw [(handle_decided keyed uplink arrived).frames, turn, uid] at sent ended ⊢
      simp only [Registration.turn, stepped] at sent ended ⊢
      generalize server.step (engine.context arrival.session) arrival.message = outcome
        at told kept sent ended ⊢
      obtain ⟨step, after⟩ := outcome
      have own : after.session.info.uid = id := (congrArg SessionInfo.uid kept.info).trans uid
      obtain ⟨rfl, account, credential, differs, listed⟩ :=
        told.mismatch_of_sent _ framed own (by simpa using sent) (by simpa using ended)
      refine ⟨arrival, account, credential, rfl, differs, ?_⟩
      simp only [listed, Option.map_some, Option.toList_some, List.singleton_append]
      rw [← own]
      rfl

end Engine

/-- The list of all mechanisms, which is in step with them in every engine that events can lead to
(`Engine.Bound.listed`), and that of the mechanisms that suit an account, show the longest beginning
of their names that fits. If an answer of a SCRAM server ends with the rejection that
tells the client to use another digest, it starts with the list of the mechanisms that suit the
account and do not use another digest than its hash, neither the one in use nor any other. -/
theorem Registry.listings_usable [AccountDirectory D] [CredentialStore C] {registry : Registry}
    (listed : registry.Listed) (separable : Separable registry.names) :
    (∃ shown, Listing registry.names registry.mechlist shown) ∧
    (∀ account avoid, ∃ shown, Listing (registry.suitable account avoid)
      (registry.mechlistFor account avoid) shown) ∧
    ∀ engine : Engine D C, engine.registry = registry → engine.Keyed →
      ∀ uplink id data session registration server,
      engine.sessions.find? id = some session → session.mechanism = some registration →
      registration.mechanism = .scram server →
      Scram.rejection id "digest-algorithm-mismatch" <:+
        (engine.handle uplink (.clientData id data)).1 →
      ∃ arrival account credential shown,
        engine.arrival? (.clientData id data) = some arrival ∧
        Scram.Mismatch server engine.accounts engine.credentials arrival.message account
          credential ∧
        let list := registry.mechlistFor account credential.digest.avoidList
        (engine.handle uplink (.clientData id data)).1 =
          .mechanismList id list :: Scram.rejection id "digest-algorithm-mismatch" ∧
        Listing (registry.suitable account credential.digest.avoidList) list shown ∧
        registration.name ∉ shown ∧
        ∀ digest, digest ≠ credential.digest → digest.scramName ∉ shown := by
  have suited (account : Account) (avoid : List String) : ∃ shown,
      Listing (registry.suitable account avoid) (registry.mechlistFor account avoid) shown := by
    rw [registry.mechlistFor_eq]
    exact exists_listing_joinNames fun name member =>
      separable name (registry.suitable_subset account avoid member)
  refine ⟨listed ▸ exists_listing_joinNames separable, suited, ?_⟩
  rintro engine rfl keyed uplink id data session registration server found selected scram rejected
  obtain ⟨arrival, account, credential, arrived, differs, sent⟩ :=
    engine.mismatch_of_rejection keyed uplink found selected scram rejected
  obtain ⟨shown, listing⟩ := suited account credential.digest.avoidList
  have avoided (digest : Digest) (other : digest ≠ credential.digest) :
      digest.scramName ∉ shown := fun member =>
    not_mem_suitable (Digest.mem_avoidList_iff.mpr other) (listing.start.subset member)
  refine ⟨arrival, account, credential, shown, arrived, differs, sent, listing, ?_, avoided⟩
  rw [Registration.name, scram]
  exact avoided server.digest differs.other.symm

/-! ## A rejection -/

/-- An engine that offers PLAIN and SCRAM with two digests, and a client that has asked for the one
that the only account has no hash for. -/
def mixedEngine : Engine MemoryDirectory PasswordHasher :=
  pencilEngine.performAll
    [.registered .plain, .registered (.scram { pencilServer with digest := .sha256 }),
     .registered (.scram pencilServer), .frame "hub" (.startAuth "U1" "SCRAM-SHA-256" none)]

/-- The client names the account and is told what else it can use. -/
theorem Registry.listings_usable_pencil :
    ∃ list shown,
      (mixedEngine.handle "hub" (.clientData "U1" "biwsbj1hbGljZSxyPWFiY2RlZmdo")).1 =
        .mechanismList "U1" list :: Scram.rejection "U1" "digest-algorithm-mismatch" ∧
      list = "PLAIN,SCRAM-SHA-1" ∧ namesIn list = shown ∧ "SCRAM-SHA-256" ∉ shown := by
  have separable : Separable mixedEngine.registry.names := by
    have names : mixedEngine.registry.names = ["PLAIN", "SCRAM-SHA-256", "SCRAM-SHA-1"] := by
      decide +kernel
    rw [names]
    unfold Separable
    decide
  have created : Engine.create {} pencilAccounts ⟨{}⟩ pencilEngine.env.entropy =
      .ok pencilEngine := rfl
  have reachable : mixedEngine.Reachable := (Engine.Reachable.create created).performAll _
  have busy : (mixedEngine.sessions.find? "U1").map Session.mechanism =
      some (some ⟨1, .scram { pencilServer with digest := .sha256 }⟩) := by
    decide +kernel
  have sent : (mixedEngine.handle "hub" (.clientData "U1" "biwsbj1hbGljZSxyPWFiY2RlZmdo")).1 =
      .mechanismList "U1" "PLAIN,SCRAM-SHA-1" ::
        Scram.rejection "U1" "digest-algorithm-mismatch" := by
    decide +kernel
  obtain ⟨session, found, selected⟩ := Option.map_eq_some_iff.mp busy
  obtain ⟨-, -, usable⟩ := Registry.listings_usable
    (D := MemoryDirectory) (C := PasswordHasher) (Engine.Bound.of_reachable reachable).listed
    separable
  obtain ⟨_, account, credential, shown, -, -, answer, listing, unused, -⟩ :=
    usable mixedEngine rfl reachable.sound.keyed "hub" "U1" "biwsbj1hbGljZSxyPWFiY2RlZmdo" session _
      _ found selected rfl (sent ▸ List.suffix_cons _ _)
  have same := answer.symm.trans sent
  simp only [List.cons.injEq, Outbound.mechanismList.injEq, true_and, and_true] at same
  exact ⟨_, shown, answer, same, listing.read, unused⟩

end IrcSasl
