import IrcSasl.Proofs.Engine.Isolation
import IrcSasl.Proofs.Mechanism.Parallel

set_option autoImplicit false

/-!
# Frames of different clients

Two frames for different sessions can be handled in either order, if neither lets its client in and
neither draws random bytes: each is answered as it would be alone, and the engine is left the same
(`Engine.handle_comm`). What one frame changes beside its own session are at most the counts of
failed attempts, which the mechanisms that the other frame runs do not read. A mechanism that is
none of PLAIN, EXTERNAL and SCRAM may change more.
-/

namespace IrcSasl

variable {C : Type}

namespace MemoryDirectory

/-- The directory after a failed attempt at an account, if it is known which. -/
def blame (directory : MemoryDirectory) : Option AccountId → MemoryDirectory
  | none => directory
  | some id => directory.badPassword id

theorem recounted_blame (directory : MemoryDirectory) (id : Option AccountId) :
    Recounted directory (directory.blame id) := by
  cases id with
  | none => exact .refl directory
  | some id => exact .badPassword directory id

theorem badPasswordCount_blame (directory : MemoryDirectory) (id : Option AccountId)
    (other : AccountId) :
    (directory.blame id).badPasswordCount other =
      directory.badPasswordCount other +
        if id = some other ∧ (directory.find? other).isSome then 1 else 0 := by
  cases id with
  | none => simp [blame]
  | some id =>
      rw [blame, badPasswordCount_badPassword]
      by_cases same : id = other
      · simp [same]
      · simp [same]

/-- It does not matter in which order failed attempts are counted. -/
theorem badPasswordCount_blame_comm (directory : MemoryDirectory) (one other : Option AccountId)
    (id : AccountId) :
    ((directory.blame one).blame other).badPasswordCount id =
      ((directory.blame other).blame one).badPasswordCount id := by
  have found (blamed : Option AccountId) : (directory.blame blamed).find? id = directory.find? id :=
    (recounted_blame directory blamed).findById id
  simp only [badPasswordCount_blame, found]
  rw [UInt32.add_assoc, UInt32.add_assoc]
  exact congrArg (_ + ·) (UInt32.add_comm ..)

theorem recounted_blame_comm (directory : MemoryDirectory) (one other : Option AccountId) :
    Recounted ((directory.blame one).blame other) ((directory.blame other).blame one) :=
  ((recounted_blame directory one).trans (recounted_blame _ other)).symm.trans
    ((recounted_blame directory other).trans (recounted_blame _ one))

/-- A failed attempt is counted against who the client said to be, if anybody. -/
theorem penalized_eq (directory : MemoryDirectory) (session : Session) :
    penalized directory session = directory.blame (session.authc.map Identity.id) := by
  unfold penalized
  cases session.authc with
  | none => rfl
  | some authc =>
      simp only [Option.map_some, blame, badPassword]
      have present : directory.accounts.contains authc.id = (directory.find? authc.id).isSome := rfl
      rw [present]
      cases found : directory.find? authc.id with
      | none =>
          have found : AccountDirectory.findById directory authc.id = none := found
          simp [found]
      | some account =>
          have live : AccountDirectory.findById directory authc.id = some account := found
          simp only [live, Option.isSome_some, if_true]
          change directory.badPassword authc.id = _
          rw [badPassword, present, found]
          rfl

end MemoryDirectory

/-! ## What a frame comes to beside others -/

/-- Two replies tell a client the same, leave its session the same, and count the same failed
attempt, each in its own directory. -/
structure Reply.Alike (accounts others : MemoryDirectory) (one other : Reply MemoryDirectory) :
    Prop where
  frames : other.frames = one.frames
  session : other.session = one.session
  accounts : ∃ blamed, one.accounts = accounts.blame blamed ∧ other.accounts = others.blame blamed

theorem Reply.alike_ofStep {accounts others : MemoryDirectory} (entropy entropy' : Entropy)
    (session : Session) (mechanism : String) {step : Step} (unsuccessful : step ≠ .success) :
    Alike accounts others (ofStep accounts entropy session mechanism step)
      (ofStep others entropy' session mechanism step) := by
  cases step with
  | more data => exact ⟨rfl, rfl, none, rfl, rfl⟩
  | success => exact absurd rfl unsuccessful
  | failure reply =>
      exact ⟨rfl, rfl, session.authc.map Identity.id, accounts.penalized_eq session,
        others.penalized_eq session⟩
  | refused reply => exact ⟨rfl, rfl, none, rfl, rfl⟩

/-- To conclude a step draws no random bytes. -/
theorem Reply.entropy_ofStep {D : Type} [AccountDirectory D] (accounts : D) (entropy : Entropy)
    (session : Session) (mechanism : String) (step : Step) :
    (ofStep accounts entropy session mechanism step).entropy = entropy := by
  cases step with
  | success =>
      simp only [ofStep]
      split
      · rfl
      · split <;> rfl
  | more data => rfl
  | failure reply => rfl
  | refused reply => rfl

namespace Engine

/-- Two engines look the same to a frame of a session that does not read the counts of failed
attempts. -/
structure Beside (id : String) (first second : Engine MemoryDirectory C) : Prop where
  session : second.sessions.find? id = first.sessions.find? id
  accounts : first.accounts.Recounted second.accounts
  credentials : second.credentials = first.credentials
  registry : second.registry = first.registry

variable [CredentialStore C] {first second : Engine MemoryDirectory C}

omit [CredentialStore C] in
theorem query?_of_registry (registry : second.registry = first.registry) (session : Session)
    (frame : Inbound) : second.query? session frame = first.query? session frame := by
  cases frame <;> simp only [query?, registry]

theorem entropy_turn (engine : Engine MemoryDirectory C) (session : Session)
    (registration : Registration) (message : Option Bytes) :
    (engine.turn session registration message).entropy =
      (registration.turn (engine.context session) message).2.env.entropy := by
  unfold turn
  exact Reply.entropy_ofStep _ _ _ _ _

/-- A frame that asks no mechanism comes to what the session and the registry say. -/
theorem alike_of_unasked {session : Session} {frame : Inbound}
    (registry : second.registry = first.registry)
    (unasked : first.query? session frame = none) :
    Reply.Alike first.accounts second.accounts (first.reply session frame)
      (second.reply session frame) := by
  cases frame with
  | hostInfo id host ip secure => exact ⟨rfl, rfl, none, rfl, rfl⟩
  | startAuth id name certfp =>
      simp only [query?] at unasked
      simp only [reply, registry]
      split
      · exact ⟨rfl, rfl, none, rfl, rfl⟩
      · next short =>
          split
          · exact ⟨rfl, rfl, none, rfl, rfl⟩
          · next idle =>
              rw [session.mechanism_presenting] at idle
              rw [if_neg (by simp [short, idle]), Option.map_eq_none_iff] at unasked
              rw [unasked]
              exact ⟨rfl, rfl, none, rfl, rfl⟩
  | clientData id data =>
      simp only [query?] at unasked
      simp only [reply]
      split
      · exact ⟨rfl, rfl, none, rfl, rfl⟩
      · next registration selected =>
          rw [selected, Option.bind_some] at unasked
          split
          · exact ⟨rfl, rfl, none, rfl, rfl⟩
          · next message decoder added =>
              rw [added] at unasked
              cases unasked
          · exact ⟨rfl, rfl, none, rfl, rfl⟩
          · exact ⟨rfl, rfl, none, rfl, rfl⟩
  | done id => exact ⟨rfl, rfl, none, rfl, rfl⟩

/-- A mechanism that neither succeeds nor draws random bytes comes to the same. -/
theorem alike_turn (accounts : first.accounts.Recounted second.accounts)
    (credentials : second.credentials = first.credentials)
    (registry : second.registry = first.registry) (session : Session) {registration : Registration}
    (standard : registration.mechanism.isStandard = true) (message : Option Bytes)
    (unsuccessful : (registration.turn (first.context session) message).1 ≠ .success)
    (undrawn : (registration.turn (first.context session) message).2.env.entropy.drawn =
      first.env.entropy.drawn) :
    Reply.Alike first.accounts second.accounts (first.turn session registration message)
      (second.turn session registration message) := by
  have parallel : (first.context session).Parallel (second.context session) :=
    ⟨rfl, accounts, credentials, registry, rfl⟩
  obtain ⟨step, left, right, one, other, after⟩ :=
    registration.parallel_turn standard parallel undrawn
  rw [one] at unsuccessful
  have unchanged := Registration.accounts_turn_of_unsuccessful standard one unsuccessful
  have unchanged' := Registration.accounts_turn_of_unsuccessful standard other unsuccessful
  have unchanged : left.accounts = first.accounts := unchanged
  have unchanged' : right.accounts = second.accounts := unchanged'
  have alike : Reply.Alike first.accounts second.accounts
      (.ofStep first.accounts left.env.entropy left.session registration.name step)
      (.ofStep second.accounts right.env.entropy left.session registration.name step) :=
    Reply.alike_ofStep _ _ _ _ unsuccessful
  simp only [turn, one, other, after.session, after.mechlist, unchanged, unchanged']
  exact ⟨congrArg (_ ++ ·) alike.frames, alike.session, alike.accounts⟩

omit [CredentialStore C] in
/-- Two engines that look the same to a frame find or begin the same session for it. -/
theorem Beside.entered {server : String} {frame : Inbound}
    (beside : first.Beside frame.session second) (keyed : first.Keyed) (keyed' : second.Keyed) :
    first.sessionFor server frame = none ∧ second.sessionFor server frame = none ∨
      ∃ session left right, first.sessionFor server frame = some (session, left) ∧
        second.sessionFor server frame = some (session, right) ∧
        first.Enters server frame session left ∧ second.Enters server frame session right := by
  have begins (engine : Engine MemoryDirectory C) : engine.sessionFor server frame = none ↔
      engine.sessions.find? frame.session = none ∧
        ∃ id, frame = .done id ∨ ∃ data, frame = .clientData id data := by
    cases frame <;> simp [sessionFor, Inbound.session]
  rcases first.sessionFor_cases server frame keyed with
    ⟨none, unknown⟩ | ⟨session, left, one, enters⟩
  · refine .inl ⟨none, (begins second).mpr ⟨beside.session.trans unknown, ?_⟩⟩
    exact ((begins first).mp none).2
  · rcases second.sessionFor_cases server frame keyed' with
      ⟨none, unknown⟩ | ⟨session', right, other, enters'⟩
    · have absurd :=
        (begins first).mpr ⟨beside.session.symm.trans unknown, ((begins second).mp none).2⟩
      rw [one] at absurd
      cases absurd
    · refine .inr ⟨session, left, right, one, ?_, enters, ?_⟩
      all_goals
        cases known : first.sessions.find? frame.session with
        | none =>
            cases enters.fresh known
            cases enters'.fresh (beside.session.trans known)
            assumption
        | some earlier =>
            obtain ⟨rfl, -⟩ := enters.known earlier known
            obtain ⟨rfl, -⟩ := enters'.known earlier (beside.session.trans known)
            assumption

/-- A frame does not let its client in and draws no random bytes. -/
structure Quiet (engine : Engine MemoryDirectory C) (server : String) (frame : Inbound) : Prop where
  unsuccessful : (engine.verdict? server frame).map Prod.fst ≠ some .success
  undrawn : (engine.handle server frame).2.env.entropy.drawn = engine.env.entropy.drawn

/-- Two engines that look the same to a quiet frame come to the same reply for its session. -/
theorem Beside.alike_reply {server : String} {frame : Inbound} {session : Session}
    {left right : Engine MemoryDirectory C} (beside : first.Beside frame.session second)
    (found : first.sessionFor server frame = some (session, left))
    (enters : first.Enters server frame session left)
    (enters' : second.Enters server frame session right) (quiet : first.Quiet server frame)
    (standard : ¬first.RunsCustom server frame) :
    Reply.Alike left.accounts right.accounts (left.reply session frame)
      (right.reply session frame) := by
  have registry : right.registry = left.registry := by
    rw [enters.alike.registry, enters'.alike.registry, beside.registry]
  cases asked : left.query? session frame with
  | none => exact alike_of_unasked registry asked
  | some query =>
      have same : right.query? session frame = some query :=
        (query?_of_registry registry session frame).trans asked
      have accounts : left.accounts.Recounted right.accounts := by
        rw [enters.alike.accounts, enters'.alike.accounts]
        exact beside.accounts
      have credentials : right.credentials = left.credentials := by
        rw [enters.alike.credentials, enters'.alike.credentials, beside.credentials]
      have standard : query.registration.mechanism.isStandard = true := by
        refine (Bool.eq_false_or_eq_true _).resolve_right fun custom =>
          standard ⟨query, ?_, custom⟩
        rw [Engine.asked?, found]
        exact asked
      have gives := handle_gives found enters
      rw [reply_of_query? asked] at gives ⊢
      rw [reply_of_query? same]
      refine alike_turn accounts credentials registry query.session standard query.message ?_ ?_
      · intro success
        refine quiet.unsuccessful ?_
        rw [verdict?, found, Option.bind_some]
        simp only [asked, Option.map_some, success]
      · rw [← entropy_turn, ← gives.entropy, quiet.undrawn, enters.alike.entropy]

/-- A frame that is quiet in one engine comes to the same in another one that looks the same to it.
-/
theorem handle_beside {server : String} {frame : Inbound} (keyed : first.Keyed)
    (keyed' : second.Keyed) (beside : first.Beside frame.session second)
    (quiet : first.Quiet server frame) (standard : ¬first.RunsCustom server frame) :
    (second.handle server frame).1 = (first.handle server frame).1 ∧
      (second.handle server frame).2.sessions.find? frame.session =
        (first.handle server frame).2.sessions.find? frame.session ∧
      ∃ blamed, (first.handle server frame).2.accounts = first.accounts.blame blamed ∧
        (second.handle server frame).2.accounts = second.accounts.blame blamed := by
  rcases beside.entered keyed keyed' with
    ⟨unknown, unknown'⟩ | ⟨session, left, right, found, found', enters, enters'⟩
  · have ignored {engine : Engine MemoryDirectory C}
        (unknown : engine.sessionFor server frame = none) :
        engine.handle server frame = ([], engine.note (.sessionUnknown frame.session)) := by
      simp only [handle, unknown]
    rw [ignored unknown, ignored unknown']
    exact ⟨rfl, beside.session, none, rfl, rfl⟩
  · have gives := handle_gives found enters
    have gives' := handle_gives found' enters'
    have alike := beside.alike_reply found enters enters' quiet standard
    obtain ⟨blamed, counted, counted'⟩ := alike.accounts
    refine ⟨?_, ?_, blamed, ?_, ?_⟩
    · rw [gives.frames, gives'.frames, alike.frames]
    · rw [gives.sessions, gives'.sessions, if_pos rfl, if_pos rfl, alike.session]
    · rw [gives.accounts, counted, enters.alike.accounts]
    · rw [gives'.accounts, counted', enters'.alike.accounts]

/-- A frame that is quiet, and runs none but PLAIN, EXTERNAL and SCRAM, leaves the engine the same
to the frames of other sessions. -/
theorem beside_handle {engine : Engine MemoryDirectory C} {server : String} {frame : Inbound}
    (keyed : engine.Keyed) (quiet : engine.Quiet server frame)
    (standard : ¬engine.RunsCustom server frame) {id : String} (other : id ≠ frame.session) :
    engine.Beside id (engine.handle server frame).2 := by
  have same : engine.Beside frame.session engine := ⟨rfl, .refl _, rfl, rfl⟩
  obtain ⟨-, -, blamed, accounts, -⟩ := handle_beside keyed keyed same quiet standard
  refine ⟨find?_handle_of_ne keyed server other, ?_, credentials_handle keyed server frame,
    registry_handle keyed server frame⟩
  rw [accounts]
  exact engine.accounts.recounted_blame blamed

/-- Two engines have the same sessions, offer the same, and have the same directory, with the same
counts of failed attempts. -/
structure Same (first second : Engine MemoryDirectory C) : Prop where
  sessions : ∀ id, second.sessions.find? id = first.sessions.find? id
  registry : second.registry = first.registry
  accounts : first.accounts.Recounted second.accounts
  counts : ∀ id, second.accounts.badPasswordCount id = first.accounts.badPasswordCount id

/-- Two frames are answered the same in either order, and leave the engine the same. -/
structure Commute (engine : Engine MemoryDirectory C) (server : String) (frame : Inbound)
    (server' : String) (frame' : Inbound) : Prop where
  first : ((engine.handle server' frame').2.handle server frame).1 = (engine.handle server frame).1
  second : ((engine.handle server frame).2.handle server' frame').1 =
    (engine.handle server' frame').1
  same : Same ((engine.handle server frame).2.handle server' frame').2
    ((engine.handle server' frame').2.handle server frame).2

/-- Frames of different clients can be handled in either order, if neither lets its client in nor
draws random bytes, and the mechanism that each runs, if it runs one, is PLAIN, EXTERNAL or SCRAM.
-/
theorem handle_comm {engine : Engine MemoryDirectory C} (reachable : engine.Reachable)
    {server server' : String} {frame frame' : Inbound} (different : frame.session ≠ frame'.session)
    (quiet : engine.Quiet server frame) (quiet' : engine.Quiet server' frame')
    (standard : ¬engine.RunsCustom server frame) (standard' : ¬engine.RunsCustom server' frame') :
    engine.Commute server frame server' frame' := by
  have keyed := reachable.sound.keyed
  have after : (engine.handle server frame).2.Keyed :=
    (reachable.perform (.frame server frame)).sound.keyed
  have after' : (engine.handle server' frame').2.Keyed :=
    (reachable.perform (.frame server' frame')).sound.keyed
  obtain ⟨frames, left, blamed, counted, counted'⟩ := handle_beside keyed after'
    (beside_handle keyed quiet' standard' different) quiet standard
  obtain ⟨frames', left', blamed', recounted, recounted'⟩ := handle_beside keyed after
    (beside_handle keyed quiet standard (Ne.symm different)) quiet' standard'
  refine ⟨frames, frames', ?_, ?_, ?_, ?_⟩
  · intro id
    by_cases own : id = frame.session
    · rw [own, left]
      exact (find?_handle_of_ne after server' different).symm
    · by_cases other : id = frame'.session
      · rw [other, left']
        exact find?_handle_of_ne after' server (Ne.symm different)
      · calc
          _ = (engine.handle server' frame').2.sessions.find? id :=
            find?_handle_of_ne after' server own
          _ = engine.sessions.find? id := find?_handle_of_ne keyed server' other
          _ = (engine.handle server frame).2.sessions.find? id :=
            (find?_handle_of_ne keyed server own).symm
          _ = _ := (find?_handle_of_ne after server' other).symm
  · rw [registry_handle after', registry_handle keyed, registry_handle after,
      registry_handle keyed]
  · rw [recounted', counted', counted, recounted]
    exact engine.accounts.recounted_blame_comm blamed blamed'
  · intro id
    rw [recounted', counted', counted, recounted]
    exact engine.accounts.badPasswordCount_blame_comm blamed' blamed id

end Engine

/-! ## Mechanisms that replace hashes -/

/-- A mechanism that replaces the hash of the same account by another one. -/
def resaltingScript : Script :=
  { rehashingScript with
    name := "RESALT"
    start := [.rewrite ⟨1⟩ "$z$64$2$c2FsdHNhbHQ=$MSNFsnJ8vatSjBVvrzZe5c0sVBk=", .reply []] }

/-- An engine that offers both. -/
def racingEngine : Engine MemoryDirectory PasswordHasher :=
  rehashingEngine.performAll [.registered (.scripted resaltingScript)]

set_option maxRecDepth 100000 in
/-- Two clients ask for one of them each. Both are challenged, whoever is first, but the account is
left with the hash of the one that asked last. -/
theorem not_commute_racing :
    let rehash : Inbound := .startAuth "U1" "REHASH" none
    let resalt : Inbound := .startAuth "U2" "RESALT" none
    racingEngine.Reachable ∧ rehash.session ≠ resalt.session ∧
      racingEngine.Quiet "hub" rehash ∧ racingEngine.Quiet "hub" resalt ∧
      (racingEngine.handle "hub" resalt).2.Quiet "hub" rehash ∧
      (racingEngine.handle "hub" rehash).2.Quiet "hub" resalt ∧
      ¬racingEngine.Commute "hub" rehash "hub" resalt := by
  intro rehash resalt
  refine ⟨(reachable_waitingEngine.performAll _).performAll _, by decide, ⟨?_, ?_⟩, ⟨?_, ?_⟩,
    ⟨?_, ?_⟩, ⟨?_, ?_⟩, ?_⟩
  iterate 8 decide +kernel
  intro commute
  have differ : (((racingEngine.handle "hub" rehash).2.handle "hub" resalt).2.accounts.find?
      ⟨1⟩).map Account.password ≠
      (((racingEngine.handle "hub" resalt).2.handle "hub" rehash).2.accounts.find?
        ⟨1⟩).map Account.password := by decide +kernel
  have same := commute.same.accounts.findById ⟨1⟩
  exact differ (congrArg (Option.map Account.password) same).symm

/-! ## Two failed attempts -/

/-- Two clients have asked for PLAIN. -/
def rivalEngine : Engine MemoryDirectory PasswordHasher :=
  waitingEngine.performAll
    [.registered .plain, .frame "hub" (.startAuth "U1" "PLAIN" none),
     .frame "hub" (.startAuth "U2" "PLAIN" none)]

/-- A client tries a wrong password. -/
def wrongFrame (id : String) : Inbound := .clientData id "AGFsaWNlAHdyb25n"

set_option maxRecDepth 100000 in
/-- Both try a wrong password of one account. Whoever is first, two failed attempts are counted. -/
theorem handle_comm_rivals :
    rivalEngine.Commute "hub" (wrongFrame "U1") "hub" (wrongFrame "U2") ∧
      (rivalEngine.handle "hub" (wrongFrame "U1")).1 = [.outcome "U1" .failure] ∧
      ((rivalEngine.handle "hub" (wrongFrame "U1")).2.handle "hub"
        (wrongFrame "U2")).2.accounts.badPasswordCount ⟨1⟩ = 2 ∧
      ((rivalEngine.handle "hub" (wrongFrame "U2")).2.handle "hub"
        (wrongFrame "U1")).2.accounts.badPasswordCount ⟨1⟩ = 2 := by
  have standard {id : String} (asked : ((rivalEngine.asked? "hub" (wrongFrame id)).map
      fun query => query.registration.mechanism.isStandard) = some true) :
      ¬rivalEngine.RunsCustom "hub" (wrongFrame id) := by
    rintro ⟨query, found, custom⟩
    simp only [found, Option.map_some, custom, Option.some.injEq, Bool.false_eq_true] at asked
  have counts : ((rivalEngine.handle "hub" (wrongFrame "U1")).2.handle "hub"
      (wrongFrame "U2")).2.accounts.badPasswordCount ⟨1⟩ = 2 := by decide +kernel
  have reachable : rivalEngine.Reachable := reachable_waitingEngine.performAll _
  have quiet : rivalEngine.Quiet "hub" (wrongFrame "U1") := ⟨by decide +kernel, by decide +kernel⟩
  have quiet' : rivalEngine.Quiet "hub" (wrongFrame "U2") := ⟨by decide +kernel, by decide +kernel⟩
  have commute := Engine.handle_comm reachable (by decide) quiet quiet'
    (standard (by decide +kernel)) (standard (by decide +kernel))
  refine ⟨commute, by decide +kernel, counts, ?_⟩
  rw [← counts]
  exact commute.same.counts ⟨1⟩

end IrcSasl
