import IrcSasl.Proofs.Account.Index
import IrcSasl.Proofs.Credential
import IrcSasl.Proofs.Engine.Directory
import IrcSasl.Proofs.Scram.Soundness

set_option autoImplicit false

/-!
# Errors in the log

An engine with a directory in memory that hashes passwords with PBKDF2 and offers PLAIN, EXTERNAL
and SCRAM never reports a defect of its own, whatever the uplink, its clients and the keepers of the
directory do. The two errors that are left are those of a random source that fails and of a client
that has proved a password which was made up for it (`Engine.errors_explained`).
-/

namespace IrcSasl

/-- Whether an event reports something that must not happen: a negotiation without a mechanism or
with what another mechanism keeps, an account that is there by its name only, a stored hash that has
no native layout, or a login into an account that is not there. -/
def Log.Event.isDefect : Log.Event → Bool
  | .client _ .missingMechanism => true
  | .scram _ (.fault .foreignState) | .scram _ (.fault .accountMissing) => true
  | .scram _ (.conversionFailed _) => true
  | .loginVanished _ _ => true
  | _ => false

theorem Log.Event.isDefect_of_isRoutine {event : Log.Event} (routine : event.isRoutine = true) :
    event.isDefect = false := by
  unfold isDefect
  split
  · cases routine
  · cases routine
  · cases routine
  · cases routine
  · cases routine
  · rfl

section

variable {D C : Type} [AccountDirectory D]

/-- A client of SCRAM has proved that it knows the password of nobody: its first message names no
account, and its second one brings a proof that fits the credential made up for that name. -/
structure Observed.Guesses (observed : Observed D C) (id : String) (server : Scram.Server)
    (first second : Message D C) (opening : Scram.ClientFirst) (serverNonce proof : Bytes) :
    Prop where
  uses : ∃ session registration, observed.engine.sessions.find? id = some session ∧
    session.mechanism = some registration ∧ registration.mechanism = .scram server
  said : (observed.dialogue id).messages = [first, second]
  parsed : Scram.ClientFirst.parse first.bytes = .ok opening
  nobody : AccountDirectory.findByName first.engine.accounts opening.authcid = none
  drawn : (first.engine.env.draw Limits.nonceLengthRaw).1 = some serverNonce
  read : (Scram.Exchange.start opening (server.mockCredential opening.authcid) none
    serverNonce).readProof second.bytes = .ok proof
  accepted : (Scram.Exchange.start opening (server.mockCredential opening.authcid) none
    serverNonce).accepts proof = true

/-- The errors that an event can write to the log, with what is the matter then. -/
inductive Observed.Alarm (observed : Observed D C) : Engine.Event D → Log.Event → Prop where
  /-- There are no random bytes. -/
  | randomSource {server source : String} {frame : Inbound}
      (failed : (observed.engine.env.draw Limits.nonceLengthRaw).1 = none) :
      Alarm observed (.frame server frame) (.scram source (.fault .randomSource))
  /-- The client acknowledges that it was let in as nobody. -/
  | unknownAccount {server source : String} {frame : Inbound} {scram : Scram.Server}
      {first second : Message D C} {opening : Scram.ClientFirst} {serverNonce proof : Bytes}
      (guesses : observed.Guesses frame.session scram first second opening serverNonce proof) :
      Alarm observed (.frame server frame) (.scram source (.fault .unknownAccount))

theorem Observed.Alarm.isDefect {observed : Observed D C} {event : Engine.Event D}
    {line : Log.Event} (alarm : observed.Alarm event line) : line.isDefect = false := by
  cases alarm <;> rfl

end

/-! ## The directory -/

/-- A user can be logged into every account that is there. -/
theorem MemoryDirectory.login_of_find? {directory : MemoryDirectory} {id : AccountId}
    (present : (directory.find? id).isSome) (uid : String) : (directory.login uid id).1 = true := by
  obtain ⟨account, found⟩ := Option.isSome_iff_exists.mp present
  have found : directory.accounts.find? id = some account := found
  rw [login, found]

/-- A client is granted an account that is there. -/
theorem Session.find?_of_granted {directory : MemoryDirectory} (keyed : directory.Keyed)
    {session : Session} {target : Account} (granted : session.granted directory = some target) :
    directory.find? target.id = some target := by
  obtain ⟨source, claims, -⟩ := granted_eq_some_iff.mp granted
  obtain ⟨acting, -, found⟩ := Option.bind_eq_some_iff.mp claims.target
  exact keyed.find?_id found

/-! ## One event -/

namespace Observed

variable {observed : Observed MemoryDirectory PasswordHasher}

/-- What clients have said explains what their sessions hold, and the directory is in step with its
index. -/
structure Coherent (observed : Observed MemoryDirectory PasswordHasher) : Prop where
  faithful : observed.Faithful
  indexed : observed.engine.accounts.Indexed

namespace Coherent

theorem perform (coherent : observed.Coherent) {event : Engine.Event MemoryDirectory}
    (offers : event.Offers Mechanism.Standard) (keeps : event.KeepsIdentity) :
    (observed.perform event).Coherent := by
  have touches := Engine.touches_perform coherent.faithful.sound.keyed event
  refine ⟨coherent.faithful.run [event] (by simpa using offers), ?_⟩
  exact touches.lift MemoryDirectory.Indexed (fun _ _ kept indexed => indexed.apply kept)
    (fun _ => MemoryDirectory.Operation.Negotiated.keepsIdentity) keeps coherent.indexed

/-- When SCRAM takes alarm at a message, there are no random bytes, or the client has proved the
password of nobody. -/
theorem alarm (coherent : observed.Coherent) {server : String} {frame : Inbound}
    {session : Session} {middle : Engine MemoryDirectory PasswordHasher} {query : Query}
    {step : Step} {after : Context MemoryDirectory PasswordHasher}
    (asks : observed.engine.Asks server frame session middle query step after)
    (complete : query.message.isSome) {line : Log.Event}
    (alarm : Scram.Alarm (middle.context query.session) line) :
    observed.Alarm (.frame server frame) line := by
  obtain ⟨message, complete⟩ := Option.isSome_iff_exists.mp complete
  obtain ⟨data, before, decoder, -, found, selected, -, fed⟩ :=
    Engine.arrival?_eq_some (asks.arrival complete)
  have progress : Progress frame.session query.registration.mechanism
      (observed.dialogue frame.session) query.session :=
    coherent.faithful.progress (asks.arrival complete)
  have accounts : middle.accounts = observed.engine.accounts := asks.enters.alike.accounts
  cases alarm with
  | accountMissing known gone =>
      have known : middle.accounts.findName? _ = some _ := known
      have gone : middle.accounts.find? _ = none := gone
      rw [accounts] at known gone
      cases gone.symm.trans (coherent.indexed.keyed.find?_of_findName? known)
  | randomSource failed =>
      refine .randomSource ?_
      have failed : (middle.env.draw Limits.nonceLengthRaw).1 = none := failed
      rw [← failed]
      simp only [Environment.draw, asks.enters.alike.entropy]
  | unknownAccount kept complete nobody =>
      obtain ⟨scram, first, second, opening, serverNonce, exchange, proof, named, said, rfl, opened,
        proved⟩ := progress.proved_of_complete kept complete
      cases opened.credited with
      | mock unknown made none =>
          have started := opened.started
          rw [made, none] at started
          have read := proved.read
          have accepted := proved.accepted
          rw [started] at read accepted
          exact .unknownAccount ⟨⟨before, _, found, selected, named⟩, said, opened.parsed, unknown,
            opened.drawn, read, accepted⟩
      | stored _ somebody => cases somebody.symm.trans nobody
  | conversionFailed kept complete somebody failed =>
      obtain ⟨scram, first, second, opening, serverNonce, exchange, proof, named, said, rfl, opened,
        proved⟩ := progress.proved_of_complete kept complete
      cases opened.credited with
      | mock _ _ nobody => cases nobody.symm.trans somebody
      | stored _ _ _ _ _ _ extracted =>
          have failed : exchange.credential.encode = .error _ := failed
          rw [(Credential.storable_of_ofHash? extracted).encode_eq] at failed
          cases failed
  | foreignState kept foreign =>
      cases progress with
      | silent _ state => cases state.symm.trans kept
      | opened _ _ state => exact absurd (Option.some.inj (kept.symm.trans state)) (foreign _)
      | proved _ _ state => exact absurd (Option.some.inj (kept.symm.trans state)) (foreign _)

/-- What an event writes to the log is routine, or there is cause for alarm. -/
theorem logs (coherent : observed.Coherent) (event : Engine.Event MemoryDirectory) :
    observed.engine.env.Logs (fun line => line.isRoutine = true ∨ observed.Alarm event line)
      (observed.perform event).engine.env := by
  by_cases framed : ∃ server frame, event = .frame server frame
  · obtain ⟨server, frame, rfl⟩ := framed
    have keyed := coherent.faithful.sound.keyed
    cases verdict : observed.engine.verdict? server frame with
    | none => exact Engine.logs_unasked (fun _ => .inl) verdict
    | some result =>
        obtain ⟨step, after⟩ := result
        obtain ⟨session, middle, query, asks⟩ := Engine.asks_of_verdict? keyed verdict
        refine asks.logs (fun _ => .inl) ?_ ?_
        · have same : after = (query.registration.turn (middle.context query.session)
              query.message).2 := (congrArg Prod.snd asks.turned).symm
          rw [same]
          exact Engine.logs_turn (fun _ => .inl) (asks.offered coherent.faithful.sound) _
            fun complete line taken => .inr (coherent.alarm asks complete taken)
        · intro target _ granted
          have indexed : after.accounts.Indexed :=
            asks.rehashed.lift MemoryDirectory.Indexed
              (fun directory id hash indexed =>
                indexed.of_sameNames (directory.sameNames_setPassword id hash)) coherent.indexed
          have found := Session.find?_of_granted indexed.keyed granted
          exact MemoryDirectory.login_of_find? (Option.isSome_of_eq_some found) _
  · refine Engine.logs_perform (fun _ => .inl) observed.engine event ?_ ?_
    · exact fun server frame same => framed ⟨server, frame, same⟩
    · exact fun uid id present => MemoryDirectory.login_of_find? present uid

/-! ## Every run -/

/-- A new engine whose directory was filled by operations that leave identifiers and names alone. -/
theorem opening {options : Options} {casemap : Text.Casemap}
    {setup : List MemoryDirectory.Operation} {hasher : PasswordHasher} {entropy : Entropy}
    {engine : Engine MemoryDirectory PasswordHasher}
    (kept : ∀ operation ∈ setup, operation.KeepsIdentity)
    (created : Engine.create options (MemoryDirectory.run { casemap } setup) hasher entropy =
      .ok engine) : (Observed.opening engine).Coherent := by
  refine ⟨.opening created, ?_⟩
  unfold Engine.create at created
  split at created
  · cases created
    exact (MemoryDirectory.Indexed.empty casemap).run kept
  · cases created

theorem run (coherent : observed.Coherent) {events : List (Engine.Event MemoryDirectory)}
    (offers : ∀ event ∈ events, event.Offers Mechanism.Standard)
    (keeps : ∀ event ∈ events, event.KeepsIdentity) : (observed.run events).Coherent :=
  run_invariant (fun _ _ allowed coherent => coherent.perform allowed.1 allowed.2) coherent events
    fun event member => And.intro (offers event member) (keeps event member)

/-- No event writes of a defect. -/
theorem unharmed (coherent : observed.Coherent) (event : Engine.Event MemoryDirectory)
    (clean : ∀ line ∈ observed.engine.env.log, line.isDefect = false) :
    ∀ line ∈ (observed.perform event).engine.env.log, line.isDefect = false := by
  obtain ⟨added, same, kinds⟩ := coherent.logs event
  intro line member
  rw [same] at member
  rcases List.mem_append.mp member with before | new
  · exact clean line before
  · rcases kinds line new with routine | alarm
    · exact Log.Event.isDefect_of_isRoutine routine
    · exact alarm.isDefect

/-- A log that tells of no defect goes on telling of none. The induction is on the events. -/
theorem unharmed_run (coherent : observed.Coherent) {events : List (Engine.Event MemoryDirectory)}
    (offers : ∀ event ∈ events, event.Offers Mechanism.Standard)
    (keeps : ∀ event ∈ events, event.KeepsIdentity)
    (clean : ∀ line ∈ observed.engine.env.log, line.isDefect = false) :
    ∀ line ∈ (observed.run events).engine.env.log, line.isDefect = false := by
  induction events generalizing observed with
  | nil => exact clean
  | cons event rest ih =>
      obtain ⟨offered, offers⟩ := List.forall_mem_cons.mp offers
      obtain ⟨kept, keeps⟩ := List.forall_mem_cons.mp keeps
      exact ih (coherent.perform offered kept) offers keeps (coherent.unharmed event clean)

end Coherent

end Observed

namespace Engine

/-- In every run of PLAIN, EXTERNAL and SCRAM over a directory in memory, the log tells of no
defect, and whenever an event writes an error to it, there were no random bytes to draw or a client
has proved the password of nobody. -/
theorem errors_explained {options : Options} {casemap : Text.Casemap}
    {setup : List MemoryDirectory.Operation} {hasher : PasswordHasher} {entropy : Entropy}
    {engine : Engine MemoryDirectory PasswordHasher}
    (kept : ∀ operation ∈ setup, operation.KeepsIdentity)
    (created : Engine.create options (MemoryDirectory.run { casemap } setup) hasher entropy =
      .ok engine)
    {events : List (Event MemoryDirectory)}
    (offers : ∀ event ∈ events, event.Offers Mechanism.Standard)
    (keeps : ∀ event ∈ events, event.KeepsIdentity) :
    (∀ line ∈ ((Observed.opening engine).run events).engine.env.log, line.isDefect = false) ∧
      ∀ earlier event later, events = earlier ++ event :: later →
        let before := (Observed.opening engine).run earlier
        before.engine.env.Logs (fun line => line.level = .error → before.Alarm event line)
          (before.perform event).engine.env := by
  have opened : (Observed.opening engine).Coherent := .opening kept created
  have fresh : (Observed.opening engine).engine.env.log = [] := by
    change engine.env.log = []
    unfold Engine.create at created
    split at created
    · cases created
      rfl
    · cases created
  constructor
  · refine opened.unharmed_run offers keeps ?_
    rw [fresh]
    exact fun line member => absurd member List.not_mem_nil
  · rintro earlier event later rfl before
    have reached : before.Coherent := opened.run
      (fun event member => offers event (List.mem_append_left _ member))
      (fun event member => keeps event (List.mem_append_left _ member))
    refine (reached.logs event).mono ?_
    rintro line (routine | alarm) error
    · exact absurd error (Log.Event.level_of_isRoutine routine)
    · exact alarm

end Engine

/-! ## An error -/

/-- A directory is given an account. -/
def strandedSetup : List MemoryDirectory.Operation := [.register "alice" none]

/-- An engine with that directory, whose first draw of random bytes fails. -/
def strandedEngine : Engine MemoryDirectory PasswordHasher :=
  { options := {}, accounts := MemoryDirectory.run {} strandedSetup, credentials := ⟨{}⟩
    env := { entropy := .arithmetic 0 [0] } }

/-- The account is dropped, and a client asks for SCRAM. -/
def strandedEvents : List (Engine.Event MemoryDirectory) :=
  [.registered (.scram pencilServer),
   .directory fun directory => directory.apply (.drop ⟨1⟩),
   .frame "hub" (.startAuth "U1" "SCRAM-SHA-1" none)]

/-- The client names the account that was dropped. -/
def strandedFrame : Engine.Event MemoryDirectory :=
  .frame "hub" (.clientData "U1" "biwsbj1hbGljZSxyPWFiY2RlZmdo")

set_option maxRecDepth 100000 in
/-- The answer to that client fails with an error, for want of random bytes. -/
theorem errors_explained_stranded :
    let before := (Observed.opening strandedEngine).run strandedEvents
    ∃ line ∈ (before.perform strandedFrame).engine.env.log, line.level = .error ∧
      line.isDefect = false ∧ before.Alarm strandedFrame line := by
  intro before
  have created : Engine.create {} (MemoryDirectory.run {} strandedSetup) ⟨{}⟩ (.arithmetic 0 [0]) =
      .ok strandedEngine := rfl
  have kept : ∀ operation ∈ strandedSetup, operation.KeepsIdentity := by
    intro operation member
    rw [List.mem_singleton.mp member]
    trivial
  have offers : ∀ event ∈ strandedEvents ++ [strandedFrame], event.Offers Mechanism.Standard := by
    simp only [strandedEvents, strandedFrame, List.cons_append, List.nil_append,
      List.forall_mem_cons]
    exact ⟨rfl, trivial, trivial, trivial, fun _ absurd => by cases absurd⟩
  have keeps : ∀ event ∈ strandedEvents ++ [strandedFrame], event.KeepsIdentity := by
    simp only [strandedEvents, strandedFrame, List.cons_append, List.nil_append,
      List.forall_mem_cons]
    exact ⟨trivial, ⟨.drop ⟨1⟩, trivial, rfl⟩, trivial, trivial,
      fun _ absurd => by cases absurd⟩
  have quiet : ∀ line ∈ before.engine.env.log, line.level ≠ .error := by decide +kernel
  have loud : ∃ line ∈ (before.perform strandedFrame).engine.env.log, line.level = .error := by
    decide +kernel
  obtain ⟨line, member, error⟩ := loud
  obtain ⟨clean, explained⟩ := Engine.errors_explained kept created offers keeps
  have last : (Observed.opening strandedEngine).run (strandedEvents ++ [strandedFrame]) =
      before.perform strandedFrame := List.foldl_append
  rw [last] at clean
  obtain ⟨added, grown, alarms⟩ := explained strandedEvents strandedFrame [] rfl
  refine ⟨line, member, error, clean line member, ?_⟩
  rw [grown] at member
  rcases List.mem_append.mp member with old | new
  · exact absurd error (quiet line old)
  · exact alarms line new error

end IrcSasl
