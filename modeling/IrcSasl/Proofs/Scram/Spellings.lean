import IrcSasl.Proofs.Engine.Binding
import IrcSasl.Proofs.Scram.Decoy
import IrcSasl.Proofs.Text.Casemap
import Mathlib.Data.List.Nodup

set_option autoImplicit false

/-!
# Spellings of a name that nobody has

A client that names an account that there is not must not see from the made-up credential how the
name was written: all spellings that a directory takes for one name have the same one. As long as a
mechanism is registered its server stays the same, so this holds for all clients of the mechanism,
whatever happens in between, and for those of the same server when it is registered again
(`Engine.spellings_alike`).
-/

namespace IrcSasl

/-! ## Registrations over time -/

/-- What has become of a registry: registrations may have been removed, and new ones have new serial
numbers. -/
structure Registry.Succeeds (before after : Registry) : Prop where
  issued : before.nextSerial ≤ after.nextSerial
  entries : ∀ entry ∈ after.entries, entry ∈ before.entries ∨ before.nextSerial ≤ entry.serial

namespace Registry.Succeeds

variable {before middle after : Registry}

theorem refl (registry : Registry) : Succeeds registry registry :=
  ⟨Nat.le_refl _, fun _ member => .inl member⟩

theorem trans (early : Succeeds before middle) (late : Succeeds middle after) :
    Succeeds before after := by
  refine ⟨Nat.le_trans early.issued late.issued, fun entry member => ?_⟩
  rcases late.entries entry member with old | new
  · exact early.entries entry old
  · exact .inr (Nat.le_trans early.issued new)

theorem register (registry : Registry) (mechanism : Mechanism) (env : Environment) :
    Succeeds registry (registry.register mechanism env).2.1 := by
  rcases registry.register_cases mechanism env with same | ⟨-, added⟩
  · rw [same]
    exact .refl registry
  · rw [added]
    refine ⟨Nat.le_succ _, fun entry member => ?_⟩
    rcases List.mem_append.mp member with old | new
    · exact .inl old
    · rw [List.mem_singleton.mp new]
      exact .inr (Nat.le_refl _)

theorem removes {D C : Type} {names : List String} {engine later : Engine D C}
    (removes : Engine.Removes names engine later) : Succeeds engine.registry later.registry := by
  rw [removes.registry]
  exact ⟨Nat.le_refl _, fun entry member => .inl (List.mem_filter.mp member).1⟩

/-- A serial number stands for one registration for good. -/
theorem eq_of_serial (succeeds : Succeeds before after) (orderly : before.Orderly)
    {entry later : Registration} (member : entry ∈ before.entries)
    (memberLater : later ∈ after.entries) (same : later.serial = entry.serial) : later = entry := by
  have old : later ∈ before.entries := by
    refine (succeeds.entries later memberLater).resolve_right fun new => ?_
    have issued := orderly.issued entry member
    omega
  have distinct : (before.entries.map Registration.serial).Nodup :=
    List.pairwise_map.mpr (orderly.ordered.imp Nat.ne_of_lt)
  exact List.inj_on_of_nodup_map distinct old member same

end Registry.Succeeds

namespace Engine

variable {D C : Type} [AccountDirectory D] [CredentialStore C] {engine : Engine D C}

theorem Bound.succeeds (bound : engine.Bound) (event : Event D) :
    engine.registry.Succeeds (engine.perform event).registry := by
  have same {after : Engine D C} (registry : after.registry = engine.registry) :
      engine.registry.Succeeds after.registry := by
    rw [registry]
    exact .refl _
  cases event with
  | frame server inbound => exact same (registry_handle bound.keyed server inbound)
  | introduced uid => exact same (engine.registry_userIntroduced uid)
  | registered mechanism =>
      change engine.registry.Succeeds (engine.register mechanism).2.registry
      rw [snd_register]
      exact .register _ _ _
  | unregistered name =>
      change engine.registry.Succeeds (engine.unregister name).2.registry
      rw [snd_unregister]
      exact .removes (bound.remove name)
  | configured options =>
      let holds (later : Engine D C) : Prop := later.Bound ∧ engine.registry.Succeeds later.registry
      have initially : holds engine := ⟨bound, .refl _⟩
      suffices kept : holds (engine.configureScram options).2 from kept.2
      refine configureScram_invariant ?_ ?_ ?_ initially
      · exact fun middle held => ⟨held.1.of_same rfl rfl, held.2⟩
      · intro middle digest _ held
        have removes := held.1.remove digest.scramName
        exact ⟨held.1.removes removes, held.2.trans (.removes removes)⟩
      · intro middle held
        refine ⟨held.1.ensureScram options, held.2.trans ?_⟩
        rcases middle.ensureScram_cases options with ⟨entry, -, kept⟩ | ⟨-, ⟨env, failed⟩ |
          ⟨server, env, -, -, -, added⟩⟩
        · rw [kept]
          exact .refl _
        · rw [failed]
          exact .refl _
        · rw [added]
          exact .register _ _ _
  | burst => exact same rfl
  | swept => exact same rfl
  | directory change => exact same rfl
  | drawn length => exact same rfl

theorem Reachable.succeeds (reachable : engine.Reachable) (events : List (Event D)) :
    engine.registry.Succeeds (engine.performAll events).registry := by
  induction events generalizing engine with
  | nil => exact .refl _
  | cons event rest ih =>
      exact (Bound.succeeds (.of_reachable reachable) event).trans (ih (reachable.perform event))

/-- Sessions of one run that use registrations with the same serial number use the same one. -/
theorem Reachable.eq_of_serial (reachable : engine.Reachable) (events : List (Event D))
    {id other : String} {session later : Session} {registration again : Registration}
    (found : engine.sessions.find? id = some session)
    (selected : session.mechanism = some registration)
    (foundLater : (engine.performAll events).sessions.find? other = some later)
    (selectedLater : later.mechanism = some again) (same : again.serial = registration.serial) :
    again = registration := by
  have attached := Attached.of_reachable reachable
  have attachedLater := Attached.of_reachable (reachable.performAll events)
  exact (reachable.succeeds events).eq_of_serial attached.orderly
    (attached.registered id session registration found selected)
    (attachedLater.registered other later again foundLater selectedLater) same

end Engine

/-! ## Made-up credentials -/

namespace Scram

namespace Server

variable (server : Server)

/-- Adds blocks to a salt until it is long enough, and cuts it to length. The number of a block is
one byte and starts over. -/
def fillSalt (server : Server) (name salt : Bytes) (block : UInt8) : Bytes :=
  if server.mockSaltLength ≤ salt.length then salt.take server.mockSaltLength
  else
    fillSalt server name
      (salt ++ server.digest.hmac server.mockKey (Bytes.ofString "salt" ++ block :: name))
      (block + 1)
termination_by server.mockSaltLength - salt.length
decreasing_by
  have width : 0 < server.digest.outputLength := by cases server.digest <;> decide
  rw [List.length_append, Digest.length_hmac]
  omega

/-- Whatever number of blocks a salt has already, it becomes the made-up one. The induction is on
the blocks that are missing. -/
theorem fillSalt_blocks (name : Bytes) (missing count : Nat)
    (all : missing + count =
      (server.mockSaltLength + server.digest.outputLength - 1) / server.digest.outputLength) :
    server.fillSalt name ((List.range count).flatMap (server.mockSaltBlock name))
      (UInt8.ofNat count) = server.mockSalt name := by
  have width : 0 < server.digest.outputLength := by cases server.digest <;> decide
  have length (count : Nat) : ((List.range count).flatMap (server.mockSaltBlock name)).length =
      count * server.digest.outputLength := by
    simp [List.length_flatMap, mockSaltBlock, List.map_const']
  induction missing generalizing count with
  | zero =>
      have enough : server.mockSaltLength ≤ count * server.digest.outputLength := by
        have below := Nat.lt_mul_div_succ
          (server.mockSaltLength + server.digest.outputLength - 1) width
        rw [← all, Nat.zero_add, Nat.mul_comm, Nat.succ_mul] at below
        omega
      rw [fillSalt, length, if_pos enough, mockSalt, ← all, Nat.zero_add]
  | succ missing ih =>
      have short : ¬server.mockSaltLength ≤ count * server.digest.outputLength := by
        have whole := Nat.div_mul_le_self
          (server.mockSaltLength + server.digest.outputLength - 1) server.digest.outputLength
        rw [← all, show missing + 1 + count = missing + count + 1 by omega, Nat.succ_mul,
          Nat.add_mul] at whole
        omega
      rw [fillSalt, length, if_neg short, ← ih (count + 1) (by omega), List.range_succ,
        List.flatMap_append, List.flatMap_singleton, UInt8.ofNat_add]
      rfl

/-- The blocks that are added one after the other come to the made-up salt. -/
theorem fillSalt_eq_mockSalt (name : Bytes) : server.fillSalt name [] 0 = server.mockSalt name :=
  server.fillSalt_blocks name _ 0 (Nat.add_zero _)

/-- Names that the default casemap takes for one have the same credential. -/
theorem mockCredential_congr {name other : String}
    (same : (default : Text.Casemap).fold name = (default : Text.Casemap).fold other) :
    server.mockCredential name = server.mockCredential other := by
  simp only [mockCredential, same]

end Server

namespace ClientFirst

/-- A text is a spelling of the name that a first message gives. -/
def SpelledAs (first : ClientFirst) (name : String) : Prop :=
  Text.prepareName name = some first.authcid

/-- The default casemap takes names for one that any directory takes for one. -/
theorem SpelledAs.fold_eq {first later : ClientFirst} {name other : String}
    (spells : first.SpelledAs name) (spellsLater : later.SpelledAs other)
    {directory : MemoryDirectory} (same : directory.key name = directory.key other) :
    (default : Text.Casemap).fold first.authcid = (default : Text.Casemap).fold later.authcid := by
  rw [MemoryDirectory.key, MemoryDirectory.key, spells, spellsLater, Option.map_some,
    Option.map_some, Option.some.injEq] at same
  exact Text.Casemap.fold_default_of_fold same

end ClientFirst

end Scram

/-! ## What clients are shown -/

namespace Engine

variable {D C : Type}

/-- A client of a mechanism says in its first message to be somebody whom there is not, and there
are random bytes for the answer. -/
structure Approaches [AccountDirectory D] (engine : Engine D C) (id : String)
    (registration : Registration) (frames : List String) (first : Scram.ClientFirst) : Prop where
  opening : ∃ session message, engine.sessions.find? id = some session ∧
    session.mechanism = some registration ∧ session.state = none ∧
    session.decoder.assemble? frames = some message ∧
    Scram.ClientFirst.parse message = .ok first
  unknown : AccountDirectory.findByName engine.accounts first.authcid = none
  drawn : (engine.env.entropy.fill Limits.nonceLengthRaw).1.isSome

/-- What is known about the session of such a client. -/
theorem Approaches.of_waiting [AccountDirectory D] {engine : Engine D C} {id : String}
    {registration : Registration} {frames : List String} {first : Scram.ClientFirst}
    (message : Bytes)
    (waiting : (engine.sessions.find? id).map (fun session =>
        (session.mechanism, session.state, session.decoder.assemble? frames)) =
      some (some registration, none, some message))
    (parsed : Scram.ClientFirst.parse message = .ok first)
    (unknown : AccountDirectory.findByName engine.accounts first.authcid = none)
    (drawn : (engine.env.entropy.fill Limits.nonceLengthRaw).1.isSome) :
    engine.Approaches id registration frames first := by
  obtain ⟨session, found, same⟩ := Option.map_eq_some_iff.mp waiting
  simp only [Prod.mk.injEq] at same
  obtain ⟨selected, opening, whole⟩ := same
  exact ⟨⟨session, message, found, selected, opening, whole, parsed⟩, unknown, drawn⟩

/-- A client has been shown a credential of no account, and its final message will be looked at with
this credential. -/
structure Shows (id : String) (credential : Credential) (salt : Bytes)
    (result : List Outbound × Engine D C) : Prop where
  salted : credential.salt64 = Base64.encodeText salt
  sent : ∃ nonce, result.1 = Scram.challengeFrames id nonce salt credential.iterations
  held : ∃ exchange : Scram.Exchange, result.2.state? id = some (.scram exchange) ∧
    exchange.credential = credential ∧ exchange.account = none

variable [AccountDirectory D] [CredentialStore C]

/-- Such a client is shown the credential that is made up for its name. -/
theorem Approaches.shows {engine : Engine D C} {id : String} {registration : Registration}
    {frames : List String} {first : Scram.ClientFirst}
    (approaches : engine.Approaches id registration frames first) (keyed : engine.Keyed)
    {server : Scram.Server} (scram : registration.mechanism = .scram server) (uplink : String) :
    Shows id (server.mockCredential first.authcid)
      (server.mockSalt (Bytes.ofString (Text.Casemap.fold default first.authcid)))
      (engine.handleAll uplink (frames.map (.clientData id))) := by
  obtain ⟨session, message, found, selected, opening, whole, parsed⟩ := approaches.opening
  obtain ⟨serverNonce, drawn⟩ := Option.isSome_iff_exists.mp approaches.drawn
  have serves : engine.Serves id server session := ⟨registration, scram, keyed, found, selected⟩
  have credited := server.credentialFor_of_unknown
    ((engine.context (fed session)).noteScram (.parsed first.authcid first.authzid))
    approaches.unknown
  obtain ⟨sent, -, after, later, -, state⟩ :=
    serves.opens uplink whole opening parsed credited rfl rfl drawn
  exact ⟨rfl, ⟨_, sent⟩, _, by rw [state?, later.found]; exact state, rfl, rfl⟩

/-- Clients of one SCRAM server that say, at any two moments of a run, to be somebody whom there is
not are shown the same credential, if a directory takes spellings of their names for one. The second
client may find the registration of the first one, or any other one of the server. The salt has the
length that the server was made with, also where it takes more blocks than a byte can count, and the
keys are as long as the digest. -/
theorem spellings_alike {engine : Engine D C} (reachable : engine.Reachable)
    (events : List (Event D)) {registration again : Registration} {server : Scram.Server}
    (scram : registration.mechanism = .scram server)
    (same : again.serial = registration.serial ∨ again.mechanism = .scram server)
    {id other : String} {frames framesLater : List String} {first later : Scram.ClientFirst}
    (approaches : engine.Approaches id registration frames first)
    (approachesLater : (engine.performAll events).Approaches other again framesLater later)
    {name nameLater : String} (spells : first.SpelledAs name)
    (spellsLater : later.SpelledAs nameLater) {directory : MemoryDirectory}
    (taken : directory.key name = directory.key nameLater) (uplink uplinkLater : String) :
    (∃ credential salt,
      Shows id credential salt (engine.handleAll uplink (frames.map (.clientData id))) ∧
      Shows other credential salt ((engine.performAll events).handleAll uplinkLater
        (framesLater.map (.clientData other))) ∧
      salt = server.fillSalt (Bytes.ofString (Text.Casemap.fold default first.authcid)) [] 0 ∧
      credential.iterations = server.mockIterations ∧
      credential.serverKey.length = server.digest.outputLength ∧
      credential.storedKey.length = server.digest.outputLength) ∧
    ∀ (server : Scram.Server) (folded : Bytes),
      (server.fillSalt folded [] 0).length = server.mockSaltLength := by
  obtain ⟨session, _, found, selected, -⟩ := approaches.opening
  obtain ⟨sessionLater, _, foundLater, selectedLater, -⟩ := approachesLater.opening
  have scramLater : again.mechanism = .scram server := by
    rcases same with same | scramLater
    · rw [reachable.eq_of_serial events found selected foundLater selectedLater same, scram]
    · exact scramLater
  have fold : (default : Text.Casemap).fold first.authcid =
      (default : Text.Casemap).fold later.authcid := spells.fold_eq spellsLater taken
  have shows := approaches.shows reachable.sound.keyed scram uplink
  have showsLater :=
    approachesLater.shows (reachable.performAll events).sound.keyed scramLater uplinkLater
  rw [← fold, ← server.mockCredential_congr fold] at showsLater
  refine ⟨⟨_, _, shows, showsLater, (server.fillSalt_eq_mockSalt _).symm, rfl, ?_, ?_⟩, ?_⟩
  · exact Digest.length_hmac _ _ _
  · exact Digest.length_hash _ _
  · intro server folded
    rw [server.fillSalt_eq_mockSalt]
    exact server.length_mockSalt folded

end Engine

/-! ## Two spellings -/

/-- A server whose made-up salts take more blocks than a byte can count. -/
def longServer : Scram.Server :=
  { digest := .sha1, mockKey := [1, 2, 3], mockIterations := 10000, mockSaltLength := 6000 }

/-- An engine that offers SCRAM with that server, which a client has asked for. -/
def longEngine : Engine MemoryDirectory PasswordHasher :=
  emptyEngine.performAll
    [.registered (.scram longServer), .frame "hub" (.startAuth "U1" "SCRAM-SHA-1" none)]

/-- Another client asks for the same mechanism later, when the server was unregistered and
registered again. -/
def longEvents : List (Engine.Event MemoryDirectory) :=
  [.registered .plain, .drawn 7, .swept, .unregistered "SCRAM-SHA-1",
    .registered (.scram longServer), .frame "hub" (.startAuth "U2" "SCRAM-SHA-1" none)]

/-- One client writes the name with a capital letter and a bracket. -/
def bracketFirst : Scram.ClientFirst where
  header := Bytes.ofString "n,,"
  authzid := none
  bare := Bytes.ofString "n=Nobody[,r=abcdefgh"
  authcid := "Nobody["
  nonce := Bytes.ofString "abcdefgh"

/-- The other one writes it with a small letter and a brace. -/
def braceFirst : Scram.ClientFirst where
  header := Bytes.ofString "n,,"
  authzid := none
  bare := Bytes.ofString "n=nobody\x7b,r=ijklmnop"
  authcid := "nobody\x7b"
  nonce := Bytes.ofString "ijklmnop"

set_option maxRecDepth 100000 in
/-- Both are shown one credential, whose salt has all its bytes. -/
theorem Engine.spellings_alike_bracket : ∃ credential salt,
    Engine.Shows "U1" credential salt
      (longEngine.handleAll "hub" [.clientData "U1" "biwsbj1Ob2JvZHlbLHI9YWJjZGVmZ2g="]) ∧
    Engine.Shows "U2" credential salt
      ((longEngine.performAll longEvents).handleAll "hub"
        [.clientData "U2" "biwsbj1ub2JvZHl7LHI9aWprbG1ub3A="]) ∧
    salt.length = 6000 := by
  have created : Engine.create {} {} ⟨{}⟩ (.arithmetic 0 []) = .ok emptyEngine := rfl
  have reachable : longEngine.Reachable := (Engine.Reachable.create created).performAll _
  have approaches : longEngine.Approaches "U1" ⟨0, .scram longServer⟩
      ["biwsbj1Ob2JvZHlbLHI9YWJjZGVmZ2g="] bracketFirst :=
    .of_waiting (Bytes.ofString "n,,n=Nobody[,r=abcdefgh") (by decide +kernel) (by decide +kernel)
      (by decide +kernel) (by decide +kernel)
  have approachesLater : (longEngine.performAll longEvents).Approaches "U2"
      ⟨2, .scram longServer⟩ ["biwsbj1ub2JvZHl7LHI9aWprbG1ub3A="] braceFirst :=
    .of_waiting (Bytes.ofString "n,,n=nobody\x7b,r=ijklmnop") (by decide +kernel)
      (by decide +kernel) (by decide +kernel) (by decide +kernel)
  have spells : Text.prepareName "Nobody[" = some bracketFirst.authcid := by decide +kernel
  have spellsLater : Text.prepareName "nobody\x7b" = some braceFirst.authcid := by decide +kernel
  let directory : MemoryDirectory := { casemap := .rfc1459Strict }
  have taken : directory.key "Nobody[" = directory.key "nobody\x7b" := by decide +kernel
  obtain ⟨⟨credential, salt, shows, showsLater, filled, -⟩, lengths⟩ :=
    Engine.spellings_alike reachable longEvents rfl (.inr rfl) approaches approachesLater spells
      spellsLater taken "hub" "hub"
  exact ⟨credential, salt, shows, showsLater, filled ▸ lengths longServer _⟩

end IrcSasl
