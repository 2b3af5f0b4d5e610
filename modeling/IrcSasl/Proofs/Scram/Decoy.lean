import IrcSasl.Proofs.Engine.Origin
import IrcSasl.Proofs.Scram.Challenge

set_option autoImplicit false

/-!
# Credentials that are made up

A client that names an account that there is not is challenged with a made-up credential, whose salt
length and iteration count are those that the server was made with. Configuring SCRAM makes a server
only where none of its name is registered, so these are the options of the call that has made the
server (`Engine.challenges_iff`), which need not be the last call.
-/

namespace IrcSasl

namespace Scram

/-- A client is challenged with the parameters of options. -/
def Challenges (id : String) (nonce : Bytes) (options : HashOptions)
    (frames : List Outbound) : Prop :=
  ∃ salt : Bytes, salt.length = options.saltLength ∧
    frames = challengeFrames id nonce salt options.iterations

/-- The parameters of a challenge can be told from its frames. -/
theorem challenges_challengeFrames {id : String} {nonce salt : Bytes} {iterations : UInt32}
    (options : HashOptions) :
    Challenges id nonce options (challengeFrames id nonce salt iterations) ↔
      options.iterations = iterations ∧ options.saltLength = salt.length := by
  constructor
  · rintro ⟨other, length, same⟩
    obtain ⟨rfl, rfl⟩ := challengeFrames_inj.mp same
    exact ⟨rfl, length.symm⟩
  · rintro ⟨rfl, length⟩
    exact ⟨salt, length.symm, rfl⟩

namespace Server

/-- A made-up salt has the length that the server was made with. -/
theorem length_mockSalt (server : Server) (name : Bytes) :
    (server.mockSalt name).length = server.mockSaltLength := by
  have width : 0 < server.digest.outputLength := by cases server.digest <;> decide
  have blocks (count : Nat) : ((List.range count).flatMap (server.mockSaltBlock name)).length =
      count * server.digest.outputLength := by
    simp [List.length_flatMap, mockSaltBlock, List.map_const']
  have enough : server.mockSaltLength ≤
      (server.mockSaltLength + server.digest.outputLength - 1) / server.digest.outputLength *
        server.digest.outputLength := by
    have lower := Nat.lt_mul_div_succ
      (server.mockSaltLength + server.digest.outputLength - 1) width
    rw [Nat.mul_add, Nat.mul_comm] at lower
    omega
  rw [mockSalt, List.length_take, blocks]
  exact Nat.min_eq_left enough

variable {D C : Type} [AccountDirectory D] [CredentialStore C]

/-- A client that says to be an account that there is not is given a made-up credential. -/
theorem credentialFor_of_unknown (server : Server) (ctx : Context D C) {first : ClientFirst}
    (unknown : AccountDirectory.findByName ctx.accounts first.authcid = none) :
    server.credentialFor ctx first =
      (.ok (server.mockCredential first.authcid, none),
        ctx.noteScram (.mockCredential first.authcid)) := by
  rw [credentialFor, unknown]

end Server

end Scram

/-! ## Whose parameters a challenge has -/

namespace Engine

variable {D C : Type} [AccountDirectory D] [CredentialStore C]

/-- After configuring SCRAM any number of times, a client that names an account that there is not
is challenged with the parameters of the call that has made the server of its session, and so with
those of any other call exactly if they are the same. -/
theorem challenges_iff {engine : Engine D C} (reachable : engine.Reachable)
    (fresh : ∀ server, ¬engine.registry.Holds (.scram server)) {events : List (Event D)}
    (unaided : ∀ event ∈ events, ∀ server : Scram.Server, event ≠ .registered (.scram server))
    (uplink : String) {id : String} {session : Session} {registration : Registration}
    {server : Scram.Server} (found : (engine.performAll events).sessions.find? id = some session)
    (selected : session.mechanism = some registration)
    (scram : registration.mechanism = .scram server) (opening : session.state = none)
    {frames : List String} {message : Bytes}
    (whole : session.decoder.assemble? frames = some message) {first : Scram.ClientFirst}
    (parsed : Scram.ClientFirst.parse message = .ok first)
    (unknown :
      AccountDirectory.findByName (engine.performAll events).accounts first.authcid = none)
    {serverNonce : Bytes}
    (drawn : ((engine.performAll events).env.entropy.fill Limits.nonceLengthRaw).1 =
      some serverNonce) :
    ∃ made early late, engine.Origin events server made early late ∧ ∀ asked : HashOptions,
      Scram.Challenges id (first.nonce ++ Base64.encode serverNonce) asked
          ((engine.performAll events).handleAll uplink (frames.map (.clientData id))).1 ↔
        asked.iterations = made.iterations ∧ asked.saltLength = made.saltLength := by
  have bound := Bound.of_reachable (reachable.performAll events)
  have held : (engine.performAll events).registry.Holds (.scram server) := by
    rw [← scram]
    exact (bound.tidy id session found).selected registration selected
  obtain ⟨made, early, late, origin⟩ := exists_origin reachable unaided (fresh server) held
  refine ⟨made, early, late, origin, ?_⟩
  intro asked
  have serves : (engine.performAll events).Serves id server session := by
    exact ⟨registration, scram, bound.keyed, found, selected⟩
  have credited := server.credentialFor_of_unknown
    (((engine.performAll events).context (fed session)).noteScram
      (.parsed first.authcid first.authzid)) unknown
  obtain ⟨sent, -⟩ := serves.opens uplink whole opening parsed credited rfl rfl drawn
  rw [sent, Scram.challenges_challengeFrames, server.length_mockSalt,
    ← origin.parameters.iterations, ← origin.parameters.saltLength]
  rfl

end Engine

/-! ## Two calls for one digest -/

/-- The options of the first call. -/
def staleOptions : HashOptions := { digest := .sha256, iterations := 10000, saltLength := 8 }

/-- The options of the last call. -/
def wantedOptions : HashOptions := { digest := .sha256, iterations := 20000, saltLength := 16 }

/-- An engine without accounts. -/
def emptyEngine : Engine MemoryDirectory PasswordHasher :=
  { options := {}, accounts := {}, credentials := ⟨{}⟩
    env := { entropy := .arithmetic 0 [] } }

/-- SCRAM is configured twice, and a client asks for it. -/
def staleEvents : List (Engine.Event MemoryDirectory) :=
  [.configured staleOptions, .configured wantedOptions,
   .frame "hub" (.startAuth "U1" "SCRAM-SHA-256" none)]

/-- The server that the first call makes. -/
def staleServer : Scram.Server where
  digest := .sha256
  mockKey := (List.range 32).map fun place => UInt8.ofNat (11 * place)
  mockIterations := 10000
  mockSaltLength := 8

/-- The client names somebody whom there is not. -/
def nobodyFirst : Scram.ClientFirst where
  header := Bytes.ofString "n,,"
  authzid := none
  bare := Bytes.ofString "n=nobody,r=abcdefgh"
  authcid := "nobody"
  nonce := Bytes.ofString "abcdefgh"

set_option maxRecDepth 100000 in
/-- The client is challenged with the options of the first call and not with those of the last,
which has succeeded. -/
theorem challenges_iff_stale :
    ((emptyEngine.performAll [.configured staleOptions]).configureScram wantedOptions).1 = .ok [] ∧
    ∃ nonce, let sent := ((emptyEngine.performAll staleEvents).handleAll "hub"
        [.clientData "U1" "biwsbj1ub2JvZHkscj1hYmNkZWZnaA=="]).1
      Scram.Challenges "U1" nonce staleOptions sent ∧
      ¬Scram.Challenges "U1" nonce wantedOptions sent := by
  have created : Engine.create {} {} ⟨{}⟩ (.arithmetic 0 []) = .ok emptyEngine := rfl
  have fresh : ∀ server, ¬emptyEngine.registry.Holds (.scram server) := by
    rintro server ⟨entry, member, -⟩
    cases member
  have unaided : ∀ event ∈ staleEvents, ∀ server : Scram.Server,
      event ≠ .registered (.scram server) := by
    simp [staleEvents]
  have waiting : ((emptyEngine.performAll staleEvents).sessions.find? "U1").map (fun session =>
      (session.mechanism, session.state,
        session.decoder.assemble? ["biwsbj1ub2JvZHkscj1hYmNkZWZnaA=="])) =
      some (some ⟨0, .scram staleServer⟩, none,
        some (Bytes.ofString "n,,n=nobody,r=abcdefgh")) := by
    decide +kernel
  have parsed : Scram.ClientFirst.parse (Bytes.ofString "n,,n=nobody,r=abcdefgh") =
      .ok nobodyFirst := by decide +kernel
  have unknown : AccountDirectory.findByName (emptyEngine.performAll staleEvents).accounts
      nobodyFirst.authcid = none := by decide +kernel
  have draws : ((emptyEngine.performAll staleEvents).env.entropy.fill
      Limits.nonceLengthRaw).1.isSome := by decide +kernel
  obtain ⟨session, found, same⟩ := Option.map_eq_some_iff.mp waiting
  simp only [Prod.mk.injEq] at same
  obtain ⟨selected, opening, whole⟩ := same
  obtain ⟨serverNonce, drawn⟩ := Option.isSome_iff_exists.mp draws
  obtain ⟨made, early, late, origin, challenged⟩ := Engine.challenges_iff (.create created) fresh
    unaided "hub" found selected rfl opening whole parsed unknown drawn
  have iterations : 10000 = made.iterations := origin.parameters.iterations
  have saltLength : 8 = made.saltLength := origin.parameters.saltLength
  refine ⟨by rfl, _, (challenged staleOptions).mpr ⟨iterations, saltLength⟩, ?_⟩
  intro wanted
  have same : 20000 = made.iterations := ((challenged wantedOptions).mp wanted).1
  rw [← iterations] at same
  exact absurd same (by decide)

end IrcSasl
