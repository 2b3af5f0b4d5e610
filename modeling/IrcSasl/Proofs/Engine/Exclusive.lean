import IrcSasl.Proofs.Engine.Binding
import IrcSasl.Proofs.Engine.Faithful

set_option autoImplicit false

/-!
# One SCRAM mechanism at a time

To configure SCRAM for a digest takes away what is registered under the names of the other digests,
with the sessions that use it, and makes sure of the one that is left. The pass over the digests
falls into three parts: those before the configured one (`Engine.Removes`), the configured one
(`Engine.Ensures`), and those after it. What comes out is settled, and a settled engine is
configured without any change (`Engine.configureDigests_settled`).
-/

namespace IrcSasl

/-- The digests beside one. -/
def Digest.others (digest : Digest) : List Digest := all.filter (· ≠ digest)

@[simp] theorem Digest.mem_others {digest other : Digest} :
    other ∈ digest.others ↔ other ≠ digest := by
  rw [others, List.mem_filter, decide_eq_true_eq]
  exact and_iff_right other.mem_all

/-- The other digests are those before one and those after it. -/
theorem Digest.all_split (digest : Digest) :
    ∃ stronger, all = digest.weaker ++ digest :: stronger ∧
      digest.others = digest.weaker ++ stronger := by
  obtain ⟨stronger, order, absent⟩ := digest.all_eq_append
  refine ⟨stronger, order, ?_⟩
  have early : ∀ other ∈ digest.weaker, other ≠ digest := fun _ weaker => ne_of_mem_weaker weaker
  have late : ∀ other ∈ stronger, other ≠ digest := by
    rintro _ member rfl
    exact absent member
  rw [others, order, List.filter_append, List.filter_cons_of_neg (by simp),
    List.filter_eq_self.mpr (by simpa using early), List.filter_eq_self.mpr (by simpa using late)]

/-- The names of the mechanisms of the other digests. -/
def Digest.otherNames (digest : Digest) : List String := digest.others.map scramName

theorem Digest.mem_otherNames {digest : Digest} {name : String} :
    name ∈ digest.otherNames ↔ ∃ other, other ≠ digest ∧ other.scramName = name := by
  simp [otherNames]

/-- A mechanism that comes with the program is a SCRAM server if it has the name of one. -/
theorem Mechanism.Standard.scram {mechanism : Mechanism} (standard : mechanism.Standard)
    {digest : Digest} (named : mechanism.name = digest.scramName) :
    ∃ server, mechanism = .scram server ∧ server.digest = digest := by
  cases mechanism with
  | plain => cases digest <;> exact absurd named (by decide)
  | external => cases digest <;> exact absurd named (by decide)
  | scram server => exact ⟨server, rfl, Digest.scramName_inj.mp named⟩
  | scripted script => cases standard
  | inert name => cases standard

variable {D C : Type}

namespace Engine

/-! ## The pass over the digests -/

/-- A SCRAM mechanism was made sure of: it was registered before, or it has been added at the end.
Nothing else has changed but the log and the random source. -/
structure Ensures (options : HashOptions) (before after : Engine D C) : Prop where
  registry :
    (∃ entry, before.registry.find? options.digest.scramName = some entry ∧
      after.registry = before.registry) ∨
    before.registry.find? options.digest.scramName = none ∧
      ∃ server : Scram.Server, server.digest = options.digest ∧
        server.mockIterations = options.iterations ∧
        server.mockSaltLength = options.saltLength ∧
        after.registry = before.registry.push (.scram server)
  sessions : after.sessions = before.sessions
  accounts : after.accounts = before.accounts
  credentials : after.credentials = before.credentials
  options : after.options = before.options
  connected : after.connected = before.connected

theorem Ensures.of_ensureScram {engine after : Engine D C} {options : HashOptions} {added : Bool}
    (ensured : engine.ensureScram options = (.ok added, after)) :
    Ensures options engine after := by
  rcases engine.ensureScram_cases options with ⟨entry, found, kept⟩ | ⟨free, ⟨env, failed⟩ |
    ⟨server, env, digest, iterations, salt, grown⟩⟩
  · rw [kept] at ensured
    cases ensured
    exact ⟨.inl ⟨entry, found, rfl⟩, rfl, rfl, rfl, rfl, rfl⟩
  · rw [failed] at ensured
    cases ensured
  · rw [grown] at ensured
    cases ensured
    have named : (Mechanism.scram server).name = options.digest.scramName :=
      congrArg Digest.scramName digest
    have short : (Mechanism.scram server).name.utf8ByteSize ≤ Limits.mechanismNameLength := by
      rw [named]
      cases options.digest <;> decide
    have registered := Registry.register_of_free short (by rw [named]; exact free) env
    refine ⟨.inr ⟨free, server, digest, iterations, salt, ?_⟩, rfl, rfl, rfl, rfl, rfl⟩
    exact congrArg (fun result => result.2.1) registered

/-- Nothing changes where the configured mechanism is registered and none of the others is. -/
theorem configureDigests_settled {options : HashOptions} {engine : Engine D C}
    (settled : ∀ digest : Digest,
      digest.scramName ∈ engine.registry.names ↔ digest = options.digest)
    (digests : List Digest) (changed : Bool) :
    configureDigests options digests changed engine = (.ok changed, engine) := by
  induction digests with
  | nil => rfl
  | cons digest rest ih =>
      rw [configureDigests]
      split
      · next other =>
          have absent := Registry.find?_eq_none_iff.mpr (mt (settled digest).mp other)
          have kept : engine.remove digest.scramName = (false, engine) := by
            rw [remove, absent]
          simp only [kept, Bool.or_false]
          exact ih
      · have kept : engine.ensureScram options = (.ok false, engine) := by
          cases found : engine.registry.find? options.digest.scramName with
          | none =>
              have absent := Registry.find?_eq_none_iff.mp found
              exact absurd ((settled options.digest).mpr rfl) absent
          | some entry => rw [ensureScram, found]
        simp only [kept, Bool.or_false]
        exact ih

/-- To configure a settled engine is at most to warn of the iteration count. -/
theorem configureScram_settled {options : HashOptions} {engine : Engine D C}
    (settled : ∀ digest : Digest,
      digest.scramName ∈ engine.registry.names ↔ digest = options.digest) :
    engine.configureScram options = (.ok [], if options.exceedsCyrusLimit then
      engine.note (.cyrusLimitExceeded options.iterations) else engine) := by
  have noted : (if options.exceedsCyrusLimit then
      engine.note (.cyrusLimitExceeded options.iterations) else engine).registry =
        engine.registry := by
    split <;> rfl
  unfold configureScram
  simp only [configureDigests_settled (noted ▸ settled), Bool.false_eq_true, if_false]

/-! ## What is removed and what is added -/

theorem Removes.find?_eq {names : List String} {before after : Engine D C}
    (removes : Removes names before after) {name : String} (kept : name ∉ names) :
    after.registry.find? name = before.registry.find? name := by
  rw [removes.registry, Registry.find?, Registry.find?, Registry.entries_keep, List.find?_filter]
  congr 1
  funext entry
  by_cases own : entry.name = name
  · simp [own, kept]
  · simp [own]

namespace Ensures

variable {options : HashOptions} {names : List String} {before middle after : Engine D C}

theorem mem_names (ensures : Ensures options before after) {name : String} :
    name ∈ after.registry.names ↔
      name ∈ before.registry.names ∨ name = options.digest.scramName := by
  rcases ensures.registry with ⟨entry, found, same⟩ | ⟨-, server, digest, -, -, added⟩
  · have own : options.digest.scramName ∈ before.registry.names := by
      refine List.mem_map.mpr ⟨entry, List.mem_of_find?_eq_some found, ?_⟩
      simpa using List.find?_some found
    rw [same]
    exact (or_iff_left_of_imp fun same => same ▸ own).symm
  · have named : (Mechanism.scram server).name = options.digest.scramName :=
      congrArg Digest.scramName digest
    rw [added]
    simp [Registry.names, Registration.name, named]

/-- It does not matter whether mechanisms of other names are removed before or after. -/
theorem exchange (ensures : Ensures options before middle) (removes : Removes names middle after)
    (other : options.digest.scramName ∉ names) :
    ∃ early, Removes names before early ∧ Ensures options early after := by
  let early : Engine D C :=
    { after with
      registry := before.registry.keep fun entry => entry.name ∉ names }
  have removed : Removes names before early := by
    refine ⟨rfl, ?_, removes.accounts.trans ensures.accounts,
      removes.credentials.trans ensures.credentials, removes.options.trans ensures.options,
      removes.connected.trans ensures.connected, ?_⟩
    · intro id
      rw [← ensures.sessions]
      exact removes.sessions id
    · intro absent
      refine (removes.idle fun name member => ?_).trans ensures.sessions
      have absent := Registry.find?_eq_none_iff.mp (absent name member)
      rw [Registry.find?_eq_none_iff, ensures.mem_names, not_or]
      exact ⟨absent, fun same => other (same ▸ member)⟩
  refine ⟨early, removed, ?_, rfl, rfl, rfl, rfl, rfl⟩
  rw [removed.find?_eq other]
  rcases ensures.registry with ⟨entry, found, same⟩ |
    ⟨free, server, digest, iterations, salt, added⟩
  · refine .inl ⟨entry, found, ?_⟩
    rw [removes.registry, same]
  · have named : (Mechanism.scram server).name = options.digest.scramName :=
      congrArg Digest.scramName digest
    refine .inr ⟨free, server, digest, iterations, salt, ?_⟩
    rw [removes.registry, added]
    exact before.registry.keep_push (by simpa [Registration.name, named] using other)

/-- What is registered after mechanisms of other names were removed before. -/
theorem entries (ensures : Ensures options middle after) (removes : Removes names before middle)
    (other : options.digest.scramName ∉ names) :
    ∃ added, after.registry.entries =
        (before.registry.entries.filter fun entry => entry.name ∉ names) ++ added ∧
      if (before.registry.find? options.digest.scramName).isSome then added = []
      else ∃ server : Scram.Server, server.digest = options.digest ∧
        server.mockIterations = options.iterations ∧ server.mockSaltLength = options.saltLength ∧
        added = [⟨before.registry.nextSerial, .scram server⟩] := by
  rw [← removes.find?_eq other]
  rcases ensures.registry with ⟨entry, found, same⟩ |
    ⟨free, server, digest, iterations, salt, added⟩
  · refine ⟨[], ?_, ?_⟩
    · rw [same, removes.registry, List.append_nil, Registry.entries_keep]
    · rw [if_pos (Option.isSome_of_eq_some found)]
  · refine ⟨[⟨before.registry.nextSerial, .scram server⟩], ?_, ?_⟩
    · rw [added, removes.registry, Registry.entries_push, Registry.entries_keep,
        Registry.nextSerial_keep]
    · rw [if_neg (by simp [free])]
      exact ⟨server, digest, iterations, salt, rfl⟩

/-- Among mechanisms that come with the program, the one that was made sure of is a SCRAM server. -/
theorem find?_scram (ensures : Ensures options before after)
    (standard : ∀ entry ∈ before.registry.entries, entry.mechanism.Standard) :
    ∃ serial server,
      after.registry.find? options.digest.scramName = some ⟨serial, .scram server⟩ ∧
        server.digest = options.digest := by
  rcases ensures.registry with ⟨entry, found, same⟩ | ⟨free, server, digest, -, -, added⟩
  · have named : entry.name = options.digest.scramName := by simpa using List.find?_some found
    have member := List.mem_of_find?_eq_some found
    obtain ⟨server, own, digest⟩ := (standard entry member).scram named
    refine ⟨entry.serial, server, ?_, digest⟩
    rw [same, found, ← own]
  · refine ⟨before.registry.nextSerial, server, ?_, digest⟩
    have named : (Mechanism.scram server).name = options.digest.scramName :=
      congrArg Digest.scramName digest
    unfold Registry.find? at free ⊢
    rw [added, Registry.entries_push, List.find?_append, free, Option.none_or]
    exact List.find?_cons_of_pos (decide_eq_true named)

end Ensures

/-- A pass over all digests that does not fail removes the mechanisms of the others and makes sure
of that of the configured one. -/
theorem configureDigests_ok {engine after : Engine D C} {options : HashOptions}
    {before changed : Bool} (bound : engine.Bound)
    (done : configureDigests options Digest.all before engine = (.ok changed, after)) :
    ∃ middle, Removes options.digest.otherNames engine middle ∧ Ensures options middle after := by
  obtain ⟨stronger, order, others⟩ := options.digest.all_split
  have different (digest : Digest) (member : digest ∈ options.digest.weaker ++ stronger) :
      digest ≠ options.digest := by
    rw [← others] at member
    exact Digest.mem_others.mp member
  rw [order] at done
  obtain ⟨early, first, weakens, through⟩ := configureDigests_others
    (fun digest member => different digest (List.mem_append_left _ member))
    (options.digest :: stronger) before bound
  rw [through, configureDigests, if_neg (by simp)] at done
  split at done
  · cases done
  · next added middle ensured =>
      have kept : (early.ensureScram options).2.Bound := (bound.removes weakens).ensureScram options
      rw [ensured] at kept
      obtain ⟨last, second, strengthens, through⟩ := configureDigests_others
        (fun digest member => different digest (List.mem_append_right _ member)) []
        (first || added) kept
      rw [List.append_nil] at through
      rw [through, configureDigests] at done
      cases done
      have apart : options.digest.scramName ∉ stronger.map Digest.scramName := by
        intro member
        obtain ⟨digest, member, same⟩ := List.mem_map.mp member
        exact different digest (List.mem_append_right _ member) (Digest.scramName_inj.mp same)
      obtain ⟨middle, removes, ensures⟩ :=
        (Ensures.of_ensureScram ensured).exchange strengthens apart
      refine ⟨middle, ?_, ensures⟩
      rw [Digest.otherNames, others, List.map_append]
      exact weakens.trans removes

/-- To configure SCRAM is to remove the mechanisms of all other digests and to make sure of that of
the configured one. -/
theorem configureScram_ok {engine after : Engine D C} (bound : engine.Bound)
    {options : HashOptions} {frames : List Outbound}
    (configured : engine.configureScram options = (.ok frames, after)) :
    ∃ middle, Removes options.digest.otherNames engine middle ∧ Ensures options middle after := by
  unfold configureScram at configured
  simp only at configured
  split at configured
  · cases configured
  · next changed later done =>
      cases configured
      split at done
      · have noted : (engine.note (.cyrusLimitExceeded options.iterations)).Bound :=
          bound.of_same rfl rfl
        obtain ⟨middle, removes, ensures⟩ := configureDigests_ok noted done
        exact ⟨middle, removes.of_note, ensures⟩
      · exact configureDigests_ok bound done

variable [AccountDirectory D] [CredentialStore C]

/-- Where configuring SCRAM succeeds, the mechanism of the configured digest is registered and no
other one under a name of SCRAM. What has another name is still registered, in the same order, and a
mechanism that had to be made is the last. The sessions that used the mechanisms of the other
digests are destroyed, and all others are as they were. To configure the same once more changes
nothing and sends nothing. -/
theorem configureScram_exclusive {engine after : Engine D C} (reachable : engine.Reachable)
    {options : HashOptions} {frames : List Outbound}
    (configured : engine.configureScram options = (.ok frames, after)) :
    let own := options.digest.scramName
    let gone := options.digest.otherNames
    after.registry.names.filter (· ∈ Digest.all.map Digest.scramName) = [own] ∧
    (∃ added, after.registry.entries =
        (engine.registry.entries.filter fun entry => entry.name ∉ gone) ++ added ∧
      if (engine.registry.find? own).isSome then added = []
      else ∃ server : Scram.Server, server.digest = options.digest ∧
        server.mockIterations = options.iterations ∧ server.mockSaltLength = options.saltLength ∧
        added = [⟨engine.registry.nextSerial, .scram server⟩]) ∧
    ((∀ entry ∈ engine.registry.entries, entry.mechanism.Standard) →
      ∃ serial server, after.registry.find? own = some ⟨serial, .scram server⟩ ∧
        server.digest = options.digest) ∧
    (∀ id, after.sessions.find? id = (engine.sessions.find? id).filter fun session =>
      session.mechanismName.all (· ∉ gone)) ∧
    after.accounts = engine.accounts ∧ after.credentials = engine.credentials ∧
    after.options = engine.options ∧ after.connected = engine.connected ∧
    after.configureScram options = (.ok [], if options.exceedsCyrusLimit then
      after.note (.cyrusLimitExceeded options.iterations) else after) := by
  intro own gone
  have bound := Bound.of_reachable reachable
  obtain ⟨middle, removes, ensures⟩ := configureScram_ok bound configured
  have kept : after.Bound := by
    have kept := bound.configureScram options
    rw [configured] at kept
    exact kept
  have other : own ∉ gone := by
    intro member
    obtain ⟨digest, different, same⟩ := Digest.mem_otherNames.mp member
    exact different (Digest.scramName_inj.mp same)
  have settled (digest : Digest) :
      digest.scramName ∈ after.registry.names ↔ digest = options.digest := by
    rw [ensures.mem_names, Digest.scramName_inj, removes.names_eq, List.mem_filter]
    refine or_iff_right_of_imp fun member => Decidable.byContradiction fun different => ?_
    exact of_decide_eq_true member.2 (Digest.mem_otherNames.mpr ⟨digest, different, rfl⟩)
  refine ⟨?_, ensures.entries removes other, ?_, ?_, ensures.accounts.trans removes.accounts,
    ensures.credentials.trans removes.credentials, ensures.options.trans removes.options,
    ensures.connected.trans removes.connected, configureScram_settled settled⟩
  · have distinct := kept.distinct.sublist
      (List.filter_sublist (p := (· ∈ Digest.all.map Digest.scramName)))
    rw [← List.perm_singleton,
      List.perm_ext_iff_of_nodup distinct (List.nodup_cons.mpr ⟨List.not_mem_nil, List.nodup_nil⟩)]
    intro name
    rw [List.mem_filter, List.mem_singleton, decide_eq_true_eq, List.mem_map]
    constructor
    · rintro ⟨registered, digest, -, rfl⟩
      rw [(settled digest).mp registered]
    · rintro rfl
      exact ⟨(settled _).mpr rfl, _, Digest.mem_all _, rfl⟩
  · intro standard
    refine ensures.find?_scram fun entry member => ?_
    rw [removes.registry] at member
    exact standard entry (List.mem_filter.mp member).1
  · intro id
    rw [ensures.sessions]
    exact removes.sessions id

end Engine

/-! ## From SHA-1 to SHA-256 -/

/-- An engine without mechanisms. -/
def plainEngine : Engine MemoryDirectory PasswordHasher :=
  { options := {}, accounts := {}, credentials := ⟨{}⟩, env := { entropy := .arithmetic 0 [] } }

/-- The engine after SCRAM was configured for SHA-1 between PLAIN and EXTERNAL. The clients of `U1`
and `U2` have asked for PLAIN and for SCRAM, and that of `U3` has asked for nothing yet. -/
def switchingRun : Engine MemoryDirectory PasswordHasher :=
  plainEngine.performAll
    [.registered .plain, .configured { digest := .sha1 }, .registered .external, .burst,
     .frame "hub" (.startAuth "U1" "PLAIN" none),
     .frame "hub" (.startAuth "U2" "SCRAM-SHA-1" none),
     .frame "hub" (.hostInfo "U3" "client.example" "192.0.2.1" true)]

/-- Configured for SHA-256, the engine offers that after PLAIN and EXTERNAL, has given up the client
of `U2`, and stays as it is when it is configured again. -/
theorem configureScram_exclusive_switching :
    ∃ frames after, switchingRun.configureScram { digest := .sha256 } = (.ok frames, after) ∧
      switchingRun.registry.names = ["PLAIN", "SCRAM-SHA-1", "EXTERNAL"] ∧
      after.registry.names = ["PLAIN", "EXTERNAL", "SCRAM-SHA-256"] ∧
      (switchingRun.sessions.find? "U1").isSome ∧ (switchingRun.sessions.find? "U2").isSome ∧
      (switchingRun.sessions.find? "U3").isSome ∧
      after.sessions.find? "U1" = switchingRun.sessions.find? "U1" ∧
      after.sessions.find? "U2" = none ∧
      after.sessions.find? "U3" = switchingRun.sessions.find? "U3" ∧
      after.configureScram { digest := .sha256 } = (.ok [], after) := by
  have created : Engine.create {} {} ⟨{}⟩ (.arithmetic 0 []) = .ok plainEngine := rfl
  have reachable : switchingRun.Reachable := (Engine.Reachable.create created).performAll _
  have succeeded : (switchingRun.configureScram { digest := .sha256 }).1.isOk := by decide +kernel
  have offered : switchingRun.registry.names = ["PLAIN", "SCRAM-SHA-1", "EXTERNAL"] := by
    decide +kernel
  have first : (switchingRun.sessions.find? "U1").map Session.mechanismName =
      some (some "PLAIN") := by decide +kernel
  have second : (switchingRun.sessions.find? "U2").map Session.mechanismName =
      some (some "SCRAM-SHA-1") := by decide +kernel
  have third : (switchingRun.sessions.find? "U3").map Session.mechanismName = some none := by
    decide +kernel
  have listed : (switchingRun.configureScram { digest := .sha256 }).2.registry.names =
      ["PLAIN", "EXTERNAL", "SCRAM-SHA-256"] := by decide +kernel
  have gone : Digest.otherNames .sha256 = ["SCRAM-SHA-1", "SCRAM-SHA-512"] := by decide
  obtain ⟨plain, foundPlain, usesPlain⟩ := Option.map_eq_some_iff.mp first
  obtain ⟨scram, foundScram, usesScram⟩ := Option.map_eq_some_iff.mp second
  obtain ⟨idle, foundIdle, usesNone⟩ := Option.map_eq_some_iff.mp third
  cases configured : switchingRun.configureScram { digest := .sha256 } with
  | mk outcome after =>
      rw [configured] at succeeded listed
      cases outcome with
      | error cause => cases succeeded
      | ok frames =>
          obtain ⟨-, -, -, sessions, -, -, -, -, again⟩ :=
            Engine.configureScram_exclusive reachable configured
          refine ⟨frames, after, rfl, offered, listed, Option.isSome_of_eq_some foundPlain,
            Option.isSome_of_eq_some foundScram, Option.isSome_of_eq_some foundIdle, ?_, ?_, ?_,
            again⟩
          · rw [sessions, foundPlain]
            simp [usesPlain, gone]
          · rw [sessions, foundScram]
            simp [usesScram, gone]
          · rw [sessions, foundIdle]
            simp [usesNone]

end IrcSasl
