import IrcSasl.Proofs.Engine.Sessions

set_option autoImplicit false

/-!
# The registry of an engine

What the operations on the registry do, told once. Names are registered at most once
(`Registry.Distinct`), so that what is taken out of the registry is all that has the name, and the
list of all mechanisms is in step with them (`Registry.Listed`). To configure SCRAM is to remove the
mechanisms of other digests and to make sure of one: what these two keep is kept
(`Engine.configureScram_invariant`).
-/

namespace IrcSasl

theorem Digest.mem_all (digest : Digest) : digest ∈ all := by
  cases digest <;> simp [all]

/-- Every digest has a mechanism of its own. -/
theorem Digest.scramName_inj {digest other : Digest} :
    digest.scramName = other.scramName ↔ digest = other := by
  constructor
  · intro same
    cases digest <;> cases other <;> first | rfl | exact absurd same (by decide)
  · exact fun same => by rw [same]

/-! ## The list of all mechanisms -/

namespace Registry

/-- The list of all mechanisms shows those that are registered. -/
def Listed (registry : Registry) : Prop := registry.mechlist = joinNames registry.names

/-- The registry with only the registrations that pass a test. -/
def keep (registry : Registry) (test : Registration → Bool) : Registry :=
  rebuild { registry with entries := registry.entries.filter test }

@[simp] theorem entries_push (registry : Registry) (mechanism : Mechanism) :
    (registry.push mechanism).entries = registry.entries ++ [⟨registry.nextSerial, mechanism⟩] :=
  rfl

@[simp] theorem names_push (registry : Registry) (mechanism : Mechanism) :
    (registry.push mechanism).names = registry.names ++ [mechanism.name] :=
  List.map_append

@[simp] theorem entries_keep (registry : Registry) (test : Registration → Bool) :
    (registry.keep test).entries = registry.entries.filter test := rfl

@[simp] theorem nextSerial_keep (registry : Registry) (test : Registration → Bool) :
    (registry.keep test).nextSerial = registry.nextSerial := rfl

theorem listed_rebuild (registry : Registry) : registry.rebuild.Listed := rfl

/-- A list that is in step is made anew as it was. -/
theorem Listed.keep_eq_self {registry : Registry} (listed : registry.Listed)
    {test : Registration → Bool} (all : ∀ entry ∈ registry.entries, test entry = true) :
    registry.keep test = registry := by
  have same : registry.entries.filter test = registry.entries := List.filter_eq_self.mpr all
  have list : joinNames registry.names = registry.mechlist := listed.symm
  rw [keep, same, rebuild, list]

theorem keep_keep (registry : Registry) (first second : Registration → Bool) :
    (registry.keep first).keep second =
      registry.keep fun entry => first entry && second entry := by
  simp only [keep, rebuild, names, List.filter_filter, Bool.and_comm]

/-- It does not matter whether registrations go before or after another one comes that stays. -/
theorem keep_push (registry : Registry) {mechanism : Mechanism} {test : Registration → Bool}
    (stays : test ⟨registry.nextSerial, mechanism⟩ = true) :
    (registry.push mechanism).keep test = (registry.keep test).push mechanism := by
  simp only [keep, push, rebuild, names, List.filter_append, List.filter_cons_of_pos stays,
    List.filter_nil]

/-! ## Names -/

/-- No name is registered twice. -/
def Distinct (registry : Registry) : Prop := registry.names.Nodup

/-- Whether a mechanism is registered. -/
def Holds (registry : Registry) (mechanism : Mechanism) : Prop :=
  ∃ entry ∈ registry.entries, entry.mechanism = mechanism

theorem find?_eq_none_iff {registry : Registry} {name : String} :
    registry.find? name = none ↔ name ∉ registry.names := by
  simp only [find?, List.find?_eq_none, decide_eq_true_eq, names, List.mem_map, not_exists,
    not_and]

/-- What is left of registrations with distinct names when the one of a name is erased. -/
theorem eraseP_name {entries : List Registration} (name : String)
    (distinct : (entries.map Registration.name).Nodup) :
    (entries.eraseP fun entry => entry.name = name) =
      entries.filter fun entry => entry.name ≠ name := by
  induction entries with
  | nil => rfl
  | cons entry rest ih =>
      simp only [List.map_cons, List.nodup_cons] at distinct
      obtain ⟨fresh, distinct⟩ := distinct
      by_cases same : entry.name = name
      · have others : ∀ other ∈ rest, other.name ≠ name := by
          intro other member twice
          exact fresh (List.mem_map.mpr ⟨other, member, twice.trans same.symm⟩)
        rw [List.eraseP_cons_of_pos (by simpa using same),
          List.filter_cons_of_neg (by simpa using same),
          List.filter_eq_self.mpr (by simpa using others)]
      · rw [List.eraseP_cons_of_neg (by simpa using same),
          List.filter_cons_of_pos (by simpa using same), ih distinct]

/-- To unregister a name takes out all that has it. -/
theorem unregister_eq {registry : Registry} (distinct : registry.Distinct)
    (listed : registry.Listed) (name : String) (env : Environment) :
    (registry.unregister name env).2.1 = registry.keep fun entry => entry.name ≠ name := by
  unfold unregister
  split
  · next none =>
      have others : ∀ entry ∈ registry.entries, entry.name ≠ name := by
        intro entry member same
        exact find?_eq_none_iff.mp none (List.mem_map.mpr ⟨entry, member, same⟩)
      exact (listed.keep_eq_self (by simpa using others)).symm
  · rw [eraseP_name name distinct]
    rfl

theorem Distinct.keep {registry : Registry} (distinct : registry.Distinct)
    (test : Registration → Bool) : (registry.keep test).Distinct :=
  List.Nodup.sublist (List.filter_sublist.map Registration.name) distinct

/-- A mechanism that is registered has a new name and goes to the end, or nothing changes. -/
theorem register_cases (registry : Registry) (mechanism : Mechanism) (env : Environment) :
    (registry.register mechanism env).2.1 = registry ∨
      registry.find? mechanism.name = none ∧
        (registry.register mechanism env).2.1 = registry.push mechanism := by
  unfold register
  simp only
  split
  · exact .inl rfl
  · split
    · exact .inl rfl
    · next free =>
        exact .inr ⟨by simpa using free, rfl⟩

theorem Distinct.register {registry : Registry} (distinct : registry.Distinct)
    (mechanism : Mechanism) (env : Environment) :
    (registry.register mechanism env).2.1.Distinct := by
  rcases registry.register_cases mechanism env with same | ⟨free, added⟩
  · rw [same]
    exact distinct
  · rw [added]
    rw [Distinct, names_push, List.nodup_append]
    refine ⟨distinct, by simp, ?_⟩
    intro name member other own same
    rw [same, List.mem_singleton.mp own] at member
    exact find?_eq_none_iff.mp free member

theorem Listed.register {registry : Registry} (listed : registry.Listed) (mechanism : Mechanism)
    (env : Environment) : (registry.register mechanism env).2.1.Listed := by
  rcases registry.register_cases mechanism env with same | ⟨-, added⟩
  · rw [same]
    exact listed
  · rw [added]
    exact listed_rebuild _

theorem Holds.register {registry : Registry} {other : Mechanism} (holds : registry.Holds other)
    (mechanism : Mechanism) (env : Environment) :
    (registry.register mechanism env).2.1.Holds other := by
  rcases registry.register_cases mechanism env with same | ⟨-, added⟩
  · rw [same]
    exact holds
  · rw [added]
    obtain ⟨entry, member, own⟩ := holds
    exact ⟨entry, List.mem_append_left _ member, own⟩

end Registry

/-! ## Operations of the engine -/

namespace Engine

variable {D C : Type}

theorem snd_register (engine : Engine D C) (mechanism : Mechanism) :
    (engine.register mechanism).2 = (engine.add mechanism).2 := by
  unfold register
  split
  · next done => rw [done]
  · next done => rw [done]

theorem snd_unregister (engine : Engine D C) (name : String) :
    (engine.unregister name).2 = (engine.remove name).2 := by
  unfold unregister
  split
  · next done => rw [done]
  · next done => rw [done]

/-- To make sure of a SCRAM mechanism changes nothing if there is one of its name, and else draws
its secret and adds it, unless the random source fails. -/
theorem ensureScram_cases (engine : Engine D C) (options : HashOptions) :
    (∃ entry, engine.registry.find? options.digest.scramName = some entry ∧
        engine.ensureScram options = (.ok false, engine)) ∨
      engine.registry.find? options.digest.scramName = none ∧
        ((∃ env, engine.ensureScram options = (.error .random, { engine with env })) ∨
          ∃ server : Scram.Server, ∃ env, server.digest = options.digest ∧
            server.mockIterations = options.iterations ∧
            server.mockSaltLength = options.saltLength ∧
            engine.ensureScram options =
              (.ok true, ({ engine with env }.add (.scram server)).2)) := by
  unfold ensureScram
  split
  · next entry found => exact .inl ⟨entry, found, rfl⟩
  · next free =>
      refine .inr ⟨free, ?_⟩
      unfold createScram Scram.Server.create
      cases drawn : engine.env.entropy.fill options.digest.outputLength with
      | mk secret entropy =>
          cases secret with
          | none => exact .inl ⟨_, rfl⟩
          | some mockKey =>
              let server : Scram.Server :=
                { digest := options.digest, mockKey, mockIterations := options.iterations
                  mockSaltLength := options.saltLength }
              refine .inr ⟨server, { engine.env with entropy }, rfl, rfl, rfl, ?_⟩
              have short : ¬Limits.mechanismNameLength < options.digest.scramName.utf8ByteSize := by
                cases options.digest <;> decide
              have added : (({ engine with env := { engine.env with entropy } } : Engine D C).add
                  (.scram server)).1 = true := by
                simp only [add, Registry.register, Mechanism.name, server, free, if_neg short,
                  Option.isSome_none, Bool.false_eq_true, if_false]
              exact Prod.ext (congrArg Except.ok added) rfl

/-- Configuring SCRAM keeps what it keeps to warn of a high iteration count, to remove the mechanism
of another digest, and to make sure of the mechanism of the configured one. The induction is on the
digests that are left to go through. -/
theorem configureScram_invariant {options : HashOptions} {holds : Engine D C → Prop}
    (warns : ∀ engine, holds engine → holds (engine.note (.cyrusLimitExceeded options.iterations)))
    (removes : ∀ engine digest, digest ≠ options.digest → holds engine →
      holds (engine.remove digest.scramName).2)
    (ensures : ∀ engine, holds engine → holds (engine.ensureScram options).2)
    {engine : Engine D C} (initially : holds engine) :
    holds (engine.configureScram options).2 := by
  have digests (rest : List Digest) (changed : Bool) (engine : Engine D C)
      (held : holds engine) : holds (configureDigests options rest changed engine).2 := by
    induction rest generalizing changed engine with
    | nil => exact held
    | cons digest rest ih =>
        unfold configureDigests
        split
        · next other => exact ih _ _ (removes engine digest other held)
        · have ensured := ensures engine held
          split
          · next cause after done =>
              rw [done] at ensured
              exact ensured
          · next added after done =>
              rw [done] at ensured
              exact ih _ _ ensured
  unfold configureScram
  have noted : holds (if options.exceedsCyrusLimit then
      engine.note (.cyrusLimitExceeded options.iterations) else engine) := by
    split
    · exact warns engine initially
    · exact initially
  have configured := digests Digest.all false _ noted
  simp only
  split
  · next cause after done =>
      rw [done] at configured
      exact configured
  · next changed after done =>
      rw [done] at configured
      exact configured

end Engine

end IrcSasl
