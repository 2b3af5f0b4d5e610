import IrcSasl.Proofs.Engine.Configuration
import Mathlib.Data.List.Induction

set_option autoImplicit false

/-!
# Where SCRAM servers come from

Unless somebody registers one by hand, a SCRAM server that is registered was made by a call that has
configured SCRAM, with the options of that call, and has been registered ever since
(`Engine.exists_origin`). Later calls for the same digest leave it as it is.
-/

namespace IrcSasl

/-- A server has the parameters that options ask for. -/
structure Scram.Server.MadeFor (server : Scram.Server) (options : HashOptions) : Prop where
  digest : server.digest = options.digest
  iterations : server.mockIterations = options.iterations
  saltLength : server.mockSaltLength = options.saltLength

namespace Registry

variable {registry : Registry} {name : String} {env : Environment}

theorem Holds.of_unregister {mechanism : Mechanism}
    (holds : (registry.unregister name env).2.1.Holds mechanism) : registry.Holds mechanism := by
  unfold unregister at holds
  split at holds
  · exact holds
  · obtain ⟨entry, member, own⟩ := holds
    exact ⟨entry, List.mem_of_mem_eraseP member, own⟩

/-- Another name stays registered. -/
theorem mem_names_unregister {other : String} (different : other ≠ name)
    (registered : other ∈ registry.names) : other ∈ (registry.unregister name env).2.1.names := by
  unfold unregister
  split
  · exact registered
  · obtain ⟨entry, member, rfl⟩ := List.mem_map.mp registered
    exact List.mem_map.mpr
      ⟨entry, (List.mem_eraseP_of_neg (by simpa using different)).mpr member, rfl⟩

theorem Holds.of_register {mechanism other : Mechanism}
    (holds : (registry.register mechanism env).2.1.Holds other) :
    registry.Holds other ∨ other = mechanism := by
  rcases registry.register_cases mechanism env with same | ⟨-, added⟩
  · rw [same] at holds
    exact .inl holds
  · rw [added] at holds
    obtain ⟨entry, member, own⟩ := holds
    rcases List.mem_append.mp member with old | new
    · exact .inl ⟨entry, old, own⟩
    · rw [List.mem_singleton.mp new] at own
      exact .inr own.symm

end Registry

namespace Engine

variable {D C : Type}

theorem registry_remove (engine : Engine D C) (name : String) :
    ∃ env, (engine.remove name).2.registry = (engine.registry.unregister name env).2.1 := by
  unfold remove
  split
  · next absent =>
      refine ⟨engine.env, ?_⟩
      unfold Registry.unregister
      rw [absent]
  · exact ⟨_, rfl⟩

/-- Configuring SCRAM brings in nothing but a server with the options of the call, and that only
where none of its name was registered. -/
theorem holds_configureScram {engine : Engine D C} {options : HashOptions} {mechanism : Mechanism}
    (holds : (engine.configureScram options).2.registry.Holds mechanism) :
    engine.registry.Holds mechanism ∨ ∃ server : Scram.Server, mechanism = .scram server ∧
      server.MadeFor options ∧ engine.registry.find? options.digest.scramName = none := by
  let New (mechanism : Mechanism) : Prop := ∃ server : Scram.Server, mechanism = .scram server ∧
    server.MadeFor options ∧ engine.registry.find? options.digest.scramName = none
  -- While others are removed, the configured name is as free as it was.
  let Follows (middle : Engine D C) : Prop :=
    (∀ mechanism, middle.registry.Holds mechanism →
        engine.registry.Holds mechanism ∨ New mechanism) ∧
      (middle.registry.find? options.digest.scramName = none →
        engine.registry.find? options.digest.scramName = none)
  have follows : Follows (engine.configureScram options).2 := by
    refine configureScram_invariant ?_ ?_ ?_ ⟨fun _ => .inl, id⟩
    · exact fun middle early => early
    · rintro middle digest other ⟨known, free⟩
      obtain ⟨env, removed⟩ := middle.registry_remove digest.scramName
      refine ⟨?_, ?_⟩
      · intro mechanism later
        rw [removed] at later
        exact known mechanism later.of_unregister
      · intro absent
        refine free ?_
        rw [removed, Registry.find?_eq_none_iff] at absent
        rw [Registry.find?_eq_none_iff]
        exact mt (Registry.mem_names_unregister
          (mt Digest.scramName_inj.mp (Ne.symm other))) absent
    · rintro middle ⟨known, free⟩
      rcases middle.ensureScram_cases options with ⟨entry, -, kept⟩ | ⟨absent, ⟨env, failed⟩ |
        ⟨server, env, digest, iterations, saltLength, added⟩⟩
      · rw [kept]
        exact ⟨known, free⟩
      · rw [failed]
        exact ⟨known, free⟩
      · rw [added]
        refine ⟨?_, ?_⟩
        · intro mechanism later
          rcases Registry.Holds.of_register later with old | new
          · exact known mechanism old
          · exact .inr ⟨server, new, ⟨digest, iterations, saltLength⟩, free absent⟩
        · exact fun _ => free absent
  exact follows.1 mechanism holds

variable [AccountDirectory D] [CredentialStore C]

/-- Nothing is registered but by an event that registers it or configures SCRAM. -/
theorem holds_perform {engine : Engine D C} (keyed : engine.Keyed) {event : Event D}
    {mechanism : Mechanism} (holds : (engine.perform event).registry.Holds mechanism) :
    engine.registry.Holds mechanism ∨ event = .registered mechanism ∨
      ∃ options, ∃ server : Scram.Server, event = .configured options ∧
        mechanism = .scram server ∧ server.MadeFor options ∧
        engine.registry.find? options.digest.scramName = none := by
  cases event with
  | frame uplink inbound =>
      refine .inl ?_
      change (engine.handle uplink inbound).2.registry.Holds mechanism at holds
      rw [registry_handle keyed] at holds
      exact holds
  | introduced uid =>
      change (engine.userIntroduced uid).2.registry.Holds mechanism at holds
      rw [registry_userIntroduced] at holds
      exact .inl holds
  | registered other =>
      change (engine.register other).2.registry.Holds mechanism at holds
      rw [snd_register] at holds
      rcases Registry.Holds.of_register holds with old | rfl
      · exact .inl old
      · exact .inr (.inl rfl)
  | unregistered name =>
      change (engine.unregister name).2.registry.Holds mechanism at holds
      obtain ⟨env, removed⟩ := engine.registry_remove name
      rw [snd_unregister, removed] at holds
      exact .inl holds.of_unregister
  | configured options =>
      rcases holds_configureScram holds with old | ⟨server, new, made, free⟩
      · exact .inl old
      · exact .inr (.inr ⟨options, server, rfl, new, made, free⟩)
  | burst => exact .inl holds
  | swept => exact .inl holds
  | directory change => exact .inl holds
  | drawn length => exact .inl holds

/-- A call of a run has made a server: it has found none of its name, and the server has been
registered ever since. -/
structure Origin (engine : Engine D C) (events : List (Event D)) (server : Scram.Server)
    (made : HashOptions) (early late : List (Event D)) : Prop where
  split : events = early ++ .configured made :: late
  absent : (engine.performAll early).registry.find? made.digest.scramName = none
  parameters : server.MadeFor made
  kept : ∀ part, part <+: late →
    (engine.performAll (early ++ .configured made :: part)).registry.Holds (.scram server)

/-- Every server that nobody has registered by hand has an origin. The induction is on the last
event of the run. -/
theorem exists_origin {engine : Engine D C} (reachable : engine.Reachable)
    {events : List (Event D)} (unaided : ∀ event ∈ events, ∀ server : Scram.Server,
      event ≠ .registered (.scram server)) {server : Scram.Server}
    (initially : ¬engine.registry.Holds (.scram server))
    (holds : (engine.performAll events).registry.Holds (.scram server)) :
    ∃ made early late, engine.Origin events server made early late := by
  induction events using List.reverseRecOn with
  | nil => exact absurd holds initially
  | append_singleton events event ih =>
      have last : engine.performAll (events ++ [event]) =
          (engine.performAll events).perform event := by
        rw [performAll, List.foldl_append]
        rfl
      have before : (engine.performAll events).registry.Holds (.scram server) →
          ∃ made early late, engine.Origin (events ++ [event]) server made early late := by
        intro already
        obtain ⟨made, early, late, origin⟩ := ih (fun earlier member =>
          unaided earlier (List.mem_append_left _ member)) already
        refine ⟨made, early, late ++ [event], ?_, origin.absent, origin.parameters, ?_⟩
        · rw [origin.split, List.append_assoc, List.cons_append]
        · intro part shorter
          rcases List.prefix_concat_iff.mp shorter with rfl | inside
          · rw [← List.cons_append, ← List.append_assoc, ← origin.split]
            exact holds
          · exact origin.kept part inside
      rw [last] at holds
      have keyed := (reachable.performAll events).sound.keyed
      rcases holds_perform keyed holds with already | rfl |
        ⟨made, own, rfl, same, parameters, absent⟩
      · exact before already
      · exact absurd rfl (unaided _ (List.mem_append_right _ List.mem_cons_self) server)
      · cases same
        refine ⟨made, events, [], rfl, absent, parameters, ?_⟩
        intro part nothing
        rw [List.prefix_nil.mp nothing, last]
        exact holds

end Engine

end IrcSasl
