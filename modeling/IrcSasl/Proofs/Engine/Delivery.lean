import IrcSasl.Account.Memory
import IrcSasl.Proofs.Engine.Verdict

set_option autoImplicit false

/-!
# What clients are sent

The data that a mechanism has for its client goes out in frames, and these frames carry exactly that
data (`Engine.message_carried`): to a client that puts frames together as the engine does, with
enough room for the base64 text, they come to it again.
-/

namespace IrcSasl

/-- The data in a frame for a client. -/
def Outbound.chunk? : Outbound → Option String
  | .serverData _ chunk => some chunk
  | _ => none

/-- What a step has to say to the client. An answer that more is needed is sent also if it is
empty. -/
def Step.data? : Step → Option Bytes
  | .more data => some data
  | .success => none
  | .failure reply | .refused reply => if reply.isEmpty then none else some reply

theorem filterMap_chunk?_serverData (id : String) (chunks : List String) :
    (chunks.map (Outbound.serverData id)).filterMap Outbound.chunk? = chunks := by
  rw [List.filterMap_map]
  exact List.filterMap_some

theorem filterMap_chunk?_replyFrames (id : String) (reply : Bytes) :
    (Engine.replyFrames id reply).filterMap Outbound.chunk? =
      if reply.isEmpty then [] else Frame.ofMessage reply := by
  unfold Engine.replyFrames
  split
  · rfl
  · exact filterMap_chunk?_serverData id _

variable {D C : Type} [AccountDirectory D]

/-- The frames of data that a step comes to are those of what it has to say. -/
theorem Reply.filterMap_chunk?_ofStep (accounts : D) (entropy : Entropy) (session : Session)
    (mechanism : String) (step : Step) :
    (ofStep accounts entropy session mechanism step).frames.filterMap Outbound.chunk? =
      (step.data?.map Frame.ofMessage).getD [] := by
  have failed (reply : Bytes) :
      (Engine.replyFrames session.info.uid reply ++
          [Outbound.outcome session.info.uid .failure]).filterMap Outbound.chunk? =
      ((if reply.isEmpty then none else some reply).map Frame.ofMessage).getD [] := by
    rw [List.filterMap_append, filterMap_chunk?_replyFrames]
    split
    · rfl
    · exact List.append_nil _
  cases step with
  | more data => exact filterMap_chunk?_serverData session.info.uid _
  | success =>
      rw [frames_ofStep_success]
      split <;> rfl
  | failure reply => exact failed reply
  | refused reply => exact failed reply

namespace Engine

variable [CredentialStore C]

/-- What a mechanism has to say at a frame is all the data that goes out. -/
theorem filterMap_chunk?_handle {engine : Engine D C} (keyed : engine.Keyed) {server : String}
    {frame : Inbound} {step : Step} {after : Context D C}
    (verdict : engine.verdict? server frame = some (step, after)) :
    (engine.handle server frame).1.filterMap Outbound.chunk? =
      (step.data?.map Frame.ofMessage).getD [] := by
  obtain ⟨session, middle, query, asks⟩ := asks_of_verdict? keyed verdict
  rw [asks.gives.frames, List.filterMap_append, Reply.filterMap_chunk?_ofStep]
  cases after.mechlist <;> rfl

/-- A message is carried by its frames wherever there is room for its base64 text, which the engine
has up to a length and not beyond. So is what a mechanism says to its client. -/
theorem message_carried {engine : Engine D C} (reachable : engine.Reachable) (message : Bytes) :
    (∀ width, 2 ∣ width → 0 < width → ∀ limit, (Base64.encode message).length ≤ limit →
      Frame.Carries width limit (Frame.Encoder.ofMessage message width).toList message) ∧
    (Frame.Carries Limits.frameLength Limits.bufferLength (Frame.ofMessage message) message ↔
      message.length ≤ Limits.bufferLengthRaw) ∧
    (Limits.bufferLengthRaw < message.length →
      .error .overflow ∈ (Frame.Decoder.fresh.feed (Frame.ofMessage message)).1) ∧
    ∀ server frame step after, engine.verdict? server frame = some (step, after) →
      step.data? = some message → ∀ limit, (Base64.encode message).length ≤ limit →
        Frame.Carries Limits.frameLength limit
          ((engine.handle server frame).1.filterMap Outbound.chunk?) message := by
  have even : 2 ∣ Limits.frameLength := by decide
  have positive : 0 < Limits.frameLength := by decide
  refine ⟨?_, ?_, ?_, ?_⟩
  · exact fun width even positive limit fits => Frame.carries_of_fits even positive fits
  · rw [← Frame.length_encode_le_iff]
    exact Frame.carries_iff even positive
  · intro long
    refine Frame.overflow_of_long even positive (Nat.not_le.mp ?_)
    rw [Frame.length_encode_le_iff]
    exact Nat.not_le.mpr long
  · intro server frame step after verdict said limit fits
    rw [filterMap_chunk?_handle reachable.sound.keyed verdict, said]
    exact Frame.carries_of_fits even positive fits

end Engine

/-! ## An answer that fills a frame -/

/-- A mechanism that answers with so much data that its text fills a whole frame. -/
def verboseScript : Script where
  name := "VERBOSE"
  passwordBased := false
  start := [.reply (List.replicate 300 0)]
  steps := []
  inner := { digest := .sha1, mockKey := [], mockIterations := 1, mockSaltLength := 8 }

/-- An engine that offers this mechanism. -/
def verboseEngine : Engine MemoryDirectory PasswordHasher :=
  ({ options := {}, accounts := {}, credentials := ⟨{}⟩, env := { entropy := .arithmetic 0 [] } } :
    Engine MemoryDirectory PasswordHasher).performAll [.registered (.scripted verboseScript)]

set_option maxRecDepth 100000 in
/-- The answer takes a frame that is full and one that closes the message. -/
theorem message_carried_verbose :
    let answer := (verboseEngine.handle "hub" (.startAuth "U1" "VERBOSE" none)).1
    answer.length = 2 ∧
      Frame.Carries Limits.frameLength Limits.bufferLength (answer.filterMap Outbound.chunk?)
        (List.replicate 300 0) := by
  intro answer
  have created : Engine.create {} {} ⟨{}⟩ (.arithmetic 0 []) = .ok
      ({ options := {}, accounts := {}, credentials := ⟨{}⟩
         env := { entropy := .arithmetic 0 [] } } : Engine MemoryDirectory PasswordHasher) := rfl
  have reachable : verboseEngine.Reachable := (Engine.Reachable.create created).performAll _
  obtain ⟨-, -, -, answers⟩ := Engine.message_carried reachable (List.replicate 300 0)
  have said : (verboseEngine.verdict? "hub" (.startAuth "U1" "VERBOSE" none)).map
      (·.1.data?) = some (some (List.replicate 300 0)) := by decide +kernel
  have fits : (Base64.encode (List.replicate 300 0)).length ≤ Limits.bufferLength := by
    decide +kernel
  obtain ⟨⟨step, after⟩, verdict, data⟩ := Option.map_eq_some_iff.mp said
  refine ⟨by decide +kernel, ?_⟩
  exact answers "hub" _ step after verdict data Limits.bufferLength fits

end IrcSasl
