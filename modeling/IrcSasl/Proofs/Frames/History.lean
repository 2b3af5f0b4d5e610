import IrcSasl.Proofs.Frames
import Mathlib.Data.List.DropRight

set_option autoImplicit false

/-!
# What a decoder remembers

A decoder is compared with the list of what was asked of it and how it answered: what it holds are
the frames since the last call that did not ask for more, and how it answers the next call follows
from these alone (`Decoder.answers_by_history`). A message that fails or is given up is therefore
forgotten, whatever comes behind it.
-/

namespace IrcSasl.Frame.Decoder

/-! ## Calls -/

/-- What is asked of a decoder. -/
inductive Call where
  /-- To take a frame. -/
  | add (frame : Bytes)
  /-- To end the message with what is buffered. -/
  | decode
  /-- To drop what is buffered. -/
  | clear
  deriving DecidableEq, Repr

/-- How a decoder answers. -/
inductive Reply where
  /-- What a frame did. -/
  | added (result : Except FrameError Decoded)
  /-- What the buffer stands for. -/
  | decoded (result : Except FrameError Bytes)
  /-- Nothing is said. -/
  | cleared

/-- The bytes that a call brings. -/
def Call.frame : Call → Bytes
  | .add frame => frame
  | .decode => []
  | .clear => []

/-- Whether an answer asks for more frames. -/
def Reply.asksMore : Reply → Bool
  | .added (.ok .incomplete) => true
  | _ => false

/-- The answer to a call, and the decoder after it. -/
def perform (decoder : Decoder) : Call → Reply × Decoder
  | .add frame => (.added (decoder.add frame).1, (decoder.add frame).2)
  | .decode => (.decoded decoder.decode.1, decoder.decode.2)
  | .clear => (.cleared, decoder.clear)

/-- The decoder after calls. -/
def after (decoder : Decoder) (calls : List Call) : Decoder :=
  calls.foldl (fun decoder call => (decoder.perform call).2) decoder

/-- Calls with their answers, in order. -/
def record : Decoder → List Call → List (Call × Reply)
  | _, [] => []
  | decoder, call :: rest =>
      (call, (decoder.perform call).1) :: (decoder.perform call).2.record rest

theorem after_append (decoder : Decoder) (first second : List Call) :
    decoder.after (first ++ second) = (decoder.after first).after second :=
  List.foldl_append

theorem record_append (decoder : Decoder) (first second : List Call) :
    decoder.record (first ++ second) =
      decoder.record first ++ (decoder.after first).record second := by
  induction first generalizing decoder with
  | nil => rfl
  | cons call rest ih =>
      rw [List.cons_append, record, ih, record, List.cons_append]
      rfl

/-! ## Answers to one call -/

/-- What a text stands for as a message. -/
def reading (text : Bytes) : Except FrameError Bytes := (Base64.decode text).mapError .decode

/-- A frame that is neither of the two markers. -/
structure Unmarked (frame : Bytes) : Prop where
  abort : frame ≠ Bytes.ofString "*"
  ending : frame ≠ Bytes.ofString "+"

/-- How calls are answered while text is pending, by a decoder of frames of a width and of texts up
to a limit. -/
inductive Answered (width limit : Nat) (pending : Bytes) : Call → Reply → Prop where
  | abort : Answered width limit pending (.add (Bytes.ofString "*")) (.added (.ok .abort))
  | ending : Answered width limit pending (.add (Bytes.ofString "+"))
      (.added ((reading pending).map .complete))
  | oversized {frame : Bytes} (unmarked : Unmarked frame) (wide : width < frame.length) :
      Answered width limit pending (.add frame) (.added (.error (.oversized frame.length)))
  | overflow {frame : Bytes} (unmarked : Unmarked frame) (narrow : frame.length ≤ width)
      (long : limit < pending.length + frame.length) :
      Answered width limit pending (.add frame) (.added (.error .overflow))
  | full {frame : Bytes} (unmarked : Unmarked frame) (whole : frame.length = width)
      (fits : pending.length + frame.length ≤ limit) :
      Answered width limit pending (.add frame) (.added (.ok .incomplete))
  | last {frame : Bytes} (unmarked : Unmarked frame) (short : frame.length < width)
      (fits : pending.length + frame.length ≤ limit) :
      Answered width limit pending (.add frame)
        (.added ((reading (pending ++ frame)).map .complete))
  | decode : Answered width limit pending .decode (.decoded (reading pending))
  | clear : Answered width limit pending .clear .cleared

/-- How a frame that is no marker is answered, test by test. -/
theorem answer_of_unmarked (decoder : Decoder) {frame : Bytes} (unmarked : Unmarked frame) :
    (decoder.perform (.add frame)).1 = .added (
      if decoder.width < frame.length then .error (.oversized frame.length)
      else if decoder.limit < decoder.buffer.length + frame.length then .error .overflow
      else if frame.length < decoder.width then (reading (decoder.buffer ++ frame)).map .complete
      else .ok .incomplete) := by
  simp only [perform, add, Limits.abortMarker, Limits.emptyMarker, unmarked.abort,
    unmarked.ending, if_false, gt_iff_lt]
  split_ifs <;> rfl

/-- Calls are answered by what is buffered. -/
theorem answered_perform (decoder : Decoder) (call : Call) :
    Answered decoder.width decoder.limit decoder.buffer call (decoder.perform call).1 := by
  cases call with
  | add frame =>
      by_cases abort : frame = Bytes.ofString "*"
      · rw [abort]
        exact .abort
      · by_cases ending : frame = Bytes.ofString "+"
        · rw [ending]
          exact .ending
        · have unmarked : Unmarked frame := ⟨abort, ending⟩
          rw [answer_of_unmarked decoder unmarked]
          split
          · next wide => exact .oversized unmarked wide
          · next narrow =>
              split
              · next long => exact .overflow unmarked (Nat.not_lt.mp narrow) long
              · next fits =>
                  split
                  · next short => exact .last unmarked short (Nat.not_lt.mp fits)
                  · next whole => exact .full unmarked (by omega) (Nat.not_lt.mp fits)
  | decode => exact .decode
  | clear => exact .clear

/-- What is buffered leaves one answer to a call, which is the one that is given. -/
theorem perform_eq_iff {decoder : Decoder} {call : Call} {reply : Reply} :
    (decoder.perform call).1 = reply ↔
      Answered decoder.width decoder.limit decoder.buffer call reply := by
  constructor
  · rintro rfl
    exact answered_perform decoder call
  · intro answered
    cases answered with
    | abort | ending | decode | clear => rfl
    | oversized unmarked wide => rw [answer_of_unmarked decoder unmarked, if_pos wide]
    | overflow unmarked narrow long =>
        rw [answer_of_unmarked decoder unmarked, if_neg (Nat.not_lt.mpr narrow), if_pos long]
    | full unmarked whole fits =>
        rw [answer_of_unmarked decoder unmarked, if_neg (Nat.not_lt.mpr whole.le),
          if_neg (Nat.not_lt.mpr fits), if_neg (Nat.not_lt.mpr whole.ge)]
    | last unmarked short fits =>
        rw [answer_of_unmarked decoder unmarked, if_neg (Nat.not_lt.mpr short.le),
          if_neg (Nat.not_lt.mpr fits), if_pos short]

/-! ## What a call leaves -/

theorem Reply.asksMore_iff {reply : Reply} :
    reply.asksMore = true ↔ reply = .added (.ok .incomplete) := by
  constructor
  · intro more
    unfold asksMore at more
    split at more
    · rfl
    · cases more
  · rintro rfl
    rfl

/-- A call that asks for more adds its frame to what is buffered, within the limit, and any other
call leaves nothing. -/
theorem perform_leaves (decoder : Decoder) (call : Call) :
    (decoder.perform call).2 = { decoder with
      buffer := if (decoder.perform call).1.asksMore then decoder.buffer ++ call.frame else [] } ∧
    ((decoder.perform call).1.asksMore = true →
      (decoder.buffer ++ call.frame).length ≤ decoder.limit) := by
  cases call with
  | add frame =>
      rcases decoder.add_cases frame with ⟨asks, -, fits, kept⟩ | ⟨ended, cleared⟩
      · have more : (decoder.perform (.add frame)).1.asksMore = true :=
          Reply.asksMore_iff.mpr (congrArg Reply.added asks)
        rw [if_pos more]
        exact ⟨kept, fun _ => fits⟩
      · have last : ¬ (decoder.perform (.add frame)).1.asksMore = true := by
          intro more
          exact ended (Reply.added.inj (Reply.asksMore_iff.mp more))
        rw [if_neg last]
        exact ⟨cleared, fun more => absurd more last⟩
  | decode | clear =>
      refine ⟨rfl, ?_⟩
      intro more
      cases more

/-! ## Histories -/

/-- The text that is pending behind calls and their answers: the frames since the last call that
did not ask for more. -/
def pending (history : List (Call × Reply)) : Bytes :=
  (history.rtakeWhile fun entry => entry.2.asksMore).flatMap fun entry => entry.1.frame

theorem pending_concat (history : List (Call × Reply)) (call : Call) (reply : Reply) :
    pending (history ++ [(call, reply)]) =
      if reply.asksMore then pending history ++ call.frame else [] := by
  rw [pending, List.rtakeWhile_concat]
  split
  · rw [List.flatMap_append, List.flatMap_singleton]
    rfl
  · rfl

/-- A decoder holds what is pending, within its limit. -/
structure Remembers (width limit : Nat) (history : List (Call × Reply)) (decoder : Decoder) :
    Prop where
  held : decoder = { width, limit, buffer := pending history }
  bounded : (pending history).length ≤ limit

namespace Remembers

variable {width limit : Nat} {history : List (Call × Reply)} {decoder : Decoder}

theorem fresh : Remembers width limit [] { width, limit } := ⟨rfl, Nat.zero_le _⟩

theorem answered_iff (remembers : Remembers width limit history decoder) {call : Call}
    {reply : Reply} :
    (decoder.perform call).1 = reply ↔ Answered width limit (pending history) call reply := by
  rw [remembers.held]
  exact perform_eq_iff

/-- What one call keeps. -/
theorem perform (remembers : Remembers width limit history decoder) (call : Call) :
    Remembers width limit (history ++ [(call, (decoder.perform call).1)])
      (decoder.perform call).2 := by
  obtain ⟨leaves, fits⟩ := perform_leaves decoder call
  constructor
  · rw [leaves, pending_concat, remembers.held]
  · rw [pending_concat]
    split
    · next more =>
        have fits := fits more
        rwa [remembers.held] at fits
    · exact Nat.zero_le _

/-- What a run of calls keeps. -/
theorem run (remembers : Remembers width limit history decoder) (calls : List Call) :
    Remembers width limit (history ++ decoder.record calls) (decoder.after calls) := by
  induction calls generalizing history decoder with
  | nil => rwa [record, List.append_nil]
  | cons call rest ih =>
      have later := ih (remembers.perform call)
      rwa [List.append_assoc] at later

/-- A call that does not ask for more leaves the decoder as it was at first. -/
theorem restart (remembers : Remembers width limit history decoder) {call : Call}
    (ended : (decoder.perform call).1.asksMore = false) :
    (decoder.perform call).2 = { width, limit } := by
  rw [(perform_leaves decoder call).1, ended, remembers.held]
  rfl

end Remembers

/-! ## Any calls -/

/-- Whatever is asked of a new decoder, it holds the frames since the last call that did not ask for
more, which are within its limit. With these frames there is one answer to the next call, which it
gives. It holds nothing behind an answer that does not ask for more, and then it answers all later
calls as a new decoder does. -/
theorem answers_by_history (width limit : Nat) (calls : List Call) :
    let fresh : Decoder := { width, limit }
    let history := fresh.record calls
    let decoder := fresh.after calls
    decoder.buffer = pending history ∧ decoder.buffer.length ≤ limit ∧
      ∀ call, (∀ reply, (decoder.perform call).1 = reply ↔
          Answered width limit (pending history) call reply) ∧
        ((decoder.perform call).1.asksMore = false → (decoder.perform call).2.buffer = [] ∧
          ∀ later, fresh.record (calls ++ call :: later) =
            fresh.record (calls ++ [call]) ++ fresh.record later) := by
  intro fresh history decoder
  have remembers : Remembers width limit history decoder := Remembers.fresh.run calls
  have held : decoder.buffer = pending history := congrArg buffer remembers.held
  refine ⟨held, held ▸ remembers.bounded, fun call => ⟨?_, ?_⟩⟩
  · exact fun reply => remembers.answered_iff
  · intro ended
    have restarts := remembers.restart ended
    refine ⟨congrArg buffer restarts, fun later => ?_⟩
    have both : calls ++ call :: later = (calls ++ [call]) ++ later := by
      rw [List.append_assoc, List.singleton_append]
    have last : fresh.after (calls ++ [call]) = fresh := by
      rw [after_append]
      exact restarts
    rw [both, record_append, last]

/-- A frame of four bytes. -/
def fullFrame : Bytes := Bytes.ofString "YWJj"

/-- A third frame has no room behind two others. It is refused, the two are forgotten, and the
message that follows is read as if nothing had been sent before. -/
theorem answers_by_history_overflowing :
    let fresh : Decoder := { width := 4, limit := 8 }
    let crowded : List Call := [.add fullFrame, .add fullFrame]
    let later : List Call := [.add fullFrame, .add (Bytes.ofString "+")]
    (fresh.after crowded).buffer = fullFrame ++ fullFrame ∧
      ((fresh.after crowded).perform (.add fullFrame)).1.asksMore = false ∧
      ((fresh.after crowded).perform (.add fullFrame)).2.buffer = [] ∧
      fresh.record (crowded ++ .add fullFrame :: later) =
        fresh.record (crowded ++ [.add fullFrame]) ++ fresh.record later := by
  intro fresh crowded later
  obtain ⟨-, -, answers⟩ := answers_by_history 4 8 crowded
  have full : ((fresh.after crowded).perform (.add fullFrame)).1.asksMore = false := by
    decide +kernel
  obtain ⟨empty, forgets⟩ := (answers (.add fullFrame)).2 full
  exact ⟨by decide +kernel, full, empty, forgets later⟩

end IrcSasl.Frame.Decoder
