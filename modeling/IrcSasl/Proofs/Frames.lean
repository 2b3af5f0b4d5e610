import IrcSasl.Frame.Decoder
import IrcSasl.Frame.Encoder
import IrcSasl.Proofs.Bytes

set_option autoImplicit false

/-!
# Frames of one message

A message that is cut into frames is put together from them again, in either direction, exactly if
the buffer has room for its base64 text (`Frame.carries_iff`). The width has to be even, so that no
frame but the closing one can be mistaken for a marker.
-/

namespace IrcSasl.Frame

/-! ## Cutting -/

namespace Encoder

@[simp] theorem toList_finished : finished.toList = [] := by
  rw [toList]
  rfl

@[simp] theorem toList_sending_nil (width : Nat) (positive : 0 < width) :
    (sending [] width positive).toList = [Limits.emptyMarker] := by
  rw [toList]
  simp only [next?, toList_finished]

theorem toList_of_lt {rest : Bytes} {width : Nat} {positive : 0 < width} (nonempty : rest ≠ [])
    (short : rest.length < width) :
    (sending rest width positive).toList = [Bytes.asciiText rest] := by
  rw [toList]
  cases rest with
  | nil => exact absurd rfl nonempty
  | cons byte rest =>
      have whole : (byte :: rest).take width = byte :: rest :=
        List.take_of_length_le (Nat.le_of_lt short)
      simp only [next?, short, whole, if_true, toList_finished]

theorem toList_of_le {rest : Bytes} {width : Nat} {positive : 0 < width}
    (long : width ≤ rest.length) :
    (sending rest width positive).toList =
      Bytes.asciiText (rest.take width) :: (sending (rest.drop width) width positive).toList := by
  rw [toList]
  cases rest with
  | nil => exact absurd positive (Nat.not_lt.mpr long)
  | cons byte rest => simp only [next?, Nat.not_lt.mpr long, if_false]

/-- The last frame of a message: the text that is left for it, or `+` if none is. -/
def closing (tail : Bytes) : String :=
  if tail = [] then Limits.emptyMarker else Bytes.asciiText tail

section

variable {tail : Bytes} (ascii : ∀ byte ∈ tail, byte.toNat < 0x80)

include ascii

theorem utf8ByteSize_closing_le {width : Nat} (short : tail.length < width) :
    (closing tail).utf8ByteSize ≤ width := by
  unfold closing
  split
  · exact Nat.zero_lt_of_lt short
  · rw [Bytes.utf8ByteSize_asciiText ascii]
    exact Nat.le_of_lt short

/-- The last frame is the marker only where no text is left for it, as no single byte is. -/
theorem closing_eq_emptyMarker_iff (several : tail.length ≠ 1) :
    closing tail = Limits.emptyMarker ↔ tail = [] := by
  constructor
  · intro same
    refine Decidable.byContradiction fun something => ?_
    rw [closing, if_neg something] at same
    have size := Bytes.utf8ByteSize_asciiText ascii
    rw [same] at size
    exact several size.symm
  · rintro rfl
    rfl

end

/-- The frames of a text are full ones and a last one, which is not full. -/
theorem toList_sending (rest : Bytes) (width : Nat) (positive : 0 < width) :
    ∃ (full : List Bytes) (tail : Bytes), rest = full.flatten ++ tail ∧
      (∀ frame ∈ full, frame.length = width) ∧ tail.length < width ∧
      (sending rest width positive).toList = full.map Bytes.asciiText ++ [closing tail] := by
  by_cases short : rest.length < width
  · refine ⟨[], rest, rfl, fun _ absurd => (by cases absurd), short, ?_⟩
    by_cases nothing : rest = []
    · subst nothing
      rw [toList_sending_nil, closing, if_pos rfl]
      rfl
    · rw [toList_of_lt nothing short, closing, if_neg nothing]
      rfl
  · have long : width ≤ rest.length := Nat.not_lt.mp short
    obtain ⟨full, tail, same, widths, short, frames⟩ :=
      toList_sending (rest.drop width) width positive
    refine ⟨rest.take width :: full, tail, ?_, ?_, short, ?_⟩
    · rw [List.flatten_cons, List.append_assoc, ← same, List.take_append_drop]
    · rw [List.forall_mem_cons]
      exact ⟨List.length_take_of_le long, widths⟩
    · rw [toList_of_le long, frames]
      rfl
termination_by rest.length
decreasing_by
  rw [List.length_drop]
  omega

theorem length_flatten {width : Nat} {full : List Bytes}
    (widths : ∀ frame ∈ full, frame.length = width) :
    full.flatten.length = full.length * width := by
  rw [List.length_flatten, List.map_congr_left widths, List.map_const', List.sum_replicate_nat]

/-- As many frames are taken as remain. -/
theorem length_toList (encoder : Encoder) : encoder.toList.length = encoder.remaining := by
  cases encoder with
  | finished => simp [remaining]
  | sending rest width positive =>
      by_cases nothing : rest = []
      · subst nothing
        simp [remaining]
      by_cases short : rest.length < width
      · rw [toList_of_lt nothing short, remaining, Nat.div_eq_of_lt short]
        rfl
      · have long : width ≤ rest.length := Nat.not_lt.mp short
        have some : 0 < rest.length := List.length_pos_iff.mpr nothing
        rw [toList_of_le long, List.length_cons, length_toList, remaining, remaining,
          List.length_drop, Nat.div_eq_sub_div positive long]
termination_by encoder.measure
decreasing_by
  simp only [measure, List.length_drop]
  omega

end Encoder

/-- How many frames a message takes is decided by its length. -/
theorem length_ofMessage (message : Bytes) :
    (ofMessage message).length = (message.length + 2) / 3 * 4 / Limits.frameLength + 1 := by
  rw [← Base64.length_encode]
  exact Encoder.length_toList _

@[simp] theorem ofMessage_nil : ofMessage [] = [Limits.emptyMarker] :=
  Encoder.toList_sending_nil _ _

/-- The messages whose base64 text the buffer has room for. -/
theorem length_encode_le_iff (message : Bytes) :
    (Base64.encode message).length ≤ Limits.bufferLength ↔
      message.length ≤ Limits.bufferLengthRaw := by
  rw [Base64.length_encode]
  unfold Limits.bufferLength Limits.bufferLengthRaw
  omega

/-! ## Putting together -/

namespace Decoder

/-- A decoder that has seen no frame. -/
def fresh : Decoder :=
  { width := Limits.frameLength, limit := Limits.bufferLength }

/-- The message that frames come to, the last of which has to end it. -/
def assemble? : Decoder → List String → Option Bytes
  | _, [] => none
  | decoder, frame :: rest =>
      match decoder.add (Bytes.ofString frame) with
      | (.ok .incomplete, decoder) => decoder.assemble? rest
      | (.ok (.complete message), _) => if rest.isEmpty then some message else none
      | _ => none

/-- Frames that come to a message are buffered up to the last of them, which completes it. -/
theorem assemble?_cons {decoder : Decoder} {frame : String} {rest : List String} {message : Bytes}
    (whole : decoder.assemble? (frame :: rest) = some message) :
    (∃ after, decoder.add (Bytes.ofString frame) = (.ok .incomplete, after) ∧
        after.assemble? rest = some message) ∨
      ∃ after, decoder.add (Bytes.ofString frame) = (.ok (.complete message), after) ∧
        rest = [] := by
  rw [assemble?] at whole
  split at whole
  · next after added => exact .inl ⟨after, added, whole⟩
  · next last after added =>
      split at whole
      · next nothing =>
          cases whole
          exact .inr ⟨after, added, List.isEmpty_iff.mp nothing⟩
      · cases whole
  · cases whole

/-- A full frame that fits is kept and more are asked for; after any other frame the buffer is
empty. -/
theorem add_cases (decoder : Decoder) (frame : Bytes) :
    ((decoder.add frame).1 = .ok .incomplete ∧ frame.length = decoder.width ∧
        (decoder.buffer ++ frame).length ≤ decoder.limit ∧
        (decoder.add frame).2 = { decoder with buffer := decoder.buffer ++ frame }) ∨
      ((decoder.add frame).1 ≠ .ok .incomplete ∧ (decoder.add frame).2 = decoder.clear) := by
  have ended (decoder : Decoder) : decoder.complete.1 ≠ .ok .incomplete := by
    unfold complete
    cases decoder.decode.1 <;> simp [Except.map]
  unfold add
  split
  · exact .inr ⟨by simp, rfl⟩
  · split
    · exact .inr ⟨ended decoder, rfl⟩
    · split
      · exact .inr ⟨by simp, rfl⟩
      · next narrow =>
          split
          · exact .inr ⟨by simp, rfl⟩
          · next fits =>
              simp only
              split
              · exact .inr ⟨ended _, rfl⟩
              · next full =>
                  rw [List.length_append]
                  exact .inl ⟨rfl, by omega, Nat.not_lt.mp fits, rfl⟩

/-- A frame that completes a message leaves nothing in the buffer. -/
theorem eq_clear_of_complete {decoder after : Decoder} {frame message : Bytes}
    (added : decoder.add frame = (.ok (.complete message), after)) : after = decoder.clear := by
  rcases decoder.add_cases frame with ⟨asks, -⟩ | ⟨-, cleared⟩
  · rw [added] at asks
    cases asks
  · rwa [added] at cleared

/-- The frame `+` ends a message. -/
theorem add_emptyMarker (decoder : Decoder) :
    decoder.add (Bytes.ofString Limits.emptyMarker) = decoder.complete := by
  have other : Bytes.ofString Limits.emptyMarker ≠ Bytes.ofString Limits.abortMarker := by
    rw [ne_eq, Bytes.ofString_inj]
    decide
  rw [add, if_neg other, if_pos rfl]

/-- A frame of more than one byte is no marker. -/
theorem ne_marker {frame : Bytes} (several : 1 < frame.length) {marker : String}
    (single : marker.utf8ByteSize = 1) : frame ≠ Bytes.ofString marker := by
  intro same
  rw [same, Bytes.length_ofString, single] at several
  exact absurd several (Nat.lt_irrefl 1)

section

variable {decoder : Decoder} {frame : Bytes} (several : 1 < frame.length)
  (narrow : frame.length ≤ decoder.width)

include several narrow

/-- A frame that fits is taken. -/
theorem add_of_fits (fits : (decoder.buffer ++ frame).length ≤ decoder.limit) :
    decoder.add frame =
      let extended := { decoder with buffer := decoder.buffer ++ frame }
      if frame.length < decoder.width then extended.complete else (.ok .incomplete, extended) := by
  rw [List.length_append] at fits
  rw [add, if_neg (ne_marker several rfl), if_neg (ne_marker several rfl),
    if_neg (Nat.not_lt.mpr narrow), if_neg (Nat.not_lt.mpr fits)]

/-- A frame that does not fit is refused, and so is all that was buffered. -/
theorem add_of_long (long : decoder.limit < (decoder.buffer ++ frame).length) :
    decoder.add frame = (.error .overflow, decoder.clear) := by
  rw [List.length_append] at long
  rw [add, if_neg (ne_marker several rfl), if_neg (ne_marker several rfl),
    if_neg (Nat.not_lt.mpr narrow), if_pos long]

end

theorem complete_of_encode {decoder : Decoder} {message : Bytes}
    (written : decoder.buffer = Base64.encode message) :
    decoder.complete = (.ok (.complete message), decoder.clear) := by
  unfold complete decode
  rw [written, Base64.decode_encode]
  rfl

/-- Whatever a frame does, the limits of the decoder stay. -/
@[simp] theorem clear_add (decoder : Decoder) (frame : Bytes) :
    (decoder.add frame).2.clear = decoder.clear := by
  rcases decoder.add_cases frame with ⟨-, -, -, kept⟩ | ⟨-, cleared⟩
  · rw [kept]
    rfl
  · rw [cleared]
    rfl

/-! ## Answers to frames -/

/-- The answers to frames in order, and the decoder after them. -/
def feed : Decoder → List String → List (Except FrameError Decoded) × Decoder
  | decoder, [] => ([], decoder)
  | decoder, frame :: rest =>
      let (answer, decoder) := decoder.add (Bytes.ofString frame)
      let (answers, decoder) := decoder.feed rest
      (answer :: answers, decoder)

theorem feed_cons (decoder : Decoder) (frame : String) (rest : List String) :
    decoder.feed (frame :: rest) =
      ((decoder.add (Bytes.ofString frame)).1 ::
          ((decoder.add (Bytes.ofString frame)).2.feed rest).1,
        ((decoder.add (Bytes.ofString frame)).2.feed rest).2) := rfl

/-- The answers to as many frames as a message has: it is open up to the last one. -/
def answersTo (count : Nat) (message : Bytes) : List (Except FrameError Decoded) :=
  List.replicate (count - 1) (.ok .incomplete) ++ [.ok (.complete message)]

/-- Frames that are answered as those of a message come to it. -/
theorem assemble?_of_feed {decoder : Decoder} {frames : List String} {message : Bytes}
    (nonempty : frames ≠ []) (answers : (decoder.feed frames).1 = answersTo frames.length message) :
    decoder.assemble? frames = some message := by
  induction frames generalizing decoder with
  | nil => exact absurd rfl nonempty
  | cons frame rest ih =>
      rw [feed_cons] at answers
      rw [assemble?]
      generalize decoder.add (Bytes.ofString frame) = added at answers ⊢
      obtain ⟨answer, after⟩ := added
      cases rest with
      | nil =>
          obtain ⟨rfl, -⟩ := List.cons.inj answers
          rfl
      | cons next rest =>
          obtain ⟨rfl, later⟩ := List.cons.inj answers
          exact ih (List.cons_ne_nil next rest) later

/-- Full frames are buffered as long as there is room for them. -/
theorem feed_full {decoder : Decoder} {full : List Bytes} (wide : 1 < decoder.width)
    (widths : ∀ frame ∈ full, frame.length = decoder.width)
    (ascii : ∀ byte ∈ full.flatten, byte.toNat < 0x80)
    (fits : (decoder.buffer ++ full.flatten).length ≤ decoder.limit) (rest : List String) :
    decoder.feed (full.map Bytes.asciiText ++ rest) =
      let later := ({ decoder with buffer := decoder.buffer ++ full.flatten } : Decoder).feed rest
      (List.replicate full.length (.ok .incomplete) ++ later.1, later.2) := by
  induction full generalizing decoder with
  | nil => simp
  | cons frame full ih =>
      simp only [List.mem_cons, forall_eq_or_imp] at widths
      simp only [List.flatten_cons, List.mem_append] at ascii
      rw [List.flatten_cons, ← List.append_assoc] at fits
      have within : (decoder.buffer ++ frame).length ≤ decoder.limit := by
        rw [List.length_append] at fits
        exact Nat.le_trans (Nat.le_add_right ..) fits
      have taken : decoder.add frame =
          (.ok .incomplete, { decoder with buffer := decoder.buffer ++ frame }) := by
        rw [add_of_fits (by omega) (by omega) within]
        exact if_neg (by omega)
      have further := @ih { decoder with buffer := decoder.buffer ++ frame } wide widths.2
        (fun byte member => ascii byte (.inr member)) fits
      rw [List.map_cons, List.cons_append, feed_cons,
        Bytes.ofString_asciiText fun byte member => ascii byte (.inl member), taken, further]
      simp only [List.append_assoc, List.length_cons, List.replicate_succ, List.cons_append,
        List.flatten_cons]

/-- The last frame ends the message. -/
theorem add_closing (decoder : Decoder) {tail : Bytes} (short : tail.length < decoder.width)
    (several : tail.length ≠ 1) (ascii : ∀ byte ∈ tail, byte.toNat < 0x80)
    (fits : (decoder.buffer ++ tail).length ≤ decoder.limit) :
    decoder.add (Bytes.ofString (Encoder.closing tail)) =
      ({ decoder with buffer := decoder.buffer ++ tail } : Decoder).complete := by
  unfold Encoder.closing
  split
  · next nothing =>
      rw [add_emptyMarker, nothing, List.append_nil]
  · next something =>
      have some : 0 < tail.length := List.length_pos_iff.mpr something
      rw [Bytes.ofString_asciiText ascii, add_of_fits (by omega) (by omega) fits]
      exact if_pos short

/-- Frames of a text that there is no room for run over. The induction is on the full frames, and
what they leave room for the last one does not fit into. -/
theorem overflow_mem_feed {decoder : Decoder} {full : List Bytes} {tail : Bytes}
    (wide : 1 < decoder.width) (widths : ∀ frame ∈ full, frame.length = decoder.width)
    (short : tail.length < decoder.width) (several : tail.length ≠ 1)
    (ascii : ∀ byte ∈ full.flatten ++ tail, byte.toNat < 0x80)
    (room : decoder.buffer.length ≤ decoder.limit)
    (long : decoder.limit < (decoder.buffer ++ (full.flatten ++ tail)).length) :
    .error .overflow ∈
      (decoder.feed (full.map Bytes.asciiText ++ [Encoder.closing tail])).1 := by
  induction full generalizing decoder with
  | nil =>
      rw [List.flatten_nil, List.nil_append] at ascii long
      have something : tail ≠ [] := by
        rintro rfl
        rw [List.append_nil] at long
        omega
      have some : 0 < tail.length := List.length_pos_iff.mpr something
      rw [List.map_nil, List.nil_append, feed_cons, Encoder.closing, if_neg something,
        Bytes.ofString_asciiText ascii, add_of_long (by omega) (by omega) long]
      exact List.mem_cons_self
  | cons frame full ih =>
      simp only [List.mem_cons, forall_eq_or_imp] at widths
      rw [List.flatten_cons, List.append_assoc] at ascii long
      obtain ⟨asciiFrame, ascii⟩ := List.forall_mem_append.mp ascii
      obtain ⟨own, widths⟩ := widths
      rw [List.map_cons, List.cons_append, feed_cons, Bytes.ofString_asciiText asciiFrame]
      by_cases exceeds : decoder.limit < (decoder.buffer ++ frame).length
      · rw [add_of_long (by omega) (by omega) exceeds]
        exact List.mem_cons_self
      · have within := Nat.not_lt.mp exceeds
        rw [add_of_fits (by omega) (by omega) within]
        simp only
        rw [if_neg (by omega)]
        rw [← List.append_assoc] at long
        exact List.mem_cons_of_mem _ (ih wide widths short ascii within long)

end Decoder

/-! ## Frames that carry a message -/

/-- Frames carry a message to a decoder that has seen none: each of them leaves the message open but
the last one, which completes it and leaves the decoder as it was. Only the last one can be mistaken
for a marker, which it is where the text fills all frames before it. -/
structure Carries (width limit : Nat) (frames : List String) (message : Bytes) : Prop where
  answers : Decoder.feed { width, limit } frames =
    (Decoder.answersTo frames.length message, { width, limit })
  narrow : ∀ frame ∈ frames, frame.utf8ByteSize ≤ width
  unmarked : ∀ frame ∈ frames.dropLast, frame ≠ Limits.emptyMarker ∧ frame ≠ Limits.abortMarker
  closed : frames.getLast? = some Limits.emptyMarker ↔ width ∣ (Base64.encode message).length

section

variable {width : Nat} (even : 2 ∣ width) (positive : 0 < width) (message : Bytes) {limit : Nat}

include even positive

/-- How the base64 text of a message is cut. No part of it is a single byte, as both its length and
the width are even. -/
theorem toList_ofMessage : ∃ (full : List Bytes) (tail : Bytes),
    Base64.encode message = full.flatten ++ tail ∧ (∀ frame ∈ full, frame.length = width) ∧
      tail.length < width ∧ tail.length ≠ 1 ∧
      (Encoder.ofMessage message width).toList =
        full.map Bytes.asciiText ++ [Encoder.closing tail] := by
  obtain ⟨full, tail, same, widths, short, frames⟩ :=
    Encoder.toList_sending (Base64.encode message) width positive
  refine ⟨full, tail, same, widths, short, ?_, ?_⟩
  · have evenText := Base64.even_encode message
    rw [same, List.length_append, Encoder.length_flatten widths] at evenText
    have evenTail : 2 ∣ tail.length :=
      (Nat.dvd_add_right (Nat.dvd_mul_left_of_dvd even full.length)).mp evenText
    omega
  · rw [Encoder.ofMessage, dif_pos positive, frames]

variable {message}

/-- The frames of a message carry it wherever there is room for its base64 text. -/
theorem carries_of_fits (fits : (Base64.encode message).length ≤ limit) :
    Carries width limit (Encoder.ofMessage message width).toList message := by
  obtain ⟨full, tail, text, widths, short, several, frames⟩ :=
    toList_ofMessage even positive message
  obtain ⟨asciiFull, asciiTail⟩ :
      (∀ byte ∈ full.flatten, byte.toNat < 0x80) ∧ ∀ byte ∈ tail, byte.toNat < 0x80 := by
    rw [← List.forall_mem_append, ← text]
    exact Base64.ascii_encode message
  have sizes {part : Bytes} (member : part ∈ full) :
      (Bytes.asciiText part).utf8ByteSize = width := by
    rw [Bytes.utf8ByteSize_asciiText fun byte inside =>
      asciiFull byte (List.mem_flatten.mpr ⟨part, member, inside⟩), widths part member]
  refine ⟨?_, ?_, ?_, ?_⟩
  · rw [text] at fits
    have within : ([] ++ full.flatten).length ≤ limit := by
      rw [List.length_append] at fits
      exact Nat.le_trans (Nat.le_add_right ..) fits
    have wide : 1 < width := by omega
    have ended := Decoder.add_closing { width, limit, buffer := [] ++ full.flatten } short several
      asciiTail fits
    rw [Decoder.complete_of_encode text.symm] at ended
    rw [frames, Decoder.feed_full wide widths asciiFull within]
    simp only [Decoder.feed, ended, Decoder.answersTo, List.length_append, List.length_map,
      List.length_singleton, Nat.add_sub_cancel]
    rfl
  · intro frame member
    rw [frames, List.mem_append, List.mem_map, List.mem_singleton] at member
    rcases member with ⟨part, member, rfl⟩ | rfl
    · exact Nat.le_of_eq (sizes member)
    · exact Encoder.utf8ByteSize_closing_le asciiTail short
  · intro frame member
    rw [frames, List.dropLast_concat, List.mem_map] at member
    obtain ⟨part, member, rfl⟩ := member
    have size := sizes member
    have wide : width ≠ 1 := by omega
    constructor
    · intro same
      rw [same] at size
      exact wide size.symm
    · intro same
      rw [same] at size
      exact wide size.symm
  · rw [frames, List.getLast?_concat, Option.some.injEq,
      Encoder.closing_eq_emptyMarker_iff asciiTail several, text, List.length_append,
      Encoder.length_flatten widths, Nat.dvd_add_right (Nat.dvd_mul_left width full.length)]
    constructor
    · rintro rfl
      exact Nat.dvd_zero width
    · intro divides
      exact List.length_eq_zero_iff.mp (Nat.eq_zero_of_dvd_of_lt divides short)

/-- The frames of a message whose base64 text there is no room for run over. -/
theorem overflow_of_long (long : limit < (Base64.encode message).length) :
    .error .overflow ∈
      (Decoder.feed { width, limit } (Encoder.ofMessage message width).toList).1 := by
  obtain ⟨full, tail, text, widths, short, several, frames⟩ :=
    toList_ofMessage even positive message
  rw [frames]
  rw [text] at long
  have wide : 1 < width := by omega
  refine Decoder.overflow_mem_feed wide widths short several ?_ (Nat.zero_le _) long
  rw [← text]
  exact Base64.ascii_encode message

/-- Frames carry a message exactly where there is room for its base64 text. -/
theorem carries_iff : Carries width limit (Encoder.ofMessage message width).toList message ↔
    (Base64.encode message).length ≤ limit := by
  constructor
  · intro carries
    refine Nat.not_lt.mp fun long => ?_
    have overflow := overflow_of_long even positive long
    rw [carries.answers] at overflow
    simp [Decoder.answersTo] at overflow
  · exact carries_of_fits even positive

end

namespace Decoder

/-- A message comes back from its frames if the decoder has room for it. -/
theorem assemble?_ofMessage_of_fits {message : Bytes} {limit : Nat}
    (fits : (Base64.encode message).length ≤ limit) :
    assemble? { width := Limits.frameLength, limit } (ofMessage message) = some message := by
  have nonempty : ofMessage message ≠ [] := by
    intro nothing
    have count := length_ofMessage message
    rw [nothing] at count
    cases count
  have even : 2 ∣ Limits.frameLength := by decide
  have positive : 0 < Limits.frameLength := by decide
  refine assemble?_of_feed nonempty ?_
  exact congrArg Prod.fst (carries_of_fits even positive fits).answers

/-- A message that fits into the buffer comes back from its frames. -/
theorem assemble?_ofMessage {message : Bytes} (short : message.length ≤ Limits.bufferLengthRaw) :
    assemble? .fresh (ofMessage message) = some message := by
  exact assemble?_ofMessage_of_fits ((length_encode_le_iff message).mpr short)

end Decoder

/-- Different messages have different frames. -/
theorem ofMessage_inj {message other : Bytes} :
    ofMessage message = ofMessage other ↔ message = other := by
  constructor
  · intro same
    let limit := max (Base64.encode message).length (Base64.encode other).length
    have back := Decoder.assemble?_ofMessage_of_fits (Nat.le_max_left _ _ : _ ≤ limit)
    rw [same, Decoder.assemble?_ofMessage_of_fits (Nat.le_max_right _ _)] at back
    exact (Option.some.inj back).symm
  · exact fun same => by rw [same]

end IrcSasl.Frame
