import IrcSasl.Proofs.Frames

set_option autoImplicit false

/-!
# How many frames are left

An encoder always knows how many frames it has left. The arithmetic behind this is told by a
`Frame.Cursor`, which keeps the whole base64 text and a position in it, and which can fail at every
cut, subtraction and division. A cursor gives the answers of the encoder that it stands for
(`Cursor.Stands.call`) and never fails, so that what either of them announces is what further calls
give (`Encoder.remaining_exact`).
-/

namespace IrcSasl.Frame

/-! ## Calls -/

namespace Encoder

/-- The answer to one call, and what is left. An encoder without frames stays as it is. -/
def call (encoder : Encoder) : Option String × Encoder :=
  match encoder.next? with
  | none => (none, encoder)
  | some (frame, after) => (some frame, after)

/-- What is left after a number of calls. -/
def skip : Nat → Encoder → Encoder
  | 0, encoder => encoder
  | count + 1, encoder => encoder.call.2.skip count

/-- The answers to a number of calls where certain frames are left: one frame each, and nothing from
then on. -/
def answers (frames : List String) (count : Nat) : List (Option String) :=
  (List.range count).map (frames[·]?)

theorem answers_succ (frames : List String) (count : Nat) :
    answers frames (count + 1) = frames.head? :: answers frames.tail count := by
  rw [answers, List.range_succ_eq_map, List.map_cons, List.map_map, List.head?_eq_getElem?]
  congr 1
  refine List.map_congr_left fun place _ => ?_
  cases frames <;> rfl

theorem call_eq (encoder : Encoder) :
    encoder.call.1 = encoder.toList.head? ∧ encoder.call.2.toList = encoder.toList.tail := by
  rw [toList, call]
  cases taken : encoder.next? with
  | none => exact ⟨rfl, by rw [toList, taken]; rfl⟩
  | some pair => exact ⟨rfl, rfl⟩

theorem toList_skip (encoder : Encoder) (count : Nat) :
    (encoder.skip count).toList = encoder.toList.drop count := by
  induction count generalizing encoder with
  | zero => rfl
  | succ count ih => rw [skip, ih, encoder.call_eq.2, List.drop_tail]

/-- An encoder is finished exactly if no frame is left. -/
theorem isFinished_iff (encoder : Encoder) :
    encoder.isFinished = true ↔ encoder.toList.length = 0 := by
  rw [length_toList]
  cases encoder <;> simp [isFinished, remaining]

end Encoder

/-! ## Positions in a text -/

/-- An encoder that keeps the whole text of its message. -/
structure Cursor where
  /-- The base64 text of the message. -/
  text : Bytes
  /-- How much of the text was taken. -/
  position : Nat
  /-- The longest frame. -/
  width : Nat
  /-- Whether all frames were taken. -/
  done : Bool
  deriving DecidableEq, Repr

namespace Cursor

/-- What would make a call stop the program. -/
inductive Fault where
  /-- A text is cut behind its end or inside a character. -/
  | cut
  /-- A number is taken from a smaller one. -/
  | subtraction
  /-- A number is divided by zero. -/
  | division
  deriving DecidableEq, Repr

/-- Whether a text can be cut at a place. -/
def canCut (text : Bytes) (place : Nat) : Bool :=
  place = 0 || place = text.length || text[place]?.any fun byte => byte < 0x80 || 0xC0 ≤ byte

/-- The text before a place. -/
def textBefore (text : Bytes) (place : Nat) : Except Fault Bytes :=
  if canCut text place then .ok (text.take place) else .error .cut

/-- The text from a place on. -/
def textFrom (text : Bytes) (place : Nat) : Except Fault Bytes :=
  if canCut text place then .ok (text.drop place) else .error .cut

/-- The difference of two numbers. -/
def subtract (number other : Nat) : Except Fault Nat :=
  if other ≤ number then .ok (number - other) else .error .subtraction

/-- The quotient of two numbers. -/
def divide (number other : Nat) : Except Fault Nat :=
  if other = 0 then .error .division else .ok (number / other)

/-- The cursor of a message. -/
def ofMessage (message : Bytes) (width : Nat) : Cursor :=
  if width = 0 then { text := [], position := 0, width := 0, done := true }
  else { text := Base64.encode message, position := 0, width, done := false }

/-- The answer to one call, and the cursor after it. -/
def call (cursor : Cursor) : Except Fault (Option String × Cursor) :=
  if cursor.done then .ok (none, cursor)
  else
    match textFrom cursor.text cursor.position with
    | .error fault => .error fault
    | .ok [] => .ok (some Limits.emptyMarker, { cursor with done := true })
    | .ok rest =>
        let length := min rest.length cursor.width
        match textBefore rest length with
        | .error fault => .error fault
        | .ok chunk =>
            .ok (some (Bytes.asciiText chunk),
              { cursor with position := cursor.position + length, done := length < cursor.width })

/-- How many frames the cursor announces. -/
def remaining (cursor : Cursor) : Except Fault Nat :=
  if cursor.done then .ok 0
  else
    match subtract cursor.text.length cursor.position with
    | .error fault => .error fault
    | .ok rest =>
        match divide rest cursor.width with
        | .error fault => .error fault
        | .ok full => .ok (full + 1)

/-- The least and the greatest number of frames that the cursor announces. -/
def sizeHint (cursor : Cursor) : Except Fault (Nat × Option Nat) :=
  match cursor.remaining with
  | .error fault => .error fault
  | .ok frames => .ok (frames, some frames)

/-- Whether the cursor announces that no frame is left. -/
def isEmpty (cursor : Cursor) : Bool := cursor.done

/-- The answers to a number of calls, and the cursor after them. -/
def calls : Nat → Cursor → Except Fault (List (Option String) × Cursor)
  | 0, cursor => .ok ([], cursor)
  | count + 1, cursor =>
      match cursor.call with
      | .error fault => .error fault
      | .ok (answer, after) =>
          match after.calls count with
          | .error fault => .error fault
          | .ok (answers, last) => .ok (answer :: answers, last)

/-! ## Why nothing fails -/

/-- ASCII text can be cut everywhere. -/
theorem canCut_of_ascii {text : Bytes} (ascii : ∀ byte ∈ text, byte.toNat < 0x80) {place : Nat}
    (inside : place ≤ text.length) : canCut text place = true := by
  rcases Nat.lt_or_eq_of_le inside with inside | rfl
  · have single : text[place] < 0x80 := ascii _ (List.getElem_mem inside)
    simp [canCut, List.getElem?_eq_getElem inside, single]
  · simp [canCut]

/-- A cursor stands for an encoder: the encoder has what follows the position, which lies in the
text, and the width is positive as long as frames are left. -/
inductive Stands : Cursor → Encoder → Prop where
  | finished {cursor : Cursor} (done : cursor.done = true) : Stands cursor .finished
  | sending {text : Bytes} {position width : Nat} (positive : 0 < width)
      (ascii : ∀ byte ∈ text, byte.toNat < 0x80) (inside : position ≤ text.length) :
      Stands { text, position, width, done := false } (.sending (text.drop position) width positive)

theorem stands_ofMessage (message : Bytes) (width : Nat) :
    Stands (ofMessage message width) (Encoder.ofMessage message width) := by
  unfold ofMessage Encoder.ofMessage
  by_cases nothing : width = 0
  · rw [if_pos nothing, dif_neg (by omega)]
    exact .finished rfl
  · rw [if_neg nothing, dif_pos (Nat.pos_of_ne_zero nothing)]
    exact .sending _ (Base64.ascii_encode message) (Nat.zero_le _)

namespace Stands

variable {cursor : Cursor} {encoder : Encoder}

/-- A call of the cursor does what a call of the encoder does. -/
theorem call (stands : Stands cursor encoder) :
    ∃ after, cursor.call = .ok (encoder.call.1, after) ∧ Stands after encoder.call.2 := by
  cases stands with
  | finished done => exact ⟨cursor, by rw [Cursor.call, if_pos done]; rfl, .finished done⟩
  | @sending text position width positive ascii inside =>
      rw [Cursor.call, if_neg Bool.false_ne_true, textFrom, if_pos (canCut_of_ascii ascii inside)]
      have asciiRest : ∀ byte ∈ text.drop position, byte.toNat < 0x80 :=
        fun byte member => ascii byte (List.mem_of_mem_drop member)
      have length : (text.drop position).length = text.length - position := List.length_drop
      cases left : text.drop position with
      | nil => exact ⟨_, rfl, .finished rfl⟩
      | cons byte rest =>
          rw [left] at asciiRest length
          have cut := canCut_of_ascii asciiRest (Nat.min_le_left (byte :: rest).length width)
          have whole : (byte :: rest).take (min (byte :: rest).length width) =
              (byte :: rest).take width := by
            rw [Nat.min_comm, ← List.take_take, List.take_length]
          simp only [textBefore, if_pos cut, Encoder.call, Encoder.next?, whole]
          refine ⟨_, rfl, ?_⟩
          by_cases short : (byte :: rest).length < width
          · rw [if_pos short]
            exact .finished (decide_eq_true (Nat.lt_of_le_of_lt (Nat.min_le_left _ _) short))
          · have full : min (byte :: rest).length width = width :=
              Nat.min_eq_right (Nat.not_lt.mp short)
            rw [if_neg short, full, decide_eq_false (Nat.lt_irrefl width), ← left, List.drop_drop]
            exact .sending positive ascii (by omega)

theorem remaining (stands : Stands cursor encoder) :
    cursor.remaining = .ok encoder.remaining ∧ cursor.isEmpty = encoder.isFinished := by
  cases stands with
  | finished done => exact ⟨by rw [Cursor.remaining, if_pos done]; rfl, done⟩
  | @sending text position width positive ascii inside =>
      refine ⟨?_, rfl⟩
      have divides : width ≠ 0 := Nat.ne_of_gt positive
      simp only [Cursor.remaining, subtract, divide, if_pos inside, if_neg divides,
        Encoder.remaining, List.length_drop, Bool.false_eq_true, if_false]

/-- The cursor answers any number of calls with the frames that the encoder has left. -/
theorem calls (stands : Stands cursor encoder) (count : Nat) :
    ∃ after, cursor.calls count = .ok (Encoder.answers encoder.toList count, after) ∧
      Stands after (encoder.skip count) := by
  induction count generalizing cursor encoder with
  | zero => exact ⟨cursor, rfl, stands⟩
  | succ count ih =>
      obtain ⟨next, called, stands⟩ := stands.call
      obtain ⟨last, rest, stands⟩ := ih stands
      refine ⟨last, ?_, stands⟩
      rw [Cursor.calls, called]
      simp only [rest, Encoder.answers_succ, encoder.call_eq.1, encoder.call_eq.2]

end Stands

end Cursor

/-- At every moment an encoder announces exactly the frames that are left: as many as there are, and
none exactly if it says to be finished. The same with a position in the text: no call fails, the
answers to all calls are the frames that are left and nothing from then on, and what is announced is
their number, as the least and as the greatest one. Altogether there is one frame more than the
width goes into the base64 text, and none of width zero. -/
theorem Encoder.remaining_exact (message : Bytes) (width taken : Nat) :
    let all := (ofMessage message width).toList
    let left := all.drop taken
    let encoder := (ofMessage message width).skip taken
    (encoder.toList = left ∧ encoder.remaining = left.length ∧
      (encoder.isFinished = true ↔ left.length = 0)) ∧
    (∃ cursor, (Cursor.ofMessage message width).calls taken = .ok (answers all taken, cursor) ∧
      cursor.remaining = .ok left.length ∧ cursor.sizeHint = .ok (left.length, some left.length) ∧
      (cursor.isEmpty = true ↔ left.length = 0) ∧
      ∀ further, ∃ last, cursor.calls further = .ok (answers left further, last)) ∧
    all.length = if width = 0 then 0 else (Base64.encode message).length / width + 1 := by
  intro all left encoder
  have rest : encoder.toList = left := toList_skip _ _
  have announced : encoder.remaining = left.length := by rw [← rest, length_toList]
  have finished : encoder.isFinished = true ↔ left.length = 0 := by
    rw [← rest]
    exact encoder.isFinished_iff
  obtain ⟨cursor, called, stands⟩ := (Cursor.stands_ofMessage message width).calls taken
  obtain ⟨remaining, isEmpty⟩ := stands.remaining
  have remaining : cursor.remaining = .ok left.length := remaining.trans (congrArg _ announced)
  refine ⟨⟨rest, announced, finished⟩, ⟨cursor, called, remaining, ?_, ?_, ?_⟩, ?_⟩
  · rw [Cursor.sizeHint, remaining]
  · rw [isEmpty]
    exact finished
  · intro further
    obtain ⟨last, answered, -⟩ := stands.calls further
    exact ⟨last, rest ▸ answered⟩
  · rw [length_toList, ofMessage]
    by_cases nothing : width = 0
    · rw [if_pos nothing, dif_neg (by omega)]
      rfl
    · rw [if_neg nothing, dif_pos (Nat.pos_of_ne_zero nothing)]
      rfl

/-- A message that fills two frames exactly takes three, of which the last one is `+`. -/
example : ((Cursor.ofMessage [0, 0, 0, 0, 0, 0] 4).calls 4).map Prod.fst =
    .ok [some "AAAA", some "AAAA", some "+", none] := by rfl

end IrcSasl.Frame
