import IrcSasl.Sweeper

set_option autoImplicit false

/-!
# The clock of the sweeper

To let time pass at once or piece by piece comes to the same (`sleep_add`), so that everything a
sweeper does is told by what it does in one millisecond: it wakes at the multiples of its period and
does nothing in between (`sleep_one`).
-/

namespace IrcSasl.Sweeper

variable {D C : Type}

/-! ## Waking up several times -/

/-- A sweeper that has ended does not wake up. -/
theorem wakes_of_finished {sweeper : Sweeper} (finished : sweeper.finished = true) (count : Nat)
    (engine : Engine D C) : wakes count sweeper engine = (sweeper, engine) := by
  cases count with
  | zero => rfl
  | succ count => simp only [wakes, wake, finished, if_true]

/-- To wake up once more is to wake up, and then to wake up the other times. -/
theorem wakes_succ (sweeper : Sweeper) (engine : Engine D C) (count : Nat) :
    wakes (count + 1) sweeper engine =
      wakes count (sweeper.wake engine).1 (sweeper.wake engine).2 := by
  by_cases finished : (sweeper.wake engine).1.finished = true
  · rw [wakes_of_finished finished]
    simp only [wakes, finished, if_true]
  · simp only [wakes, finished, Bool.false_eq_true, if_false]

/-- To wake up some times more is to wake up so many times again. -/
theorem wakes_add (sweeper : Sweeper) (engine : Engine D C) (count more : Nat) :
    wakes (count + more) sweeper engine =
      wakes more (wakes count sweeper engine).1 (wakes count sweeper engine).2 := by
  induction count generalizing sweeper engine with
  | zero => rw [Nat.zero_add, wakes]
  | succ count ih => rw [Nat.succ_add, wakes_succ, wakes_succ, ih]

/-- Waking up once touches when the sweeper is due and whether it has ended, and nothing else. -/
theorem wake_eq (sweeper : Sweeper) (engine : Engine D C) :
    (sweeper.wake engine).1 =
      { sweeper with
        due := (sweeper.wake engine).1.due, finished := (sweeper.wake engine).1.finished } ∧
    ((sweeper.wake engine).1.finished = false →
      (sweeper.wake engine).1.due = sweeper.due + sweeper.period) := by
  unfold wake
  split
  · next finished =>
      exact ⟨rfl, fun going => absurd finished (Bool.eq_false_iff.mp going)⟩
  · split
    · exact ⟨rfl, fun going => nomatch going⟩
    · exact ⟨rfl, fun _ => rfl⟩

/-- A sweeper that goes on after waking up some times is due so many periods later. -/
theorem wakes_eq (sweeper : Sweeper) (engine : Engine D C) (count : Nat) :
    (wakes count sweeper engine).1 =
      { sweeper with
        due := (wakes count sweeper engine).1.due
        finished := (wakes count sweeper engine).1.finished } ∧
    ((wakes count sweeper engine).1.finished = false →
      (wakes count sweeper engine).1.due = sweeper.due + count * sweeper.period) := by
  induction count generalizing sweeper engine with
  | zero => exact ⟨rfl, fun _ => by rw [wakes, Nat.zero_mul, Nat.add_zero]⟩
  | succ count ih =>
      obtain ⟨once, later⟩ := sweeper.wake_eq engine
      obtain ⟨rest, last⟩ := ih (sweeper.wake engine).1 (sweeper.wake engine).2
      rw [wakes_succ]
      refine ⟨by rw [rest, once], fun going => ?_⟩
      have going' : (sweeper.wake engine).1.finished = false := by
        cases finished : (sweeper.wake engine).1.finished with
        | false => rfl
        | true =>
            rw [wakes_of_finished finished, finished] at going
            cases going
      have period : (sweeper.wake engine).1.period = sweeper.period := by rw [once]
      rw [last going, later going', period, Nat.succ_mul]
      omega

/-- What the sweeper does when it wakes up does not depend on the time. -/
theorem wakes_now (sweeper : Sweeper) (engine : Engine D C) (count time : Nat) :
    wakes count { sweeper with now := time } engine =
      ({ (wakes count sweeper engine).1 with now := time }, (wakes count sweeper engine).2) := by
  induction count generalizing sweeper engine with
  | zero => rfl
  | succ count ih =>
      have once : ({ sweeper with now := time } : Sweeper).wake engine =
          ({ (sweeper.wake engine).1 with now := time }, (sweeper.wake engine).2) := by
        unfold wake
        simp only
        split
        · rfl
        · split <;> rfl
      rw [wakes_succ, wakes_succ, once, ih]

/-! ## Time -/

/-- When a sweeper falls due up to a time and after it. -/
theorem wakesUntil_add {sweeper : Sweeper} (positive : 0 < sweeper.period) {early late : Nat}
    (order : early ≤ late) :
    sweeper.wakesUntil late = sweeper.wakesUntil early +
      { sweeper with
        due := sweeper.due + sweeper.wakesUntil early * sweeper.period }.wakesUntil late := by
  unfold wakesUntil
  by_cases before : early < sweeper.due
  · simp only [if_pos before, Nat.zero_mul, Nat.add_zero, Nat.zero_add]
  · have behind : ¬late < sweeper.due := by omega
    have floor := Nat.div_mul_le_self (early - sweeper.due) sweeper.period
    have ceiling := Nat.lt_mul_div_succ (early - sweeper.due) positive
    rw [Nat.mul_comm] at ceiling
    simp only [if_neg before, if_neg behind]
    generalize (early - sweeper.due) / sweeper.period = full at floor ceiling
    by_cases same : late < sweeper.due + (full + 1) * sweeper.period
    · rw [if_pos same, Nat.add_zero]
      have : (late - sweeper.due) / sweeper.period = full :=
        Nat.div_eq_of_lt_le (by omega) (by omega)
      rw [this]
    · rw [if_neg same, show late - sweeper.due =
        late - (sweeper.due + (full + 1) * sweeper.period) + (full + 1) * sweeper.period by omega,
        Nat.add_mul_div_right _ _ positive]
      omega

/-- To sleep for longer is to sleep again. -/
theorem sleep_add {sweeper : Sweeper} (positive : 0 < sweeper.period) (engine : Engine D C)
    (duration more : Nat) :
    sweeper.sleep engine (duration + more) =
      (sweeper.sleep engine duration).1.sleep (sweeper.sleep engine duration).2 more := by
  have count := wakesUntil_add positive (Nat.le_add_right (sweeper.now + duration) more)
  obtain ⟨clock, due⟩ := wakes_eq sweeper engine (sweeper.wakesUntil (sweeper.now + duration))
  simp only [sleep, ← Nat.add_assoc, wakes_now]
  rw [count, wakes_add]
  generalize wakes (sweeper.wakesUntil (sweeper.now + duration)) sweeper engine = after
    at clock due
  obtain ⟨later, engine⟩ := after
  simp only at clock due ⊢
  cases finished : later.finished with
  | true => simp only [wakes_of_finished finished]
  | false =>
      have until_eq : ∀ time, later.wakesUntil time =
          { sweeper with
            due := sweeper.due +
              sweeper.wakesUntil (sweeper.now + duration) * sweeper.period }.wakesUntil time := by
        intro time
        rw [clock, ← due finished]
        rfl
      rw [← until_eq]
      rfl

/-- While time passes, the period stays, and whether somebody else uses the engine. -/
theorem sleep_eq (sweeper : Sweeper) (engine : Engine D C) (duration : Nat) :
    (sweeper.sleep engine duration).1.period = sweeper.period ∧
      (sweeper.sleep engine duration).1.shared = sweeper.shared := by
  have same := (wakes_eq sweeper engine (sweeper.wakesUntil (sweeper.now + duration))).1
  simp only [sleep]
  rw [same]
  exact ⟨rfl, rfl⟩

/-- A sweeper is due at the next multiple of its period, unless it has ended. -/
structure OnTime (sweeper : Sweeper) : Prop where
  positive : 0 < sweeper.period
  due : sweeper.finished = false →
    sweeper.due = (sweeper.now / sweeper.period + 1) * sweeper.period

/-- A sweeper that is on time has fallen due once after a millisecond that ends at a multiple of its
period, and never after another one. -/
theorem OnTime.wakesUntil {sweeper : Sweeper} (onTime : sweeper.OnTime)
    (going : sweeper.finished = false) :
    sweeper.wakesUntil (sweeper.now + 1) = if sweeper.period ∣ sweeper.now + 1 then 1 else 0 := by
  unfold Sweeper.wakesUntil
  rw [onTime.due going]
  by_cases tick : sweeper.period ∣ sweeper.now + 1
  · rw [← Nat.succ_div_of_dvd tick, Nat.div_mul_cancel tick, if_neg (Nat.lt_irrefl _), if_pos tick,
      Nat.sub_self, Nat.zero_div]
  · rw [← Nat.succ_div_of_not_dvd tick, if_neg tick, Nat.mul_comm,
      if_pos (Nat.lt_mul_div_succ _ onTime.positive)]

theorem sleep_zero {sweeper : Sweeper} (onTime : sweeper.OnTime) (engine : Engine D C) :
    sweeper.sleep engine 0 = (sweeper, engine) := by
  by_cases finished : sweeper.finished = true
  · simp only [sleep, wakes_of_finished finished, Nat.add_zero]
  · have early : sweeper.now < sweeper.due := by
      rw [onTime.due (Bool.eq_false_iff.mpr finished), Nat.mul_comm]
      exact Nat.lt_mul_div_succ _ onTime.positive
    simp only [sleep, Nat.add_zero, Sweeper.wakesUntil, if_pos early, wakes]

/-- In one millisecond a sweeper that is on time wakes up once if the millisecond ends at a multiple
of its period, and else does nothing. -/
theorem sleep_one {sweeper : Sweeper} (onTime : sweeper.OnTime) (engine : Engine D C) :
    sweeper.sleep engine 1 =
      if sweeper.period ∣ sweeper.now + 1 then
        ({ (sweeper.wake engine).1 with now := sweeper.now + 1 }, (sweeper.wake engine).2)
      else ({ sweeper with now := sweeper.now + 1 }, engine) := by
  by_cases finished : sweeper.finished = true
  · have asleep : sweeper.wake engine = (sweeper, engine) := by
      simp only [wake, finished, if_true]
    simp only [sleep, wakes_of_finished finished, asleep, ite_self]
  · simp only [sleep, onTime.wakesUntil (Bool.eq_false_iff.mpr finished)]
    split
    · have once : wakes 1 sweeper engine = sweeper.wake engine := wakes_succ sweeper engine 0
      rw [once]
    · rw [wakes]

/-- A sweeper that is on time stays so. -/
theorem OnTime.sleep {sweeper : Sweeper} (onTime : sweeper.OnTime) (engine : Engine D C) :
    (sweeper.sleep engine 1).1.OnTime := by
  obtain ⟨same, later⟩ := sweeper.wake_eq engine
  have period : (sweeper.wake engine).1.period = sweeper.period := by rw [same]
  rw [sleep_one onTime]
  split
  · next tick =>
      refine ⟨by simpa only [period] using onTime.positive, fun going => ?_⟩
      have awake : sweeper.finished = false := by
        cases finished : sweeper.finished with
        | false => rfl
        | true => simp only [wake, finished, if_true, Bool.true_eq_false] at going
      simp only [later going, period, onTime.due awake, Nat.succ_div_of_dvd tick, Nat.succ_mul]
  · next tick =>
      refine ⟨onTime.positive, fun going => ?_⟩
      simp only [Nat.succ_div_of_not_dvd tick]
      exact onTime.due going

end IrcSasl.Sweeper
