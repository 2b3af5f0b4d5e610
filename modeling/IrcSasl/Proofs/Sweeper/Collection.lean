import IrcSasl.Proofs.Engine.Sweeping
import IrcSasl.Proofs.Sweeper.Clock
import Mathlib.Data.List.Induction

set_option autoImplicit false

/-!
# What the sweeper collects

While a sweeper runs, time passes and the engine is used. The sweeper sweeps at every multiple of
its period, of which its start is the first one and goes without a sweep, so that a session stays
for one to two periods after its last frame (`Sweeper.collects_idle`). Who sweeps by hand makes that
shorter: a session that is already marked goes at the next multiple.
-/

namespace IrcSasl

variable {D C : Type}

namespace Engine

/-- The time between two sweeps, in milliseconds. -/
def sweepPeriod (engine : Engine D C) : Nat := engine.options.sweepSeconds * 1000

/-! ## The mark of a session -/

/-- A session, if there is one with the identifier, is marked exactly on a condition. -/
def Marks (id : String) (condition : Prop) (engine : Engine D C) : Prop :=
  ∀ session, engine.sessions.find? id = some session → (session.marked = true ↔ condition)

namespace Marks

variable {id : String} {condition : Prop} {engine : Engine D C}

theorem congr {other : Prop} (marks : engine.Marks id condition) (same : condition ↔ other) :
    engine.Marks id other :=
  fun session found => (marks session found).trans same

/-- A sweep leaves a session that is not marked. -/
theorem spared (marks : engine.Marks id condition) (unmarked : ¬condition) :
    (engine.sweep.2.sessions.find? id).isSome = (engine.sessions.find? id).isSome := by
  rw [engine.sweeps_marked.sessions, if_neg, Option.isSome_map]
  rw [SessionStore.mem_idsWhere]
  rintro ⟨session, found, marked⟩
  exact unmarked ((marks session found).mp marked)

/-- A sweep destroys a session that is marked. -/
theorem destroyed (marks : engine.Marks id condition) (marked : condition) :
    engine.sweep.2.sessions.find? id = none := by
  rw [engine.sweeps_marked.sessions]
  split
  · rfl
  · next kept =>
      cases found : engine.sessions.find? id with
      | none => rfl
      | some session =>
          have member := SessionStore.mem_idsWhere.mpr
            ⟨session, found, (marks session found).mpr marked⟩
          exact absurd member kept

end Marks

/-- What a sweep leaves is marked. -/
theorem marks_sweep (id : String) (engine : Engine D C) : engine.sweep.2.Marks id True :=
  fun _ found => iff_of_true (engine.sweeps_marked.marked found) trivial

variable [AccountDirectory D] [CredentialStore C] {id : String} {engine : Engine D C}

/-- A frame for a session takes its mark away. -/
theorem marks_frame (bound : engine.Bound) (server : String) (frame : Inbound) :
    (engine.perform (.frame server frame)).Marks frame.session False := by
  intro session found
  rcases marked_handle bound.keyed server frame found with ⟨-, unmarked⟩ | ⟨other, -⟩
  · simp [unmarked]
  · exact absurd rfl other

/-- The mark stays as it is while there is neither a frame for the session nor a sweep. -/
theorem Marks.perform {condition : Prop} (marks : engine.Marks id condition)
    (bound : engine.Bound) {event : Event D} (quiet : event.isQuiet id = true) :
    (engine.perform event).Marks id condition := by
  intro session found
  by_cases framed : ∃ server frame, event = .frame server frame
  · obtain ⟨server, frame, rfl⟩ := framed
    rcases marked_handle bound.keyed server frame found with ⟨own, -⟩ | ⟨-, before⟩
    · simp [Event.isQuiet, own] at quiet
    · exact marks session before
  · refine marks session (spares_perform bound ?_ ?_ id session found)
    · rintro rfl
      cases quiet
    · exact fun server frame same => framed ⟨server, frame, same⟩

/-- A session without a mark gets one from sweeps only. -/
theorem Marks.unmarked (marks : engine.Marks id False) (bound : engine.Bound) {event : Event D}
    (unswept : event ≠ .swept) : (engine.perform event).Marks id False := by
  by_cases quiet : event.isQuiet id = true
  · exact marks.perform bound quiet
  · cases event with
    | frame server frame =>
        obtain rfl : frame.session = id := by simpa [Event.isQuiet] using quiet
        exact marks_frame bound server frame
    | swept => exact absurd rfl unswept
    | _ => exact absurd rfl quiet

end Engine

/-! ## Schedules -/

namespace Sweeper

/-- What happens while a sweeper runs. -/
inductive Happening (D : Type) where
  /-- A millisecond passes. -/
  | passed
  /-- Something is done with the engine. -/
  | operated (event : Engine.Event D)
  /-- From now on somebody else uses the engine, or nobody does. -/
  | shared (others : Bool)

/-- Whether a millisecond passes. -/
def Happening.isPassed : Happening D → Bool
  | .passed => true
  | _ => false

/-- The milliseconds that pass in a schedule. -/
def elapsed (schedule : List (Happening D)) : Nat := schedule.countP Happening.isPassed

@[simp]
theorem elapsed_append (early late : List (Happening D)) :
    elapsed (early ++ late) = elapsed early + elapsed late :=
  List.countP_append ..

@[simp]
theorem elapsed_nil : elapsed ([] : List (Happening D)) = 0 := rfl

@[simp]
theorem elapsed_passed (late : List (Happening D)) :
    elapsed (.passed :: late) = elapsed late + 1 :=
  List.countP_cons_of_pos rfl

/-- Only milliseconds take time. -/
theorem elapsed_other {happening : Happening D} (other : happening ≠ .passed)
    (late : List (Happening D)) : elapsed (happening :: late) = elapsed late := by
  refine List.countP_cons_of_neg fun passed => other ?_
  cases happening with
  | passed => rfl
  | operated event => cases passed
  | shared others => cases passed

@[simp]
theorem elapsed_operated (event : Engine.Event D) (late : List (Happening D)) :
    elapsed (.operated event :: late) = elapsed late :=
  elapsed_other (by nofun) late

@[simp]
theorem elapsed_shared (others : Bool) (late : List (Happening D)) :
    elapsed (.shared others :: late) = elapsed late :=
  elapsed_other (by nofun) late

/-- Some milliseconds pass. -/
def pause (duration : Nat) : List (Happening D) := List.replicate duration .passed

theorem eq_passed_of_mem_pause {duration : Nat} {happening : Happening D}
    (member : happening ∈ pause duration) : happening = .passed :=
  List.eq_of_mem_replicate member

@[simp]
theorem elapsed_pause (duration : Nat) :
    elapsed (pause duration : List (Happening D)) = duration := by
  simp [elapsed, pause, List.countP_replicate, Happening.isPassed]

theorem pause_eq_append (early late : Nat) :
    (pause (early + (late + 1)) : List (Happening D)) = pause early ++ .passed :: pause late := by
  simp only [pause, ← List.replicate_succ, List.replicate_append_replicate]

/-- Every millisecond of a schedule has its place in it. -/
theorem exists_passed {schedule : List (Happening D)} {time : Nat}
    (inside : time < elapsed schedule) :
    ∃ early late, schedule = early ++ .passed :: late ∧ elapsed early = time := by
  induction schedule generalizing time with
  | nil => cases inside
  | cons happening rest ih =>
      by_cases first : happening = .passed
      · subst first
        cases time with
        | zero => exact ⟨[], rest, rfl, rfl⟩
        | succ time =>
            rw [elapsed_passed] at inside
            obtain ⟨early, late, rfl, passed⟩ := ih (Nat.lt_of_succ_lt_succ inside)
            exact ⟨.passed :: early, late, rfl, by rw [elapsed_passed, passed]⟩
      · rw [elapsed_other first] at inside
        obtain ⟨early, late, rfl, passed⟩ := ih inside
        exact ⟨happening :: early, late, rfl, by rw [elapsed_other first, passed]⟩

variable [AccountDirectory D] [CredentialStore C]

/-- The sweeper and its engine after something has happened. -/
def act : Sweeper × Engine D C → Happening D → Sweeper × Engine D C
  | (sweeper, engine), .passed => sweeper.sleep engine 1
  | (sweeper, engine), .operated event => (sweeper, engine.perform event)
  | (sweeper, engine), .shared others => ({ sweeper with shared := others }, engine)

/-- The sweeper that is started for an engine, and the engine, after a schedule. -/
def run (engine : Engine D C) (schedule : List (Happening D)) : Sweeper × Engine D C :=
  schedule.foldl act (start engine.options, engine)

/-- At every multiple of the period so far, somebody else has used the engine. -/
def Held (engine : Engine D C) (schedule : List (Happening D)) : Prop :=
  ∀ early late, schedule = early ++ .passed :: late →
    engine.sweepPeriod ∣ elapsed early + 1 → (run engine early).1.shared = true

/-- The sweeper destroys a session in the millisecond after a schedule. -/
def Collects (engine : Engine D C) (schedule : List (Happening D)) (id : String) : Prop :=
  ((run engine schedule).2.sessions.find? id).isSome ∧
    (run engine (schedule ++ [.passed])).2.sessions.find? id = none

/-- After a schedule there has been a frame for a session in the present period, and no sweep by
hand since that frame. -/
def Touched (engine : Engine D C) (schedule : List (Happening D)) (id : String) : Prop :=
  ∃ early server frame late, schedule = early ++ .operated (.frame server frame) :: late ∧
    frame.session = id ∧ .operated .swept ∉ late ∧
    elapsed early / engine.sweepPeriod = elapsed schedule / engine.sweepPeriod

/-- A session is left alone in a schedule that follows another one: there is neither a frame for it
nor a sweep by hand, and nothing that is done with the engine destroys it. -/
structure LeftAlone (engine : Engine D C) (base late : List (Happening D)) (id : String) :
    Prop where
  quiet : ∀ event, .operated event ∈ late → event.isQuiet id = true
  kept : ∀ front event back, late = front ++ .operated event :: back →
    ((run engine (base ++ front)).2.sessions.find? id).isSome →
    ((run engine (base ++ front ++ [.operated event])).2.sessions.find? id).isSome

theorem run_append_singleton (engine : Engine D C) (schedule : List (Happening D))
    (happening : Happening D) :
    run engine (schedule ++ [happening]) = act (run engine schedule) happening := by
  rw [run, List.foldl_append]
  rfl

theorem held_append_singleton {engine : Engine D C} {schedule : List (Happening D)}
    {happening : Happening D} :
    Held engine (schedule ++ [happening]) ↔
      Held engine schedule ∧ (happening = .passed →
        engine.sweepPeriod ∣ elapsed schedule + 1 → (run engine schedule).1.shared = true) := by
  constructor
  · intro held
    refine ⟨?_, ?_⟩
    · rintro early late rfl
      exact held early (late ++ [happening]) (by simp)
    · rintro rfl
      exact held schedule [] rfl
  · rintro ⟨before, last⟩ early late split
    rcases List.eq_nil_or_concat late with rfl | ⟨late, other, rfl⟩
    · obtain ⟨rfl, same⟩ := List.append_inj' split rfl
      exact last (List.cons.inj same).1
    · rw [List.concat_eq_append, ← List.cons_append, ← List.append_assoc] at split
      exact before early late (List.append_inj' split rfl).1

theorem Held.of_append {engine : Engine D C} {early late : List (Happening D)}
    (held : Held engine (early ++ late)) : Held engine early := by
  rintro front back rfl
  exact held front (back ++ late) (by simp)

/-! ## One millisecond -/

omit [AccountDirectory D] [CredentialStore C] in
/-- The sweeper sweeps, and at most tells of it. -/
theorem sweepEngine_cases (engine : Engine D C) :
    sweepEngine engine = engine.sweep.2 ∨
      ∃ event, sweepEngine engine = engine.sweep.2.note event := by
  unfold sweepEngine
  split
  · next swept => exact .inl (by rw [swept])
  · next destroyed _ _ swept => exact .inr ⟨.swept destroyed, by rw [swept]⟩

omit [AccountDirectory D] [CredentialStore C] in
theorem sessions_sweepEngine (engine : Engine D C) :
    (sweepEngine engine).sessions = engine.sweep.2.sessions := by
  rcases sweepEngine_cases engine with same | ⟨event, same⟩
  · rw [same]
  · rw [same]
    rfl

omit [AccountDirectory D] [CredentialStore C] in
/-- A sweeper goes on if it has not ended and somebody else uses the engine. -/
theorem finished_wake {sweeper : Sweeper} {engine : Engine D C} :
    (sweeper.wake engine).1.finished = false ↔
      sweeper.finished = false ∧ sweeper.shared = true := by
  unfold wake
  split
  · next finished => simp [finished]
  · next going =>
      split
      · next alone => simpa using fun _ => alone
      · next shared => simpa [going] using shared

theorem bound_wake {sweeper : Sweeper} {engine : Engine D C} (bound : engine.Bound) :
    (sweeper.wake engine).2.Bound := by
  unfold wake
  split
  · exact bound
  · split
    · exact bound.of_same rfl rfl
    · have swept : engine.sweep.2.Bound := bound.perform .swept
      rcases sweepEngine_cases engine with same | ⟨event, same⟩
      · rwa [same]
      · rw [same]
        exact swept.of_same rfl rfl

/-- After a schedule the sweeper is on time, and goes on if somebody else has used the engine at
every multiple of its period. -/
structure Clocked (engine : Engine D C) (schedule : List (Happening D)) : Prop where
  onTime : (run engine schedule).1.OnTime
  period : (run engine schedule).1.period = engine.sweepPeriod
  now : (run engine schedule).1.now = elapsed schedule
  finished : (run engine schedule).1.finished = false ↔ Held engine schedule
  bound : (run engine schedule).2.Bound

namespace Clocked

variable {engine : Engine D C} {schedule : List (Happening D)}

theorem positive (clocked : Clocked engine schedule) : 0 < engine.sweepPeriod := by
  rw [← clocked.period]
  exact clocked.onTime.positive

theorem run_passed (clocked : Clocked engine schedule) :
    run engine (schedule ++ [.passed]) =
      if engine.sweepPeriod ∣ elapsed schedule + 1 then
        ({ ((run engine schedule).1.wake (run engine schedule).2).1 with
            now := elapsed schedule + 1 },
          ((run engine schedule).1.wake (run engine schedule).2).2)
      else ({ (run engine schedule).1 with now := elapsed schedule + 1 },
          (run engine schedule).2) := by
  rw [run_append_singleton, ← clocked.period, ← clocked.now]
  exact sleep_one clocked.onTime _

theorem append_passed (clocked : Clocked engine schedule) :
    Clocked engine (schedule ++ [.passed]) := by
  refine ⟨?_, ?_, ?_, ?_, ?_⟩
  · rw [run_append_singleton]
    exact clocked.onTime.sleep _
  · rw [run_append_singleton]
    exact (sleep_eq ..).1.trans clocked.period
  · rw [clocked.run_passed, elapsed_append]
    split <;> rfl
  · rw [clocked.run_passed, held_append_singleton, ← clocked.finished]
    split
    · next tick =>
        refine finished_wake.trans (and_congr_right fun _ => ?_)
        exact ⟨fun shared _ _ => shared, fun last => last rfl tick⟩
    · next still =>
        exact (and_iff_left fun _ tick => absurd tick still).symm
  · rw [clocked.run_passed]
    split
    · exact bound_wake clocked.bound
    · exact clocked.bound

/-- What takes no time changes nothing in the sweeper but whether somebody else uses the engine. -/
theorem append_other (clocked : Clocked engine schedule) {happening : Happening D}
    (other : happening ≠ .passed) : Clocked engine (schedule ++ [happening]) := by
  have same : (act (run engine schedule) happening).1 =
      { (run engine schedule).1 with
        shared := (act (run engine schedule) happening).1.shared } := by
    cases happening with
    | passed => exact absurd rfl other
    | operated event => rfl
    | shared others => rfl
  have held : Held engine (schedule ++ [happening]) ↔ Held engine schedule :=
    held_append_singleton.trans (and_iff_left fun passed => absurd passed other)
  refine ⟨?_, ?_, ?_, ?_, ?_⟩
  · rw [run_append_singleton, same]
    exact ⟨clocked.onTime.positive, clocked.onTime.due⟩
  · rw [run_append_singleton, same]
    exact clocked.period
  · rw [run_append_singleton, same, elapsed_append, elapsed_other other]
    exact clocked.now
  · rw [run_append_singleton, same, held]
    exact clocked.finished
  · rw [run_append_singleton]
    cases happening with
    | passed => exact absurd rfl other
    | operated event => exact clocked.bound.perform event
    | shared others => exact clocked.bound

theorem start (bound : engine.Bound) (admitted : engine.options.validate = .ok ()) :
    Clocked engine [] := by
  have positive : 0 < engine.sweepPeriod := by
    unfold Options.validate checkRange at admitted
    split at admitted
    · next inside => exact Nat.mul_pos inside.1 (by decide)
    · cases admitted
  refine ⟨⟨positive, fun _ => ?_⟩, rfl, rfl, iff_of_true rfl ?_, bound⟩
  · simp [run, Sweeper.start]
  · intro early late split
    simp at split

theorem of_bound (bound : engine.Bound) (admitted : engine.options.validate = .ok ())
    (schedule : List (Happening D)) : Clocked engine schedule := by
  induction schedule using List.reverseRecOn with
  | nil => exact .start bound admitted
  | append_singleton schedule happening clocked =>
      by_cases passed : happening = .passed
      · rw [passed]
        exact clocked.append_passed
      · exact clocked.append_other passed

/-- At a multiple of the period a sweeper that goes on sweeps if somebody else uses the engine, and
ends otherwise. -/
theorem engine_of_tick (clocked : Clocked engine schedule) (held : Held engine schedule)
    (tick : engine.sweepPeriod ∣ elapsed schedule + 1) :
    (run engine (schedule ++ [.passed])).2 =
      if (run engine schedule).1.shared then sweepEngine (run engine schedule).2
      else (run engine schedule).2.note .sweeperStopped := by
  rw [clocked.run_passed, if_pos tick]
  simp only [wake, clocked.finished.mpr held, Bool.false_eq_true, if_false, Bool.not_eq_true']
  cases shared : (run engine schedule).1.shared <;> rfl

/-- At other times, and when it has ended, the sweeper does nothing. -/
theorem engine_of_not_tick (clocked : Clocked engine schedule)
    (still : ¬(Held engine schedule ∧ engine.sweepPeriod ∣ elapsed schedule + 1)) :
    (run engine (schedule ++ [.passed])).2 = (run engine schedule).2 := by
  rw [clocked.run_passed]
  split
  · next tick =>
      have finished : (run engine schedule).1.finished = true := by
        rw [← Bool.not_eq_false, clocked.finished]
        exact fun held => still ⟨held, tick⟩
      simp only [wake, finished, if_true]
  · rfl

end Clocked

/-! ## One to two periods -/

omit [AccountDirectory D] [CredentialStore C] in
/-- The first multiple after a time is the only one before the second. -/
theorem first_tick {period time later : Nat} (order : time < later)
    (short : later < (time / period + 2) * period) (tick : period ∣ later) :
    later = (time / period + 1) * period := by
  obtain ⟨count, rfl⟩ := tick
  have positive : 0 < period := Nat.pos_of_mul_pos_right (Nat.zero_lt_of_lt order)
  have low : time / period < count := (Nat.div_lt_iff_lt_mul positive).mpr (by rwa [Nat.mul_comm])
  have high : count < time / period + 2 := by
    rw [Nat.mul_comm] at short
    exact Nat.lt_of_mul_lt_mul_right short
  rw [Nat.mul_comm, show count = time / period + 1 by omega]

omit [AccountDirectory D] [CredentialStore C] in
/-- The second multiple after a time comes after one to two periods. -/
theorem second_tick {period time : Nat} (positive : 0 < period) (between : ¬period ∣ time) :
    time + period < (time / period + 2) * period ∧
      (time / period + 2) * period < time + 2 * period := by
  have whole := Nat.div_add_mod' time period
  have rest : 0 < time % period := Nat.pos_of_ne_zero (mt Nat.dvd_of_mod_eq_zero between)
  have small := Nat.mod_lt time positive
  rw [Nat.add_mul]
  omega

section

variable {engine : Engine D C} {base late : List (Happening D)} {id : String}

theorem LeftAlone.of_append {more : List (Happening D)}
    (alone : LeftAlone engine base (late ++ more) id) : LeftAlone engine base late id := by
  refine ⟨fun event member => alone.quiet event (List.mem_append_left _ member), ?_⟩
  rintro front event back rfl
  exact alone.kept front event (back ++ more) (by simp)

/-- After its last frame a session stays until the second multiple of the period, and is marked from
the first one on. -/
theorem LeftAlone.aged (clocked : ∀ schedule, Clocked engine schedule)
    (present : ((run engine base).2.sessions.find? id).isSome)
    (fresh : (run engine base).2.Marks id False) (alone : LeftAlone engine base late id)
    (held : Held engine (base ++ late))
    (short : elapsed (base ++ late) <
      (elapsed base / engine.sweepPeriod + 2) * engine.sweepPeriod) :
    ((run engine (base ++ late)).2.sessions.find? id).isSome ∧
      (run engine (base ++ late)).2.Marks id
        ((elapsed base / engine.sweepPeriod + 1) * engine.sweepPeriod ≤
          elapsed (base ++ late)) := by
  induction late using List.reverseRecOn with
  | nil =>
      have before : elapsed base <
          (elapsed base / engine.sweepPeriod + 1) * engine.sweepPeriod := by
        rw [Nat.mul_comm]
        exact Nat.lt_mul_div_succ _ (clocked []).positive
      rw [List.append_nil]
      exact ⟨present, fresh.congr (iff_of_false not_false (Nat.not_le.mpr before))⟩
  | append_singleton late happening ih =>
      rw [← List.append_assoc] at held short ⊢
      have past := held_append_singleton.mp held
      have now := clocked (base ++ late)
      have shorter := Nat.lt_of_le_of_lt (elapsed_append .. ▸ Nat.le_add_right ..) short
      obtain ⟨present, marks⟩ := ih alone.of_append past.1 shorter
      cases happening with
      | passed =>
          rw [elapsed_append, elapsed_passed, elapsed_nil, Nat.zero_add] at short ⊢
          by_cases tick : engine.sweepPeriod ∣ elapsed (base ++ late) + 1
          · have later : elapsed base < elapsed (base ++ late) + 1 := by
              rw [elapsed_append]
              omega
            have first := first_tick later short tick
            have unmarked := Nat.not_le.mpr (Nat.lt_of_lt_of_eq (Nat.lt_succ_self _) first)
            rw [now.engine_of_tick past.1 tick, if_pos (past.2 rfl tick), sessions_sweepEngine,
              marks.spared unmarked]
            refine ⟨present, fun session found => ?_⟩
            rw [sessions_sweepEngine] at found
            refine (Engine.marks_sweep id _ session found).trans (iff_of_true trivial ?_)
            exact Nat.le_of_eq first.symm
          · have other : (elapsed base / engine.sweepPeriod + 1) * engine.sweepPeriod ≠
                elapsed (base ++ late) + 1 :=
              fun same => tick (same ▸ Nat.dvd_mul_left ..)
            rw [now.engine_of_not_tick fun both => tick both.2]
            exact ⟨present, marks.congr (by omega)⟩
      | operated event =>
          have quiet := alone.quiet event (by simp)
          have kept := alone.kept late event [] rfl present
          rw [run_append_singleton] at kept
          rw [run_append_singleton, elapsed_append, elapsed_operated, elapsed_nil, Nat.add_zero]
          exact ⟨kept, marks.perform now.bound quiet⟩
      | shared others =>
          rw [run_append_singleton, elapsed_append, elapsed_shared, elapsed_nil, Nat.add_zero]
          exact ⟨present, marks⟩

/-- One to two periods after its last frame the sweeper destroys a session. -/
theorem LeftAlone.collected (clocked : ∀ schedule, Clocked engine schedule)
    (present : ((run engine base).2.sessions.find? id).isSome)
    (fresh : (run engine base).2.Marks id False) (alone : LeftAlone engine base late id)
    (held : Held engine (base ++ late)) (between : ¬engine.sweepPeriod ∣ elapsed base)
    (long : elapsed base + 2 * engine.sweepPeriod ≤ elapsed (base ++ late)) :
    ∃ front back, late = front ++ .passed :: back ∧
      elapsed base + engine.sweepPeriod < elapsed (base ++ front) + 1 ∧
      elapsed (base ++ front) + 1 < elapsed base + 2 * engine.sweepPeriod ∧
      Collects engine (base ++ front) id := by
  obtain ⟨after, before⟩ := second_tick (clocked []).positive between
  rw [elapsed_append] at long
  -- The second multiple ends one of the milliseconds that pass.
  have inside : (elapsed base / engine.sweepPeriod + 2) * engine.sweepPeriod - 1 - elapsed base <
      elapsed late := by omega
  obtain ⟨front, back, rfl, place⟩ := exists_passed inside
  have time : elapsed (base ++ front) + 1 =
      (elapsed base / engine.sweepPeriod + 2) * engine.sweepPeriod := by
    rw [elapsed_append]
    omega
  have tick : engine.sweepPeriod ∣ elapsed (base ++ front) + 1 := time ▸ Nat.dvd_mul_left ..
  have going : Held engine (base ++ front ++ [.passed]) := by
    have whole : Held engine (base ++ front ++ [.passed] ++ back) := by simpa using held
    exact whole.of_append
  obtain ⟨past, shared⟩ := held_append_singleton.mp going
  obtain ⟨stays, marks⟩ := alone.of_append.aged clocked present fresh past (by omega)
  have marked : (elapsed base / engine.sweepPeriod + 1) * engine.sweepPeriod ≤
      elapsed (base ++ front) := by
    have positive := (clocked []).positive
    rw [Nat.add_mul] at time ⊢
    omega
  refine ⟨front, back, rfl, by omega, by omega, stays, ?_⟩
  rw [(clocked _).engine_of_tick past tick, if_pos (shared rfl tick), sessions_sweepEngine]
  exact marks.destroyed marked

/-- A session for which there was a frame in the present period, and no sweep by hand since, is not
marked. -/
theorem Touched.unmarked (clocked : ∀ schedule, Clocked engine schedule)
    (touched : Touched engine base id) : (run engine base).2.Marks id False := by
  obtain ⟨early, server, frame, late, rfl, rfl, unswept, same⟩ := touched
  induction late using List.reverseRecOn with
  | nil =>
      rw [run_append_singleton]
      exact Engine.marks_frame (clocked early).bound server frame
  | append_singleton late happening ih =>
      rw [← List.cons_append, ← List.append_assoc] at same ⊢
      generalize before : early ++ .operated (.frame server frame) :: late = past at same ih ⊢
      have begun : elapsed early ≤ elapsed past := by
        rw [← before, elapsed_append]
        exact Nat.le_add_right ..
      have further : elapsed past ≤ elapsed (past ++ [happening]) := by
        rw [elapsed_append]
        exact Nat.le_add_right ..
      have period : elapsed early / engine.sweepPeriod = elapsed past / engine.sweepPeriod :=
        Nat.le_antisymm (Nat.div_le_div_right begun) (same ▸ Nat.div_le_div_right further)
      have marks := ih (fun member => unswept (List.mem_append_left _ member)) period
      cases happening with
      | passed =>
          rw [elapsed_append, elapsed_passed, elapsed_nil, Nat.zero_add] at same
          rw [(clocked past).engine_of_not_tick]
          · exact marks
          · rintro ⟨-, tick⟩
            rw [Nat.succ_div_of_dvd tick, period] at same
            exact absurd same (Nat.ne_of_lt (Nat.lt_succ_self _))
      | operated event =>
          rw [run_append_singleton]
          refine marks.unmarked (clocked past).bound ?_
          rintro rfl
          exact unswept (by simp)
      | shared others =>
          rw [run_append_singleton]
          exact marks

end

/-- A sweeper sweeps at every multiple of its period while somebody else uses the engine, not at its
start and at no other time, and it ends without a sweep at the first multiple at which nobody does.
If the last frame for a session comes between two multiples, and from then on nobody sweeps by hand
and nothing else destroys the session, the sweeper destroys it after one to two periods. A session
for which there is a frame between every two multiples that follow each other, and no sweep by hand
between that frame and the later one of them, is never destroyed by the sweeper. -/
theorem collects_idle {engine : Engine D C} (reachable : engine.Reachable)
    (admitted : engine.options.validate = .ok ()) :
    (∀ schedule : List (Happening D),
      ((run engine schedule).1.finished = false ↔ Held engine schedule) ∧
      (Held engine schedule → engine.sweepPeriod ∣ elapsed schedule + 1 →
        (run engine (schedule ++ [.passed])).2 =
          if (run engine schedule).1.shared then sweepEngine (run engine schedule).2
          else (run engine schedule).2.note .sweeperStopped) ∧
      (¬(Held engine schedule ∧ engine.sweepPeriod ∣ elapsed schedule + 1) →
        (run engine (schedule ++ [.passed])).2 = (run engine schedule).2)) ∧
    (∀ early server frame late,
      let base := early ++ [.operated (.frame server frame)]
      ¬engine.sweepPeriod ∣ elapsed base →
      ((run engine base).2.sessions.find? frame.session).isSome →
      LeftAlone engine base late frame.session →
      Held engine (base ++ late) →
      elapsed base + 2 * engine.sweepPeriod ≤ elapsed (base ++ late) →
      ∃ front back, late = front ++ .passed :: back ∧
        elapsed base + engine.sweepPeriod < elapsed (base ++ front) + 1 ∧
        elapsed (base ++ front) + 1 < elapsed base + 2 * engine.sweepPeriod ∧
        Collects engine (base ++ front) frame.session) ∧
    ∀ schedule id,
      (∀ early late, schedule = early ++ .passed :: late →
        engine.sweepPeriod ∣ elapsed early + 1 →
        ((run engine early).2.sessions.find? id).isSome → Touched engine early id) →
      ∀ early late, schedule = early ++ .passed :: late → ¬Collects engine early id := by
  have clocked : ∀ schedule, Clocked engine schedule :=
    Clocked.of_bound (.of_reachable reachable) admitted
  refine ⟨?_, ?_, ?_⟩
  · intro schedule
    exact ⟨(clocked schedule).finished, (clocked schedule).engine_of_tick,
      (clocked schedule).engine_of_not_tick⟩
  · intro early server frame late base between present alone held long
    have fresh : (run engine base).2.Marks frame.session False := by
      rw [run_append_singleton]
      exact Engine.marks_frame (clocked early).bound server frame
    exact alone.collected clocked present fresh held between long
  · rintro schedule id busy early late split ⟨present, gone⟩
    have still : ((run engine (early ++ [.passed])).2.sessions.find? id).isSome := by
      by_cases last : Held engine early ∧ engine.sweepPeriod ∣ elapsed early + 1
      · rw [(clocked early).engine_of_tick last.1 last.2]
        split
        · have unmarked := (busy early late split last.2 present).unmarked clocked
          rwa [sessions_sweepEngine, unmarked.spared not_false]
        · exact present
      · rwa [(clocked early).engine_of_not_tick last]
    rw [gone] at still
    cases still

/-- Somebody else uses the engine as long as nobody has said otherwise. -/
theorem held_of_not_mem {engine : Engine D C} {schedule : List (Happening D)}
    (always : .shared false ∉ schedule) : Held engine schedule := by
  have shared : ∀ schedule : List (Happening D), .shared false ∉ schedule →
      (run engine schedule).1.shared = true := by
    intro schedule always
    induction schedule using List.reverseRecOn with
    | nil => rfl
    | append_singleton schedule happening ih =>
        have before := ih fun member => always (List.mem_append_left _ member)
        rw [run_append_singleton]
        cases happening with
        | passed => exact (sleep_eq ..).2.trans before
        | operated event => exact before
        | shared others =>
            cases others with
            | true => rfl
            | false => exact absurd (by simp) always
  rintro early late rfl -
  exact shared early fun member => always (List.mem_append_left _ member)

/-- To let milliseconds pass one after the other is to let that much time pass. -/
theorem run_append_pause {engine : Engine D C} {schedule : List (Happening D)}
    (clocked : Clocked engine schedule) (duration : Nat) :
    run engine (schedule ++ pause duration) =
      (run engine schedule).1.sleep (run engine schedule).2 duration := by
  induction duration with
  | zero => rw [pause, List.replicate_zero, List.append_nil, sleep_zero clocked.onTime]
  | succ duration ih =>
      rw [pause, List.replicate_succ', ← List.append_assoc, run_append_singleton, ← pause, ih,
        sleep_add clocked.onTime.positive]
      rfl

/-- Time does nothing to a session but what the sweeper does. -/
theorem LeftAlone.pause (engine : Engine D C) (base : List (Happening D)) (duration : Nat)
    (id : String) : LeftAlone engine base (pause duration) id := by
  refine ⟨?_, ?_⟩
  · intro event member
    cases eq_passed_of_mem_pause member
  · intro front event back split
    have member : Happening.operated event ∈ Sweeper.pause duration := by
      rw [split]
      exact List.mem_append_right _ List.mem_cons_self
    cases eq_passed_of_mem_pause member

omit [AccountDirectory D] [CredentialStore C] in
/-- Time that does not end the period of a frame leaves the frame the last one in it. -/
theorem Touched.pause (engine : Engine D C) (early : List (Happening D)) (server : String)
    (frame : Inbound) {duration : Nat}
    (within : elapsed early / engine.sweepPeriod =
      (elapsed early + duration) / engine.sweepPeriod) :
    Touched engine (early ++ [.operated (.frame server frame)] ++ pause duration)
      frame.session := by
  refine ⟨early, server, frame, Sweeper.pause duration, by simp, rfl, ?_, by simpa using within⟩
  intro member
  cases eq_passed_of_mem_pause member

/-- No multiple of the period comes before the first one. -/
theorem held_of_short {engine : Engine D C} {schedule : List (Happening D)}
    (short : elapsed schedule < engine.sweepPeriod) : Held engine schedule := by
  rintro early late rfl tick
  have before := Nat.le_of_dvd (Nat.succ_pos _) tick
  rw [elapsed_append, elapsed_passed] at short
  omega

omit [AccountDirectory D] [CredentialStore C] in
/-- A millisecond of a schedule is told by how many have passed before it. -/
theorem eq_of_elapsed {early other late rest : List (Happening D)}
    (same : early ++ .passed :: late = other ++ .passed :: rest)
    (time : elapsed early = elapsed other) : early = other := by
  have shorter {front back tail : List (Happening D)} {middle : List (Happening D)}
      (split : .passed :: tail = middle ++ .passed :: back)
      (time : elapsed front = elapsed (front ++ middle)) : middle = [] := by
    cases middle with
    | nil => rfl
    | cons first middle =>
        cases split
        rw [elapsed_append, elapsed_passed] at time
        omega
  rcases List.append_eq_append_iff.mp same with ⟨middle, rfl, split⟩ | ⟨middle, rfl, split⟩
  · rw [shorter split time, List.append_nil]
  · rw [shorter split time.symm, List.append_nil]

end Sweeper

/-! ## A session that is not used any more -/

open Sweeper

/-- An engine that is swept every second. -/
def hastyEngine : Engine MemoryDirectory PasswordHasher :=
  { options := { sweepSeconds := 1 }, accounts := {}, credentials := ⟨{}⟩
    env := { entropy := .arithmetic 0 [] } }

/-- PLAIN is registered, and half a second passes. -/
def hastyStart : List (Happening MemoryDirectory) := [.operated (.registered .plain)] ++ pause 500

/-- A client asks for PLAIN. -/
def hastyFrame : Inbound := .startAuth "U1" "PLAIN" none

/-- The client asks half a second after the start. -/
def hastyOpening : List (Happening MemoryDirectory) :=
  hastyStart ++ [.operated (.frame "hub" hastyFrame)]

theorem reachable_hastyEngine : hastyEngine.Reachable := by
  have created : Engine.create { sweepSeconds := 1 } {} ⟨{}⟩ (.arithmetic 0 []) =
    .ok hastyEngine := rfl
  exact .create created

theorem clocked_hastyEngine (schedule : List (Happening MemoryDirectory)) :
    Clocked hastyEngine schedule :=
  .of_bound (.of_reachable reachable_hastyEngine) rfl schedule

theorem run_hastyOpening : run hastyEngine hastyOpening =
    act ((run hastyEngine [.operated (.registered .plain)]).1.sleep
      (run hastyEngine [.operated (.registered .plain)]).2 500)
      (.operated (.frame "hub" hastyFrame)) := by
  rw [hastyOpening, hastyStart, run_append_singleton, run_append_pause (clocked_hastyEngine _)]

theorem elapsed_hastyOpening : elapsed hastyOpening = 500 := by
  simp [hastyOpening, hastyStart]

theorem not_mem_hastyOpening : .shared false ∉ hastyOpening := by
  simp only [hastyOpening, hastyStart, List.mem_append, List.mem_singleton, reduceCtorEq, false_or,
    or_false]
  intro member
  cases eq_passed_of_mem_pause member

theorem held_hastyOpening (duration : Nat) : Held hastyEngine (hastyOpening ++ pause duration) := by
  refine held_of_not_mem fun member => ?_
  rcases List.mem_append.mp member with member | member
  · exact not_mem_hastyOpening member
  · cases eq_passed_of_mem_pause member

/-- Nobody else uses the engine any more, and the first second comes to its end. -/
def hastyEnding : List (Happening MemoryDirectory) :=
  hastyOpening ++ [.shared false] ++ pause 499

/-- The next millisecond ends the first second, and the sweeper with it. -/
theorem hastyEnding_ends :
    Held hastyEngine hastyEnding ∧ hastyEngine.sweepPeriod ∣ elapsed hastyEnding + 1 ∧
      (run hastyEngine hastyEnding).1.shared = false := by
  have time : elapsed hastyEnding = 999 := by simp [hastyEnding, elapsed_hastyOpening]
  refine ⟨held_of_short (by rw [time]; decide), by rw [time]; decide, ?_⟩
  rw [hastyEnding, run_append_pause (clocked_hastyEngine _), run_append_singleton,
    run_hastyOpening]
  decide +kernel

/-- The uplink says where the client is. -/
def hastyHost : Inbound := .hostInfo "U1" "host" "192.0.2.1" true

/-- The client is heard of again a second after it has asked, and another second passes. -/
def hastyTalk : List (Happening MemoryDirectory) :=
  hastyOpening ++ pause 1000 ++ [.operated (.frame "hub" hastyHost)] ++ pause 1000

/-- In every second that ends meanwhile the client was heard of. -/
theorem touched_hastyTalk {early late : List (Happening MemoryDirectory)}
    (split : hastyTalk = early ++ .passed :: late)
    (tick : hastyEngine.sweepPeriod ∣ elapsed early + 1) : Touched hastyEngine early "U1" := by
  have long : elapsed early + 1 + elapsed late = 2500 := by
    have total : elapsed hastyTalk = 2500 := by
      simp [hastyTalk, elapsed_hastyOpening]
    rw [← total, split, elapsed_append, elapsed_passed]
    omega
  have second : (pause 1000 : List (Happening MemoryDirectory)) =
      pause 499 ++ .passed :: pause 500 := pause_eq_append 499 500
  obtain ⟨count, time⟩ := tick
  rw [show hastyEngine.sweepPeriod = 1000 from rfl] at time
  obtain rfl | rfl : count = 1 ∨ count = 2 := by omega
  · have cut : hastyTalk = hastyOpening ++ pause 499 ++ .passed ::
        (pause 500 ++ [.operated (.frame "hub" hastyHost)] ++ pause 1000) := by
      simp [hastyTalk, second]
    have place : early = hastyOpening ++ pause 499 := by
      refine eq_of_elapsed (split.symm.trans cut) ?_
      rw [elapsed_append, elapsed_hastyOpening, elapsed_pause]
      omega
    rw [place]
    exact .pause hastyEngine hastyStart "hub" hastyFrame (by simp [hastyStart]; decide)
  · have cut : hastyTalk = hastyOpening ++ pause 1000 ++
        [.operated (.frame "hub" hastyHost)] ++ pause 499 ++ .passed :: pause 500 := by
      simp [hastyTalk, second]
    have place : early = hastyOpening ++ pause 1000 ++
        [.operated (.frame "hub" hastyHost)] ++ pause 499 := by
      refine eq_of_elapsed (split.symm.trans cut) ?_
      simp only [elapsed_append, elapsed_hastyOpening, elapsed_pause, elapsed_operated, elapsed_nil]
      omega
    rw [place]
    exact .pause hastyEngine (hastyOpening ++ pause 1000) "hub" hastyHost
      (by simp [elapsed_hastyOpening]; decide)

/-- The first sweep comes at the end of the first second, if anybody but the sweeper uses the engine
then. The client is not heard of any more, and its session is destroyed a second and a half later;
if it is heard of again after a second, its session is not destroyed. -/
theorem collects_idle_hasty :
    hastyEngine.Reachable ∧ hastyEngine.options.validate = .ok () ∧
    ((run hastyEngine (hastyOpening ++ [.passed])).2 = (run hastyEngine hastyOpening).2 ∧
      (run hastyEngine (hastyOpening ++ pause 499 ++ [.passed])).2 =
        sweepEngine (run hastyEngine (hastyOpening ++ pause 499)).2 ∧
      (run hastyEngine (hastyEnding ++ [.passed])).2 =
        (run hastyEngine hastyEnding).2.note .sweeperStopped ∧
      (run hastyEngine (hastyEnding ++ [.passed])).1.finished = true) ∧
    (¬hastyEngine.sweepPeriod ∣ elapsed hastyOpening ∧
      ((run hastyEngine hastyOpening).2.sessions.find? "U1").isSome ∧
      LeftAlone hastyEngine hastyOpening (pause 2000) "U1" ∧
      Held hastyEngine (hastyOpening ++ pause 2000) ∧
      ∃ front back, pause 2000 = front ++ .passed :: back ∧
        1500 < elapsed (hastyOpening ++ front) + 1 ∧
        elapsed (hastyOpening ++ front) + 1 < 2500 ∧
        Collects hastyEngine (hastyOpening ++ front) "U1") ∧
    ((run hastyEngine hastyTalk).2.sessions.find? "U1").isSome ∧
    ∀ early late, hastyTalk = early ++ .passed :: late → ¬Collects hastyEngine early "U1" := by
  obtain ⟨sweeps, collected, spares⟩ := collects_idle reachable_hastyEngine rfl
  have between : ¬hastyEngine.sweepPeriod ∣ elapsed hastyOpening := by
    rw [elapsed_hastyOpening]
    decide
  have present : ((run hastyEngine hastyOpening).2.sessions.find? "U1").isSome := by
    rw [run_hastyOpening]
    decide +kernel
  have ending := hastyEnding_ends
  refine ⟨reachable_hastyEngine, rfl, ⟨?_, ?_, ?_, ?_⟩,
    ⟨between, present, .pause .., held_hastyOpening 2000, ?_⟩, ?_, ?_⟩
  · refine (sweeps hastyOpening).2.2 fun both => ?_
    rw [elapsed_hastyOpening] at both
    exact absurd both.2 (by decide)
  · have tick : hastyEngine.sweepPeriod ∣ elapsed (hastyOpening ++ pause 499) + 1 := by
      rw [elapsed_append, elapsed_hastyOpening, elapsed_pause]
      decide
    have shared : (run hastyEngine (hastyOpening ++ pause 499)).1.shared = true := by
      refine held_hastyOpening 500 _ [] ?_ tick
      rw [List.append_assoc]
      exact congrArg _ (pause_eq_append 499 0)
    rw [(sweeps _).2.1 (held_hastyOpening 499) tick, if_pos shared]
  · rw [(sweeps _).2.1 ending.1 ending.2.1, ending.2.2]
    rfl
  · rw [← Bool.not_eq_false, (sweeps _).1]
    intro held
    have shared := (held_append_singleton.mp held).2 rfl ending.2.1
    rw [ending.2.2] at shared
    cases shared
  · have long : elapsed hastyOpening + 2 * hastyEngine.sweepPeriod ≤
        elapsed (hastyOpening ++ pause 2000) := by
      rw [elapsed_append, elapsed_pause]
      exact Nat.add_le_add_left (by decide) _
    have alone : LeftAlone hastyEngine hastyOpening (pause 2000) "U1" := .pause ..
    have held := held_hastyOpening 2000
    rw [hastyOpening] at between present alone held long
    obtain ⟨front, back, split, after, before, collects⟩ :=
      collected hastyStart "hub" hastyFrame (pause 2000) between present alone held long
    rw [← hastyOpening, elapsed_hastyOpening] at after before
    exact ⟨front, back, split, after, before, collects⟩
  · rw [hastyTalk, run_append_pause (clocked_hastyEngine _), run_append_singleton,
      run_append_pause (clocked_hastyEngine _), run_hastyOpening]
    decide +kernel
  · intro early late split
    exact spares hastyTalk "U1" (fun _ _ split tick _ => touched_hastyTalk split tick) early late
      split

/-- A sweep by hand comes right after the frame of the client, and the session is destroyed at the
end of the first second, half a second after the frame. -/
theorem collects_early_swept :
    let early := hastyOpening ++ [.operated .swept] ++ pause 499
    ((run hastyEngine (hastyOpening ++ [.operated .swept])).2.sessions.find? "U1").isSome ∧
    Held hastyEngine (early ++ [.passed]) ∧
    Collects hastyEngine early "U1" ∧
    elapsed early + 1 < elapsed hastyOpening + hastyEngine.sweepPeriod := by
  have swept : run hastyEngine (hastyOpening ++ [.operated .swept]) =
      act (run hastyEngine hastyOpening) (.operated .swept) := run_append_singleton ..
  intro early
  refine ⟨?_, held_of_not_mem ?_, ⟨?_, ?_⟩, ?_⟩
  · rw [swept, run_hastyOpening]
    decide +kernel
  · simp only [early, List.mem_append, List.mem_singleton, reduceCtorEq, or_false]
    rintro (member | member)
    · exact not_mem_hastyOpening member
    · cases eq_passed_of_mem_pause member
  · rw [run_append_pause (clocked_hastyEngine _), swept, run_hastyOpening]
    decide +kernel
  · rw [run_append_singleton, run_append_pause (clocked_hastyEngine _), swept, run_hastyOpening]
    decide +kernel
  · simp [early, elapsed_hastyOpening, hastyEngine, Engine.sweepPeriod]

end IrcSasl
