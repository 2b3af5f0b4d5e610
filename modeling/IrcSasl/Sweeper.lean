import IrcSasl.Engine.Basic

set_option autoImplicit false

/-!
# The sweeper

The sweeper is a timer that sweeps the sessions of an engine once in a period, from one period after
its start on, until nobody else uses the engine. While somebody holds the engine for themselves it
waits. Sweeps that were missed meanwhile are made up for by at most one, and the later ones keep to
the multiples of the period. Times are in milliseconds.
-/

namespace IrcSasl

/-- The sweeper of an engine. -/
structure Sweeper where
  /-- The time between two sweeps. -/
  period : Nat
  /-- The time since the start. -/
  now : Nat := 0
  /-- When the sweeper wakes next. -/
  due : Nat
  /-- Whether somebody else uses the engine. -/
  shared : Bool := true
  /-- Whether the sweeper has ended. -/
  finished : Bool := false
  deriving DecidableEq, Repr

namespace Sweeper

variable {D C : Type}

/-- The sweeper of an engine at its start. -/
def start (options : Options) : Sweeper :=
  let period := options.sweepSeconds * 1000
  { period, due := period }

/-- Sweeps the engine. -/
def sweepEngine (engine : Engine D C) : Engine D C :=
  match engine.sweep with
  | (0, engine) => engine
  | (destroyed, engine) => engine.note (.swept destroyed)

/-- Wakes up: sweeps, or ends if nobody else uses the engine. -/
def wake (sweeper : Sweeper) (engine : Engine D C) : Sweeper × Engine D C :=
  if sweeper.finished then (sweeper, engine)
  else if !sweeper.shared then ({ sweeper with finished := true }, engine.note .sweeperStopped)
  else ({ sweeper with due := sweeper.due + sweeper.period }, sweepEngine engine)

/-- How often the sweeper falls due up to a time. -/
def wakesUntil (sweeper : Sweeper) (time : Nat) : Nat :=
  if time < sweeper.due then 0 else (time - sweeper.due) / sweeper.period + 1

/-- Wakes up a number of times, or until it has ended. -/
def wakes : Nat → Sweeper → Engine D C → Sweeper × Engine D C
  | 0, sweeper, engine => (sweeper, engine)
  | count + 1, sweeper, engine =>
      let (sweeper, engine) := sweeper.wake engine
      if sweeper.finished then (sweeper, engine) else wakes count sweeper engine

/-- Time passes. -/
def sleep (sweeper : Sweeper) (engine : Engine D C) (duration : Nat) : Sweeper × Engine D C :=
  let time := sweeper.now + duration
  let (sweeper, engine) := wakes (sweeper.wakesUntil time) sweeper engine
  ({ sweeper with now := time }, engine)

/-- Time passes while somebody holds the engine. If the sweeper falls due meanwhile it sweeps at the
end, and once more if it has fallen due more than once. -/
def hold (sweeper : Sweeper) (engine : Engine D C) (duration : Nat) : Sweeper × Engine D C :=
  let time := sweeper.now + duration
  let missed := sweeper.wakesUntil time
  let (after, engine) := wakes (min missed 2) sweeper engine
  let due := if after.finished then after.due else sweeper.due + missed * sweeper.period
  ({ after with now := time, due }, engine)

/-- Everybody else stops using the engine. -/
def release (sweeper : Sweeper) : Sweeper := { sweeper with shared := false }

end Sweeper

end IrcSasl
