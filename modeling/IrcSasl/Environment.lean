import IrcSasl.Log
import IrcSasl.Mechanism
import IrcSasl.Table

set_option autoImplicit false

/-!
# What lies around negotiations

The random source that negotiations draw from, the log that they write, and what scripted mechanisms
report.
-/

namespace IrcSasl

/-- What lies around negotiations. -/
structure Environment where
  /-- The random source. -/
  entropy : Entropy
  /-- The log, oldest event first. -/
  log : List Log.Event := []
  /-- What scripted mechanisms have reported, oldest first. -/
  reports : List Script.Report := []
  /-- How many messages each scripted mechanism has handled, by its serial number. -/
  rounds : Table Nat Nat := .empty

namespace Environment

/-- Writes an event to the log. -/
def note (env : Environment) (event : Log.Event) : Environment :=
  { env with log := env.log ++ [event] }

/-- Adds a report. -/
def report (env : Environment) (report : Script.Report) : Environment :=
  { env with reports := env.reports ++ [report] }

/-- Draws random bytes. -/
def draw (env : Environment) (length : Nat) : Option Bytes × Environment :=
  let (bytes, entropy) := env.entropy.fill length
  (bytes, { env with entropy })

/-- Forgets the log and the reports. -/
def clear (env : Environment) : Environment := { env with log := [], reports := [] }

end Environment

end IrcSasl
