import IrcSasl.Digest
import IrcSasl.Limits

set_option autoImplicit false

/-!
# Configuration

The options of the negotiation engine and of password hashing, their defaults, and the ranges that
they have to keep to.
-/

namespace IrcSasl

/-- What is wrong with an option. -/
inductive ConfigError where
  /-- A number is out of its range. -/
  | outOfRange (option : String) (value min max : Nat)
  /-- A name stands for nothing. -/
  | unknown (option value : String)
  deriving DecidableEq, Repr

/-- The wording of an error. -/
def ConfigError.message : ConfigError → String
  | .outOfRange option value min max => s!"{option} is {value}, must be between {min} and {max}"
  | .unknown option value => s!"unknown {option}: \"{value}\""

/-- Checks that a number is in its range. -/
def checkRange (option : String) (value min max : Nat) : Except ConfigError Unit :=
  if min ≤ value ∧ value ≤ max then .ok () else .error (.outOfRange option value min max)

/-- The options of the negotiation engine. -/
structure Options where
  /-- The seconds between two sweeps for idle sessions. -/
  sweepSeconds : Nat := Limits.sweepSeconds
  /-- Whether names of servers are left out of what users get to see. -/
  hideServerNames : Bool := false
  deriving DecidableEq, Repr

/-- Checks that every option is in its range. -/
def Options.validate (options : Options) : Except ConfigError Unit :=
  checkRange "sweep_secs" options.sweepSeconds 1 3600

/-- The description of the options. -/
def Options.describe (options : Options) : String :=
  s!"Options \x7b sweep_secs: {options.sweepSeconds}, " ++
    s!"hide_server_names: {options.hideServerNames} \x7d"

/-- The options of password hashing. The digest also selects which SCRAM mechanism is offered. -/
structure HashOptions where
  /-- The digest of new hashes. -/
  digest : Digest := default
  /-- The iteration count of new hashes. -/
  iterations : UInt32 := Limits.iterationsDefault
  /-- The salt length of new hashes, in bytes. -/
  saltLength : Nat := Limits.saltLengthDefault
  deriving DecidableEq, Repr

namespace HashOptions

/-- Sets the digest by name. -/
def setDigest (options : HashOptions) (name : String) : Except ConfigError HashOptions :=
  match Digest.ofName? name with
  | some digest => .ok { options with digest }
  | none => .error (.unknown "digest" name)

/-- Checks that every option is in its range. -/
def validate (options : HashOptions) : Except ConfigError Unit :=
  match checkRange "iterations" options.iterations.toNat Limits.iterationsMin.toNat
      Limits.iterationsMax.toNat with
  | .error error => .error error
  | .ok () => checkRange "salt_len" options.saltLength Limits.saltLengthMin Limits.saltLengthMax

/-- Whether the iteration count is higher than Cyrus SASL clients accept. -/
def exceedsCyrusLimit (options : HashOptions) : Bool := Limits.cyrusIterations < options.iterations

/-- The description of the options. -/
def describe (options : HashOptions) : String :=
  s!"Pbkdf2Options \x7b digest: {options.digest.label}, iterations: {options.iterations}, " ++
    s!"salt_len: {options.saltLength} \x7d"

end HashOptions

end IrcSasl
