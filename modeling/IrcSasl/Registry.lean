import IrcSasl.Environment
import IrcSasl.Limits

set_option autoImplicit false

/-!
# The registry of mechanisms

The mechanisms that clients can ask for, in the order of their registration. Each registration has a
serial number of its own, so that a session can tell the mechanism that it uses from a later one of
the same name. The lists that clients get to see leave out whole names that do not fit into a frame.
The list of all mechanisms is kept beside them, and is made anew whenever one comes or goes.
-/

namespace IrcSasl

/-- A mechanism as it is registered. -/
structure Registration where
  /-- The serial number of the registration. -/
  serial : Nat
  /-- The mechanism. -/
  mechanism : Mechanism
  deriving DecidableEq, Repr

/-- The name of a registered mechanism. -/
def Registration.name (registration : Registration) : String := registration.mechanism.name

/-- The mechanisms that clients can ask for. -/
structure Registry where
  /-- The registrations, oldest first. -/
  entries : List Registration := []
  /-- The list of all mechanisms. -/
  mechlist : String := ""
  /-- The serial number of the next registration. -/
  nextSerial : Nat := 0
  deriving DecidableEq, Repr

/-- Adds names to a list with commas in between, up to the first that does not fit into a frame. -/
def appendNames (list : String) : List String → String
  | [] => list
  | name :: rest =>
      let longer := if list.isEmpty then name else list ++ "," ++ name
      if Limits.frameLength ≤ longer.utf8ByteSize then list else appendNames longer rest

/-- The names that fit into a frame, with commas in between. -/
def joinNames (names : List String) : String := appendNames "" names

namespace Registry

/-- How many mechanisms are registered. -/
def size (registry : Registry) : Nat := registry.entries.length

/-- Whether no mechanism is registered. -/
def isEmpty (registry : Registry) : Bool := registry.entries.isEmpty

/-- The registration of a name. -/
def find? (registry : Registry) (name : String) : Option Registration :=
  registry.entries.find? fun entry => entry.name = name

/-- The names of the mechanisms. -/
def names (registry : Registry) : List String := registry.entries.map Registration.name

/-- The list of the mechanisms that suit an account, without those to avoid. -/
def mechlistFor (registry : Registry) (account : Account) (avoid : List String) : String :=
  joinNames <|
    ((registry.entries.filter fun entry =>
      !(account.noPassword && entry.mechanism.passwordBased)).map Registration.name).filter
        fun name => !avoid.contains name

/-- The registry with the list of all mechanisms made anew. -/
def rebuild (registry : Registry) : Registry :=
  { registry with mechlist := joinNames registry.names }

/-- The registry with a mechanism added at the end. -/
def push (registry : Registry) (mechanism : Mechanism) : Registry :=
  rebuild
    { registry with
      entries := registry.entries ++ [⟨registry.nextSerial, mechanism⟩]
      nextSerial := registry.nextSerial + 1 }

/-- Registers a mechanism and tells whether it was. Its name must be neither too long nor taken. -/
def register (registry : Registry) (mechanism : Mechanism) (env : Environment) :
    Bool × Registry × Environment :=
  let name := mechanism.name
  if Limits.mechanismNameLength < name.utf8ByteSize then
    (false, registry, env.note (.mechanismNameTooLong name))
  else if (registry.find? name).isSome then
    (false, registry, env.note (.mechanismNameTaken name))
  else (true, registry.push mechanism, env.note (.mechanismRegistered name))

/-- Unregisters a mechanism, if there is one of that name. -/
def unregister (registry : Registry) (name : String) (env : Environment) :
    Option Mechanism × Registry × Environment :=
  match registry.find? name with
  | none => (none, registry, env)
  | some entry =>
      (some entry.mechanism,
        rebuild { registry with entries := registry.entries.eraseP fun entry => entry.name = name },
        env.note (.mechanismUnregistered name))

/-- The description of a registry. -/
def describe (registry : Registry) : String :=
  "[" ++ String.intercalate ", " (registry.names.map Text.quote) ++ "]"

end Registry

end IrcSasl
