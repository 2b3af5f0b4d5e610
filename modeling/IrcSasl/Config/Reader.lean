import IrcSasl.Config
import IrcSasl.Config.Json
import IrcSasl.Text.Casemap

set_option autoImplicit false

/-!
# Reading options from JSON

Options are written as an object, or as an array with the options in order. Options that are left
out keep their defaults and keys that stand for nothing are skipped, but no option may stand twice,
and an array may not hold more than there are options. Digests and casemaps are written as their
names, or as an object that maps the name to null.
-/

namespace IrcSasl.Config

/-- The natural number below `bound` that a value is. -/
def natural? (bound : Nat) : Json → Option Nat
  | .natural value => if value < bound then some value else none
  | _ => none

/-- The truth value that a value is. -/
def bool? : Json → Option Bool
  | .bool value => some value
  | _ => none

/-- The name that stands for one of several choices. -/
def choice? : Json → Option String
  | .text name => some name
  | .object [(.text name, .null)] => some name
  | _ => none

/-- The digest that a value stands for. -/
def digest? (value : Json) : Option Digest := (choice? value).bind Digest.ofExactName?

/-- The casemap that a value stands for. -/
def casemap? (value : Json) : Option Text.Casemap :=
  (choice? value).bind fun name => Text.Casemap.ofName? (Bytes.ofString name)

/-- The values that options are read from: for each option those that stand for it. -/
inductive Source where
  /-- The members of an object. -/
  | keyed (members : List (String × Json))
  /-- The elements of an array. -/
  | ordered (elements : List Json)

/-- The members of an object whose keys are all texts. -/
def textMembers : List (Json × Json) → Option (List (String × Json))
  | [] => some []
  | (.text key, value) :: rest => (textMembers rest).map ((key, value) :: ·)
  | _ => none

/-- The source that a value is, for the given number of options. -/
def source? (count : Nat) : Json → Option Source
  | .object members => (textMembers members).map .keyed
  | .array elements => if elements.length ≤ count then some (.ordered elements) else none
  | _ => none

/-- Reads one option, given its name and its place among the options. -/
def Source.option {α : Type} (source : Source) (name : String) (place : Nat)
    (read : Json → Option α) (fallback : α) : Option α :=
  let values := match source with
    | .keyed members => (members.filter fun member => member.1 = name).map (·.2)
    | .ordered elements => elements[place]?.toList
  match values with
  | [] => some fallback
  | [value] => read value
  | _ => none

/-- The engine options that a value stands for. -/
def options? (value : Json) : Option Options := do
  let source ← source? 2 value
  let sweepSeconds ← source.option "sweep_secs" 0 (natural? UInt64.size) Limits.sweepSeconds
  let hideServerNames ← source.option "hide_server_names" 1 bool? false
  pure { sweepSeconds, hideServerNames }

/-- The hashing options that a value stands for. -/
def hashOptions? (value : Json) : Option HashOptions := do
  let source ← source? 3 value
  let digest ← source.option "digest" 0 digest? default
  let iterations ← source.option "iterations" 1
    (fun value => (natural? UInt32.size value).map UInt32.ofNat) Limits.iterationsDefault
  let saltLength ← source.option "salt_len" 2 (natural? UInt64.size) Limits.saltLengthDefault
  pure { digest, iterations, saltLength }

end IrcSasl.Config
