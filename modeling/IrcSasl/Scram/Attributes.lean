import IrcSasl.Fields
import IrcSasl.Bytes
import IrcSasl.Text.Quoted

set_option autoImplicit false

/-!
# Attribute lists

SCRAM messages are lists of attributes `name=value` with commas in between (RFC 5802). Names are
single ASCII letters and do not repeat; values are not empty.
-/

namespace IrcSasl.Scram

/-- What is wrong with an attribute list. -/
inductive AttributeError where
  /-- There are no attributes. -/
  | empty
  /-- A name is not an ASCII letter. An empty field counts as having a comma for its name. -/
  | invalidName (byte : UInt8)
  /-- A name repeats. -/
  | duplicate (byte : UInt8)
  /-- A name has no value. -/
  | missingValue (byte : UInt8)
  deriving DecidableEq, Repr

/-- The wording of an error. -/
def AttributeError.message : AttributeError → String
  | .empty => "empty attribute list"
  | .invalidName byte => "invalid attribute name '" ++ Text.escapeByte byte ++ "'"
  | .duplicate byte => s!"duplicated attribute '{Char.ofNat byte.toNat}'"
  | .missingValue byte => s!"attribute '{Char.ofNat byte.toNat}' without value"

/-- Attributes with their values, in the order of the message. -/
abbrev Attributes := List (UInt8 × Bytes)

namespace Attributes

/-- The comma between attributes. -/
def comma : UInt8 := 0x2C

/-- The sign between a name and its value. -/
def equalsSign : UInt8 := 0x3D

/-- Whether a byte is an ASCII letter. -/
def isLetter (byte : UInt8) : Bool :=
  (0x41 ≤ byte && byte ≤ 0x5A) || (0x61 ≤ byte && byte ≤ 0x7A)

/-- The attribute of a field, given the names before it. -/
def readField (before : List UInt8) : Bytes → Except AttributeError (UInt8 × Bytes)
  | [] => .error (.invalidName comma)
  | name :: rest =>
      if !isLetter name then .error (.invalidName name)
      else if before.contains name then .error (.duplicate name)
      else
        match rest with
        | sign :: first :: value =>
            if sign = equalsSign then .ok (name, first :: value) else .error (.missingValue name)
        | _ => .error (.missingValue name)

/-- The attributes of fields, given the names before them. -/
def readFields (before : List UInt8) : List Bytes → Except AttributeError Attributes
  | [] => .ok []
  | field :: fields =>
      match readField before field with
      | .error error => .error error
      | .ok (name, value) =>
          match readFields (name :: before) fields with
          | .error error => .error error
          | .ok attributes => .ok ((name, value) :: attributes)

/-- The attributes of a message. -/
def parse (message : Bytes) : Except AttributeError Attributes :=
  if message.isEmpty then .error .empty else readFields [] (Fields.split comma message)

/-- The message of attributes. -/
def print (attributes : Attributes) : Bytes :=
  Fields.join comma (attributes.map fun (name, value) => name :: equalsSign :: value)

/-- The value of a name. -/
def get? (attributes : Attributes) (name : UInt8) : Option Bytes :=
  (attributes.find? fun entry => entry.1 = name).map (·.2)

end Attributes

end IrcSasl.Scram
