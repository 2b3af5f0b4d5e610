import IrcSasl.Scram.Exchange

set_option autoImplicit false

/-!
# Mechanisms

The mechanisms that clients can authenticate with, what each keeps in a session between messages,
and what a step of a mechanism comes to. Beside PLAIN, EXTERNAL and SCRAM there are mechanisms that
follow a script, with which every service of a negotiation can be reached, and inert ones that
refuse every message.
-/

namespace IrcSasl

namespace Script

/-- One action of a scripted mechanism. -/
inductive Action where
  /-- Resolves a name as who the client is. -/
  | authcid (name : String)
  /-- Resolves a name as whom the client acts as. -/
  | authzid (name : String)
  /-- Reports the resolved identities. -/
  | identities
  /-- Keeps a text in the session. -/
  | setText (text : String)
  /-- Keeps a number in the session. -/
  | setNumber (number : Nat)
  /-- Extends the text in the session. -/
  | appendText (text : String)
  /-- Reports what is kept in the session. -/
  | state
  /-- Sends the client the mechanisms for an account. -/
  | recalc (id : AccountId) (avoid : List String)
  /-- Reports who the client is to the log. -/
  | info
  /-- Looks a name up. -/
  | find (name : String)
  /-- Gives an account the credential of a hash, in the native layout. -/
  | rewrite (id : AccountId) (hash : String)
  /-- Ends the step: sends the client its own data. -/
  | echo
  /-- Ends the step: sends the client data. -/
  | reply (data : Bytes)
  /-- Ends the step: the client has failed to authenticate. -/
  | failure (data : Bytes)
  /-- Ends the step: the message is refused. -/
  | refuse (data : Bytes)
  /-- Ends the step: the client has authenticated. -/
  | success
  /-- Ends the step as the SCRAM server of the script does. -/
  | scram
  deriving DecidableEq, Repr

/-- What a scripted mechanism reports. -/
inductive Report where
  /-- Who the client is. -/
  | authcid (id : Option AccountId)
  /-- Whom the client acts as. -/
  | authzid (id : Option AccountId)
  /-- The resolved identities. -/
  | identities (authcid authzid : Option Identity)
  /-- Whether there is anything kept in the session, and the text or number that it is. -/
  | state (present : Bool) (text : Option String) (number : Option Nat)
  /-- Who the client is to the log. -/
  | source (description : String)
  /-- The account of a name. -/
  | found (id : Option AccountId)
  /-- The outcome of giving an account a credential, or nothing if the hash has none. -/
  | rewritten (outcome : Option (Except CredentialError Bool))
  /-- The mechanism is released, with something kept in the session or not. -/
  | finished (name : String) (hadState : Bool)

end Script

/-- A mechanism that follows a script. -/
structure Script where
  /-- The name of the mechanism. -/
  name : String
  /-- Whether it authenticates with the password of the account. -/
  passwordBased : Bool
  /-- What it does when it is selected. -/
  start : List Script.Action
  /-- What it does at each message. The last entry serves for all later messages. -/
  steps : List (List Script.Action)
  /-- The SCRAM server that it can hand a message to. -/
  inner : Scram.Server
  deriving DecidableEq, Repr

/-- A mechanism. -/
inductive Mechanism where
  /-- PLAIN (RFC 4616). -/
  | plain
  /-- EXTERNAL (RFC 4422, appendix A). -/
  | external
  /-- SCRAM (RFC 5802, RFC 7677) without channel binding. -/
  | scram (server : Scram.Server)
  /-- A mechanism that follows a script. -/
  | scripted (script : Script)
  /-- A mechanism that refuses every message. -/
  | inert (name : String)
  deriving DecidableEq, Repr

namespace Mechanism

/-- The name by which clients ask for a mechanism. -/
def name : Mechanism → String
  | .plain => "PLAIN"
  | .external => "EXTERNAL"
  | .scram server => server.digest.scramName
  | .scripted script => script.name
  | .inert name => name

/-- Whether a mechanism authenticates with the password of the account. Such mechanisms are hidden
from accounts that do not allow passwords. -/
def passwordBased : Mechanism → Bool
  | .plain => true
  | .external => false
  | .scram _ => true
  | .scripted script => script.passwordBased
  | .inert _ => false

/-- The description of a mechanism. -/
def describe (mechanism : Mechanism) : String := "Mechanism(" ++ Text.quote mechanism.name ++ ")"

end Mechanism

/-- What a mechanism keeps in a session between two messages. -/
inductive MechanismState where
  /-- A SCRAM exchange. -/
  | scram (exchange : Scram.Exchange)
  /-- A text of a script. -/
  | text (text : String)
  /-- A number of a script. -/
  | number (number : Nat)
  deriving DecidableEq, Repr

/-- What a step of a mechanism comes to. -/
inductive Step where
  /-- The data, also if it is empty, goes to the client, and more messages are needed. -/
  | more (data : Bytes)
  /-- The client has authenticated. -/
  | success
  /-- The client has failed to authenticate, which counts against who it said to be. Data that is
  not empty goes to the client first. -/
  | failure (reply : Bytes)
  /-- The message is refused, which counts against nobody. Data that is not empty goes to the client
  first. -/
  | refused (reply : Bytes)
  deriving DecidableEq, Repr

end IrcSasl
