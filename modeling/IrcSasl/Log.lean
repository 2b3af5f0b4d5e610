import IrcSasl.Credential
import IrcSasl.Frame.Decoder
import IrcSasl.Scram.Fault

set_option autoImplicit false

/-!
# The log

What the engine, its mechanisms and its sweeper report. An event holds what happened; `Event.line`
is its line in the log.
-/

namespace IrcSasl.Log

/-- How much an event matters. -/
inductive Level where
  | error
  | warn
  | info
  | debug
  deriving DecidableEq, Repr

/-- The name of a level. -/
def Level.name : Level → String
  | .error => "ERROR"
  | .warn => "WARN"
  | .info => "INFO"
  | .debug => "DEBUG"

/-- What is reported about a negotiation in general. -/
inductive ClientNote where
  /-- The client names a mechanism with a name that is too long. -/
  | mechanismNameTooLong
  /-- The client asks for a mechanism while it uses one. -/
  | mechanismBusy (current : String)
  /-- The client asks for a mechanism that there is not. -/
  | unknownMechanism (name : String)
  /-- The client sends data before it asked for a mechanism. -/
  | dataWithoutMechanism
  /-- The client gives up. -/
  | aborted
  /-- The frames of the client cannot be put together. -/
  | frame (cause : Frame.FrameError)
  /-- A negotiation is run without a mechanism. -/
  | missingMechanism
  /-- The client has not authenticated as the account. -/
  | badPassword (mechanism account : String)
  /-- Whom to act as is to be resolved before who the client is. -/
  | authzidFirst
  /-- The account cannot be logged into. -/
  | loginRefused (account reason : String)
  /-- The message of the client does not have the form of its mechanism. -/
  | malformed (mechanism : String)
  /-- Who the client says to be cannot log in. -/
  | authcidRefused
  /-- Whom the client wants to act as cannot be logged in as. -/
  | authzidRefused
  /-- The account does not allow passwords. -/
  | passwordDisabled (account : String)
  /-- The client has no certificate. -/
  | noCertificate
  /-- The certificate of the client belongs to no account. -/
  | unknownCertificate (certfp : String)
  deriving DecidableEq, Repr

namespace ClientNote

/-- How much a note matters. -/
def level : ClientNote → Level
  | .missingMechanism => .error
  | .badPassword _ _ | .loginRefused _ _ => .info
  | _ => .debug

/-- The wording of a note. -/
def message : ClientNote → String
  | .mechanismNameTooLong => "mechanism name too long"
  | .mechanismBusy current => s!"mechanism requested while using {current}"
  | .unknownMechanism name => "no mechanism " ++ Text.quote name
  | .dataWithoutMechanism => "data without a mechanism"
  | .aborted => "client aborted"
  | .frame cause => cause.message
  | .missingMechanism => "session has no mechanism (BUG)"
  | .badPassword mechanism account => s!"failed LOGIN ({mechanism}) to {account} (bad password)"
  | .authzidFirst => "authzid before authcid"
  | .loginRefused account reason => s!"failed LOGIN to {account} ({reason})"
  | .malformed mechanism => s!"malformed {mechanism} message"
  | .authcidRefused => "authcid_can_login failed"
  | .authzidRefused => "authzid_can_login failed"
  | .passwordDisabled account => s!"password authentication disabled for {account}"
  | .noCertificate => "no client certificate"
  | .unknownCertificate certfp => s!"no account with fingerprint {certfp}"

end ClientNote

/-- What is reported about a SCRAM exchange. -/
inductive ScramNote where
  /-- A message is not accepted. -/
  | fault (cause : Scram.Fault)
  /-- The names in the first message. -/
  | parsed (authcid : String) (authzid : Option String)
  /-- The client names no account and is shown a made-up credential. -/
  | mockCredential (authcid : String)
  /-- The proof is wrong. -/
  | proofMismatch
  /-- The proof is right. -/
  | authenticated
  /-- The stored hash is about to get the native layout. -/
  | converting
  /-- The stored hash has got the native layout. -/
  | converted
  /-- The stored hash cannot be given the native layout. -/
  | conversionFailed (cause : CredentialError)
  deriving DecidableEq, Repr

namespace ScramNote

/-- How much a note matters. -/
def level : ScramNote → Level
  | .fault cause => if cause.isInternal then .error else .debug
  | .converting => .info
  | .conversionFailed _ => .error
  | _ => .debug

/-- The wording of a note. -/
def message : ScramNote → String
  | .fault cause => cause.message
  | .parsed authcid authzid =>
      "parsed authcid " ++ Text.quote authcid ++ ", authzid " ++ Text.quoteOption authzid
  | .mockCredential authcid => s!"no account {authcid}, using a mock credential"
  | .proofMismatch => "StoredKey mismatch; incorrect password?"
  | .authenticated => "authentication successful"
  | .converting => "login succeeded, converting hash to SCRAM format"
  | .converted => "hash converted"
  | .conversionFailed cause => s!"could not encode SCRAM hash: {cause.message} (BUG)"

end ScramNote

/-- Something that happened. -/
inductive Event where
  /-- A session begins. -/
  | sessionCreated (id server : String)
  /-- A session is destroyed whose login was waiting for its client. -/
  | loginExpired (source account : String)
  /-- A session was idle for too long. -/
  | sessionStale (id : String)
  /-- A session loses the mechanism that it uses. -/
  | sessionUnbound (id mechanism : String)
  /-- A frame is for a session that there is not. -/
  | sessionUnknown (id : String)
  /-- A mechanism cannot be registered because its name is too long. -/
  | mechanismNameTooLong (name : String)
  /-- A mechanism cannot be registered because its name is taken. -/
  | mechanismNameTaken (name : String)
  /-- A mechanism is registered. -/
  | mechanismRegistered (name : String)
  /-- A mechanism is unregistered. -/
  | mechanismUnregistered (name : String)
  /-- An iteration count is higher than Cyrus SASL clients accept. -/
  | cyrusLimitExceeded (iterations : UInt32)
  /-- A note about a negotiation. -/
  | client (source : String) (note : ClientNote)
  /-- A note about a SCRAM exchange. -/
  | scram (source : String) (note : ScramNote)
  /-- An authenticated client may not log into an account. -/
  | loginDenied (user account reason : String)
  /-- An authenticated client may not act as another account. -/
  | impersonateDenied (user source target : String)
  /-- An authenticated client acts as another account. -/
  | impersonateAllowed (user source target : String)
  /-- A user is logged in. -/
  | login (uid mechanism account : String)
  /-- The account of a user is not there at its login. -/
  | loginVanished (uid account : String)
  /-- The sweeper ends because nobody uses the engine. -/
  | sweeperStopped
  /-- The sweeper has destroyed sessions. -/
  | swept (count : Nat)
  deriving DecidableEq, Repr

namespace Event

/-- How much an event matters. -/
def level : Event → Level
  | .mechanismNameTooLong _ | .mechanismNameTaken _ | .cyrusLimitExceeded _ => .warn
  | .client _ note => note.level
  | .scram _ note => note.level
  | .loginExpired _ _ | .loginDenied _ _ _ | .impersonateDenied _ _ _ | .impersonateAllowed _ _ _
  | .login _ _ _ | .loginVanished _ _ => .info
  | _ => .debug

/-- The part of the program that reports an event. -/
def target : Event → String
  | .scram _ _ => "saslserv::scram"
  | _ => "saslserv"

/-- The wording of an event. -/
def message : Event → String
  | .sessionCreated id server => s!"new session {id} from {server}"
  | .loginExpired source account => s!"{source}: LOGIN to {account} (session timed out)"
  | .sessionStale id => s!"destroying stale session {id}"
  | .sessionUnbound id mechanism => s!"destroying session {id} using {mechanism}"
  | .sessionUnknown id => s!"{id}: frame for unknown session"
  | .mechanismNameTooLong name => "mechanism name " ++ Text.quote name ++ " is too long"
  | .mechanismNameTaken name => s!"mechanism {name} is already registered"
  | .mechanismRegistered name => s!"registering {name}"
  | .mechanismUnregistered name => s!"unregistering {name}"
  | .cyrusLimitExceeded iterations =>
      s!"iteration count {iterations} is higher than {Limits.cyrusIterations}, " ++
        "which Cyrus SASL clients will refuse"
  | .client source note => source ++ ": " ++ note.message
  | .scram source note => source ++ ": " ++ note.message
  | .loginDenied user account reason => s!"<{user}> failed LOGIN to {account} ({reason})"
  | .impersonateDenied user source target =>
      s!"<{user}> denied IMPERSONATE by {source} to {target}"
  | .impersonateAllowed user source target =>
      s!"<{user}> allowed IMPERSONATE by {source} to {target}"
  | .login uid mechanism account => s!"{uid}: LOGIN ({mechanism}) to {account}"
  | .loginVanished uid account => s!"{uid}: account {account} vanished before login"
  | .sweeperStopped => "engine dropped, stopping sweeper"
  | .swept count => s!"swept {count} stale sessions"

/-- The line of an event in the log. -/
def line (event : Event) : String :=
  event.level.name ++ " " ++ event.target ++ ": " ++ event.message

end Event

end IrcSasl.Log
