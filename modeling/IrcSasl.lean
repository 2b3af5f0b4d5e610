import IrcSasl.Account.Outage
import IrcSasl.Config.Reader
import IrcSasl.Engine.Handle
import IrcSasl.Sweeper
import IrcSasl.Proofs.Engine.Sessions
import IrcSasl.Proofs.Mechanism.Identities
import IrcSasl.Proofs.Mechanism.Steps
import IrcSasl.Proofs.Engine.Reply
import IrcSasl.Proofs.Engine.Run
import IrcSasl.Proofs.Engine.Sound
import IrcSasl.Proofs.Negotiation
import IrcSasl.Proofs.Bytes
import IrcSasl.Proofs.Engine.Turns
import IrcSasl.Proofs.Scram.Transcript
import IrcSasl.Proofs.Scram.Soundness
import IrcSasl.Proofs.Engine.Login
import IrcSasl.Proofs.Text.Names
import IrcSasl.Proofs.Frames
import IrcSasl.Proofs.Credential
import IrcSasl.Proofs.Account.Memory
import IrcSasl.Proofs.Engine.Receive
import IrcSasl.Proofs.Scram.Attributes
import IrcSasl.Proofs.Scram.Client
import IrcSasl.Proofs.Scram.Completeness
import IrcSasl.Proofs.Engine.Penalty
import IrcSasl.Proofs.Account.Operations
import IrcSasl.Proofs.Mechanism.Effects
import IrcSasl.Proofs.Engine.Verdict
import IrcSasl.Proofs.Engine.Policy
import IrcSasl.Proofs.Engine.Directory
import IrcSasl.Proofs.Engine.Deferred
import IrcSasl.Proofs.Engine.Ceiling
import IrcSasl.Proofs.Scram.Upgrade
import IrcSasl.Proofs.Engine.Registry
import IrcSasl.Proofs.Engine.Configuration
import IrcSasl.Proofs.Engine.Origin
import IrcSasl.Proofs.Engine.Consistency
import IrcSasl.Proofs.Scram.Challenge
import IrcSasl.Proofs.Scram.Decoy
import IrcSasl.Proofs.Scram.Disguise
import IrcSasl.Proofs.Engine.Delivery
import IrcSasl.Proofs.Engine.Binding
import IrcSasl.Proofs.Engine.Exclusive
import IrcSasl.Proofs.Engine.Sweeping
import IrcSasl.Proofs.Engine.Answers
import IrcSasl.Proofs.Engine.Announcements
import IrcSasl.Proofs.Scram.Replay
import IrcSasl.Proofs.Engine.Isolation
import IrcSasl.Proofs.Mechanism.Parallel
import IrcSasl.Proofs.Mechanism.Storage
import IrcSasl.Proofs.Engine.Commutation
import IrcSasl.Proofs.Account.Index
import IrcSasl.Proofs.Account.Logins
import IrcSasl.Proofs.Base64
import IrcSasl.Proofs.Credential.RoundTrip
import IrcSasl.Proofs.Credential.Layouts
import IrcSasl.Proofs.Scram.Grammar
import IrcSasl.Proofs.Scram.Final
import IrcSasl.Proofs.Mechanism.Naming
import IrcSasl.Proofs.Mechanism.Plain
import IrcSasl.Proofs.Engine.Log
import IrcSasl.Proofs.Engine.Alarms
import IrcSasl.Proofs.Account.Certificates
import IrcSasl.Proofs.Engine.Certificates
import IrcSasl.Proofs.Scram.Signed
import IrcSasl.Proofs.Credential.Grammar
import IrcSasl.Proofs.Frames.History
import IrcSasl.Proofs.Text.Escapes
import IrcSasl.Proofs.Scram.Faults
import IrcSasl.Proofs.Frames.Cursor
import IrcSasl.Proofs.Engine.Listing
import IrcSasl.Proofs.Text.Casemap
import IrcSasl.Proofs.Scram.Spellings
import IrcSasl.Proofs.Sweeper.Clock
import IrcSasl.Proofs.Sweeper.Collection
