import IrcSasl.Account
import IrcSasl.Credential

set_option autoImplicit false

/-!
# Account directories

The directory of accounts that clients authenticate as. Negotiations keep identifiers and look the
accounts up again, so that an account that goes away meanwhile is noticed.
-/

namespace IrcSasl

/-- A directory of accounts. -/
class AccountDirectory (D : Type) where
  /-- The account of a name. -/
  findByName (directory : D) (name : String) : Option Account
  /-- The account of an identifier. -/
  findById (directory : D) (id : AccountId) : Option Account
  /-- The account that a client certificate belongs to. -/
  findByCertfp (directory : D) (certfp : String) : Option Account := none
  /-- Whether one account may log in as another. Asked only of two that differ. -/
  canImpersonate (directory : D) (source target : Account) : Bool
  /-- Whether an account may be logged into now. -/
  admission (directory : D) (account : Account) : Admission
  /-- Notes a failed attempt to authenticate as an account. -/
  badPassword (directory : D) (id : AccountId) : D
  /-- Replaces the stored hash of an account; tells whether there is such an account. -/
  setPassword (directory : D) (id : AccountId) (hash : String) : Bool × D
  /-- Whether a user is on the network. -/
  userOnline (directory : D) (uid : String) : Bool := false
  /-- Logs a user into an account; tells whether there is such an account. -/
  login (directory : D) (uid : String) (id : AccountId) : Bool × D

/-- Stores a credential for an account, in the native layout. Tells whether there is such an
account. -/
def AccountDirectory.rewrite {D : Type} [AccountDirectory D] (directory : D) (id : AccountId)
    (credential : Credential) : Except CredentialError Bool × D :=
  match credential.encode with
  | .error error => (.error error, directory)
  | .ok hash =>
      let (known, directory) := setPassword directory id hash
      (.ok known, directory)

end IrcSasl
