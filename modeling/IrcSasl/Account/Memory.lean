import IrcSasl.Account.Directory
import IrcSasl.Table
import IrcSasl.Text.Casemap
import IrcSasl.Text.SaslPrep

set_option autoImplicit false

/-!
# A directory in memory

Accounts are found by name whatever way the name is written: names are compared after SASLprep and
casemapping. Beside privileges, hooks can let accounts act as others or refuse logins.
-/

namespace IrcSasl

/-- A directory that keeps all accounts in memory. -/
structure MemoryDirectory where
  /-- How names are compared. -/
  casemap : Text.Casemap := default
  /-- The accounts, oldest first. -/
  accounts : Table AccountId Account := .empty
  /-- The account of each name, by the form in which names are compared. -/
  names : Table String AccountId := .empty
  /-- The number of the next account. -/
  nextNumber : Nat := 1
  /-- How many clients may be logged into one account at once. -/
  maxLogins : Nat := 5
  /-- Checks that let one account act as another. -/
  impersonateHooks : List (Account → Account → Bool) := []
  /-- Checks that may refuse a login. -/
  admissionHooks : List (Account → Admission) := []
  /-- The users on the network. -/
  online : List String := []
  /-- The account that each user is logged into. -/
  loggedIn : Table String AccountId := .empty
  /-- The failed attempts at each account that has any, modulo 2³². -/
  badPasswords : Table AccountId UInt32 := .empty

namespace MemoryDirectory

/-- The form in which a name is compared, if the name has one. -/
def key (directory : MemoryDirectory) (name : String) : Option String :=
  (Text.prepareName name).map directory.casemap.fold

/-- Registers an account. Fails if its name is taken or cannot be prepared. A password that starts
with a dollar sign is taken for a hash. -/
def register (directory : MemoryDirectory) (name : String) (password : Option String) :
    Option (AccountId × MemoryDirectory) :=
  match directory.key name with
  | none => none
  | some key =>
      if directory.names.contains key then none
      else
        let id : AccountId := ⟨directory.nextNumber⟩
        let crypt := password.any fun password => password.toList.head? = some '$'
        some (id,
          { directory with
            nextNumber := directory.nextNumber + 1
            names := directory.names.insert key id
            accounts := directory.accounts.insert id { id, name, password, crypt } })

/-- Drops an account, with its name, its logins and its failed attempts. -/
def drop (directory : MemoryDirectory) (id : AccountId) : Option (Account × MemoryDirectory) :=
  match directory.accounts.find? id with
  | none => none
  | some account =>
      some (account,
        { directory with
          accounts := directory.accounts.erase id
          names :=
            match directory.key account.name with
            | some key => directory.names.erase key
            | none => directory.names
          loggedIn := directory.loggedIn.filter fun _ other => other ≠ id
          badPasswords := directory.badPasswords.erase id })

/-- The account of an identifier. -/
def find? (directory : MemoryDirectory) (id : AccountId) : Option Account :=
  directory.accounts.find? id

/-- The account of a name. -/
def findName? (directory : MemoryDirectory) (name : String) : Option Account :=
  match (directory.key name).bind directory.names.find? with
  | some id => directory.accounts.find? id
  | none => none

/-- The oldest account that a client certificate belongs to. -/
def findCertfp? (directory : MemoryDirectory) (certfp : String) : Option Account :=
  directory.accounts.values.find? fun account => account.ownsCertificate certfp

/-- Changes an account by hand, in whatever way. -/
def revise (directory : MemoryDirectory) (id : AccountId) (change : Account → Account) :
    MemoryDirectory :=
  { directory with accounts := directory.accounts.modify id change }

/-- Sets how many clients may be logged into one account at once. -/
def setMaxLogins (directory : MemoryDirectory) (max : Nat) : MemoryDirectory :=
  { directory with maxLogins := max }

/-- Adds a check that lets accounts act as others. -/
def addImpersonateHook (directory : MemoryDirectory) (hook : Account → Account → Bool) :
    MemoryDirectory :=
  { directory with impersonateHooks := directory.impersonateHooks ++ [hook] }

/-- Adds a check that may refuse logins. -/
def addAdmissionHook (directory : MemoryDirectory) (hook : Account → Admission) :
    MemoryDirectory :=
  { directory with admissionHooks := directory.admissionHooks ++ [hook] }

/-- Notes that a user is on the network. -/
def setOnline (directory : MemoryDirectory) (uid : String) : MemoryDirectory :=
  { directory with online := directory.online.insert uid }

/-- The account that a user is logged into. -/
def loggedInAs? (directory : MemoryDirectory) (uid : String) : Option AccountId :=
  directory.loggedIn.find? uid

/-- How many attempts at an account have failed. -/
def badPasswordCount (directory : MemoryDirectory) (id : AccountId) : UInt32 :=
  (directory.badPasswords.find? id).getD 0

/-- Whether one account may log in as another, by privilege or by a hook. -/
def canImpersonate (directory : MemoryDirectory) (source target : Account) : Bool :=
  source.mayImpersonate target || directory.impersonateHooks.any fun hook => hook source target

/-- The first refusal among the answers of hooks. -/
def firstRefusal (account : Account) : List (Account → Admission) → Admission
  | [] => .allow
  | hook :: rest =>
      match hook account with
      | .allow => firstRefusal account rest
      | .deny reason => .deny reason

/-- Whether an account may be logged into now. -/
def admission (directory : MemoryDirectory) (account : Account) : Admission :=
  if account.frozen then .deny "frozen"
  else if directory.maxLogins ≤ account.logins then .deny "too many logins"
  else firstRefusal account directory.admissionHooks

/-- Notes a failed attempt at an account, if there is such an account. -/
def badPassword (directory : MemoryDirectory) (id : AccountId) : MemoryDirectory :=
  if directory.accounts.contains id then
    { directory with
      badPasswords := directory.badPasswords.insert id (directory.badPasswordCount id + 1) }
  else directory

/-- Replaces the stored hash of an account. -/
def setPassword (directory : MemoryDirectory) (id : AccountId) (hash : String) :
    Bool × MemoryDirectory :=
  match directory.accounts.find? id with
  | none => (false, directory)
  | some account =>
      (true,
        { directory with
          accounts := directory.accounts.insert id
            { account with password := some hash, crypt := true } })

/-- Logs a user into an account, and out of the one it was logged into before. -/
def login (directory : MemoryDirectory) (uid : String) (id : AccountId) :
    Bool × MemoryDirectory :=
  match directory.accounts.find? id with
  | none => (false, directory)
  | some account =>
      let entered := directory.accounts.insert id { account with logins := account.logins + 1 }
      (true,
        { directory with
          loggedIn := directory.loggedIn.insert uid id
          accounts :=
            match directory.loggedIn.find? uid with
            | none => entered
            | some old => entered.modify old fun left => { left with logins := left.logins - 1 } })

instance : AccountDirectory MemoryDirectory where
  findByName := findName?
  findById := find?
  findByCertfp := findCertfp?
  canImpersonate := canImpersonate
  admission := admission
  badPassword := badPassword
  setPassword := setPassword
  userOnline directory uid := directory.online.contains uid
  login := login

/-- The description of a directory. -/
def describe (directory : MemoryDirectory) : String :=
  s!"MemoryDirectory \x7b casemap: {directory.casemap.label}, " ++
    s!"accounts: {directory.accounts.size}, max_logins: {directory.maxLogins}, .. \x7d"

end MemoryDirectory

end IrcSasl
