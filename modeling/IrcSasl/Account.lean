set_option autoImplicit false

/-!
# Accounts

What a registered account holds, whether it may be logged into, and the privileges by which one
account may act as another.
-/

namespace IrcSasl

/-- The identifier of an account. Unlike names, identifiers never change and are not used again. -/
structure AccountId where
  /-- The number of the account. -/
  number : Nat
  deriving DecidableEq, Repr

namespace AccountId

/-- An identifier with nine digits. -/
def display (id : AccountId) : String :=
  let digits := toString id.number
  String.ofList (List.replicate (9 - digits.length) '0') ++ digits

/-- The description of an identifier. -/
def describe (id : AccountId) : String := s!"AccountId({id.number})"

end AccountId

/-- A registered account. -/
structure Account where
  /-- The identifier. -/
  id : AccountId
  /-- The name as registered. -/
  name : String
  /-- The stored password or password hash, if there is one. -/
  password : Option String := none
  /-- Whether staff has frozen the account. -/
  frozen : Bool := false
  /-- Whether logging in with a password is disabled. -/
  noPassword : Bool := false
  /-- Whether the stored password is a hash. -/
  crypt : Bool := false
  /-- The oper class, if the account is an oper. -/
  operClass : Option String := none
  /-- The privileges that were granted. -/
  privileges : List String := []
  /-- The fingerprints of the client certificates that belong to the account. -/
  certfps : List String := []
  /-- How many clients are logged in. -/
  logins : Nat := 0
  deriving DecidableEq, Repr

/-- An account that a name was resolved to: the registered name and the identifier. -/
structure Identity where
  /-- The name as registered. -/
  name : String
  /-- The identifier. -/
  id : AccountId
  deriving DecidableEq, Repr

/-- The privilege to act as any account. -/
def privilegeAny : String := "impersonate:any"

/-- What the privilege to act as the accounts of an oper class starts with. -/
def privilegeClass : String := "impersonate:class:"

/-- What the privilege to act as one account starts with. -/
def privilegeEntity : String := "impersonate:entity:"

namespace Account

/-- The identity of an account. -/
def identity (account : Account) : Identity := ⟨account.name, account.id⟩

/-- Whether an account has a privilege. -/
def hasPrivilege (account : Account) (privilege : String) : Bool :=
  account.privileges.contains privilege

/-- The oper class for which privileges are granted. -/
def className (account : Account) : String := account.operClass.getD "user"

/-- Whether the privileges of one account let it act as another. -/
def mayImpersonate (source target : Account) : Bool :=
  source.hasPrivilege privilegeAny ||
    source.hasPrivilege (privilegeClass ++ target.className) ||
    source.hasPrivilege (privilegeEntity ++ target.name)

/-- Whether a fingerprint belongs to an account. Letter case does not matter. -/
def ownsCertificate (account : Account) (certfp : String) : Bool :=
  account.certfps.any fun own =>
    own.toList.map Char.toLower = certfp.toList.map Char.toLower

end Account

/-- Whether an account may be logged into. -/
inductive Admission where
  /-- The login may proceed. -/
  | allow
  /-- The login is refused for a reason. -/
  | deny (reason : String)
  deriving DecidableEq, Repr

end IrcSasl
