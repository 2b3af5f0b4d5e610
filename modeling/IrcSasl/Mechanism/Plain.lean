import IrcSasl.Context
import IrcSasl.Fields

set_option autoImplicit false

/-!
# PLAIN

The one message of a client is `authzid NUL authcid NUL password` (RFC 4616). An empty authzid means
that the client acts as itself. A password is checked against the stored hash of the account, or
against its stored password after both are prepared with SASLprep.
-/

namespace IrcSasl.Plain

/-- The message of a client. -/
structure Message where
  /-- Whom the client wants to act as; empty for itself. -/
  authzid : String
  /-- Who the client says to be. -/
  authcid : String
  /-- The password. -/
  password : Bytes
  deriving DecidableEq, Repr

/-- Reads a message. Names are UTF-8 and not too long, and neither the authcid nor the password is
empty. -/
def parse (data : Bytes) : Option Message :=
  match Fields.split 0 data with
  | [authzid, authcid, password] =>
      match Bytes.toString? authzid, Bytes.toString? authcid with
      | some authzidText, some authcidText =>
          if authcid.isEmpty || password.isEmpty ||
              Limits.accountNameLength < authcid.length ||
              Limits.accountNameLength < authzid.length then none
          else some ⟨authzidText, authcidText, password⟩
      | _, _ => none
  | _ => none

variable {D C : Type}

/-- Whether a password is that of an account. -/
def checkPassword [CredentialStore C] (credentials : C) (account : Account) (password : Bytes) :
    Bool :=
  match account.password with
  | some stored =>
      if account.crypt then CredentialStore.verify credentials password stored
      else Text.preparePassword (Bytes.ofString stored) = Text.preparePassword password
  | none => false

/-- Whom the client wants to act as other than itself. -/
def Message.otherName (message : Message) : Option String :=
  if message.authzid.isEmpty then none else some message.authzid

/-- Handles the message of a client. -/
def step [AccountDirectory D] [CredentialStore C] (ctx : Context D C) (data : Bytes) :
    Step × Context D C :=
  match parse data with
  | none => (.refused [], ctx.note (.malformed "PLAIN"))
  | some message =>
      match ctx.resolveAuthcid message.authcid with
      | (none, ctx) => (.refused [], ctx.note .authcidRefused)
      | (some id, ctx) =>
          match ctx.resolveOptionalAuthzid message.otherName with
          | (false, ctx) => (.refused [], ctx.note .authzidRefused)
          | (true, ctx) =>
              match AccountDirectory.findById ctx.accounts id with
              | none => (.refused [], ctx)
              | some account =>
                  if account.noPassword then
                    (.refused [], ctx.note (.passwordDisabled account.name))
                  else if checkPassword ctx.credentials account message.password then
                    (.success, ctx)
                  else (.failure [], ctx)

end IrcSasl.Plain
