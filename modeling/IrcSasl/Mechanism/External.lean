import IrcSasl.Context

set_option autoImplicit false

/-!
# EXTERNAL

Authenticates the account that the client's certificate belongs to, whose fingerprint the server
reported when the client started (RFC 4422, appendix A). The one message of a client says whom it
wants to act as; an empty one means that it acts as itself.
-/

namespace IrcSasl.External

variable {D C : Type}

/-- Starts a negotiation, for which the client needs a certificate. -/
def start (ctx : Context D C) : Step × Context D C :=
  match ctx.session.info.certfp with
  | none => (.refused [], ctx.note .noCertificate)
  | some _ => (.more [], ctx)

/-- Reads whom the client wants to act as; empty for itself. -/
def parse (data : Bytes) : Option String :=
  match Bytes.toString? data with
  | some name =>
      if data.length ≤ Limits.accountNameLength && !data.contains 0 then some name else none
  | none => none

/-- Handles the message of a client. -/
def step [AccountDirectory D] (ctx : Context D C) (data : Bytes) : Step × Context D C :=
  match parse data with
  | none => (.refused [], ctx.note (.malformed "EXTERNAL"))
  | some authzid =>
      match ctx.session.info.certfp with
      | none => (.refused [], ctx)
      | some certfp =>
          match AccountDirectory.findByCertfp ctx.accounts certfp with
          | none => (.refused [], ctx.note (.unknownCertificate certfp))
          | some account =>
              match ctx.resolveAuthcid account.name with
              | (none, ctx) => (.refused [], ctx.note .authcidRefused)
              | (some _, ctx) =>
                  match ctx.resolveOptionalAuthzid
                      (if authzid.isEmpty then none else some authzid) with
                  | (false, ctx) => (.refused [], ctx.note .authzidRefused)
                  | (true, ctx) => (.success, ctx)

end IrcSasl.External
