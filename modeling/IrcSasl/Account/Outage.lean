import IrcSasl.Account.Memory
import IrcSasl.Credential.Store

set_option autoImplicit false

/-!
# Outages

A directory and a credential store some of whose services can be out of order. They show what a
negotiation does when what it relies on fails.
-/

namespace IrcSasl

/-- Which services are out of order. -/
structure Outage where
  /-- No account is found by its identifier. -/
  findById : Bool := false
  /-- No password is replaced. -/
  setPassword : Bool := false
  /-- No user is logged in. -/
  login : Bool := false
  /-- No account is found by a certificate, and no user is known to be on the network. -/
  presence : Bool := false
  /-- Stored hashes lose the last byte of their server key. -/
  serverKey : Bool := false
  deriving DecidableEq, Repr

/-- A directory or a store with an outage. -/
structure Degraded (S : Type) where
  /-- What the services rely on. -/
  inner : S
  /-- The services that are out of order. -/
  outage : Outage := {}

variable {D C : Type}

instance [AccountDirectory D] : AccountDirectory (Degraded D) where
  findByName directory := AccountDirectory.findByName directory.inner
  findById directory id :=
    if directory.outage.findById then none else AccountDirectory.findById directory.inner id
  findByCertfp directory certfp :=
    if directory.outage.presence then none
    else AccountDirectory.findByCertfp directory.inner certfp
  canImpersonate directory := AccountDirectory.canImpersonate directory.inner
  admission directory := AccountDirectory.admission directory.inner
  badPassword directory id :=
    { directory with inner := AccountDirectory.badPassword directory.inner id }
  setPassword directory id hash :=
    if directory.outage.setPassword then (false, directory)
    else
      let (known, inner) := AccountDirectory.setPassword directory.inner id hash
      (known, { directory with inner })
  userOnline directory uid :=
    !directory.outage.presence && AccountDirectory.userOnline directory.inner uid
  login directory uid id :=
    if directory.outage.login then (false, directory)
    else
      let (known, inner) := AccountDirectory.login directory.inner uid id
      (known, { directory with inner })

instance [CredentialStore C] : CredentialStore (Degraded C) where
  extract store hash :=
    (CredentialStore.extract store.inner hash).map fun credential =>
      if store.outage.serverKey then
        { credential with serverKey := credential.serverKey.dropLast }
      else credential
  verify store := CredentialStore.verify store.inner

end IrcSasl
