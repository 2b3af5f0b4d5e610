import IrcSasl.Account.Memory
import IrcSasl.Proofs.Text.Names

set_option autoImplicit false

/-!
# The directory in memory

What the operations that negotiations use do to accounts and to the counts of failed attempts, and
what it takes for every account to stand under its own identifier (`Keyed`).
-/

namespace IrcSasl

/-- The account with another stored hash. -/
def Account.rehashed (account : Account) (hash : String) : Account :=
  { account with password := some hash, crypt := true }

/-- An account stays as it is if it is left with the hash that it has. -/
theorem Account.rehashed_self {account : Account} {hash : String} (hashed : account.crypt = true)
    (stored : account.password = some hash) : account.rehashed hash = account := by
  unfold Account.rehashed
  rw [← hashed, ← stored]

namespace MemoryDirectory

/-! ## Identifiers -/

/-- Every account stands under its own identifier. -/
def Keyed (directory : MemoryDirectory) : Prop :=
  ∀ id account, directory.find? id = some account → account.id = id

theorem Keyed.find?_id {directory : MemoryDirectory} (keyed : directory.Keyed) {id : AccountId}
    {account : Account} (found : directory.find? id = some account) :
    directory.find? account.id = some account := by
  rw [keyed id account found]
  exact found

/-- To put an account under its own identifier keeps a directory keyed. -/
theorem Keyed.insert {directory after : MemoryDirectory} (keyed : directory.Keyed) {id : AccountId}
    {account : Account} (accounts : after.accounts = directory.accounts.insert id account)
    (own : account.id = id) : after.Keyed := by
  intro other left found
  rw [find?, accounts, Table.find?_insert] at found
  split at found
  · next same =>
      cases found
      exact own.trans same.symm
  · exact keyed other left found

theorem Keyed.modify {directory after : MemoryDirectory} (keyed : directory.Keyed) {id : AccountId}
    {change : Account → Account} (accounts : after.accounts = directory.accounts.modify id change)
    (same : ∀ account, (change account).id = account.id) : after.Keyed := by
  intro other account found
  rw [find?, accounts, Table.find?_modify] at found
  split at found
  · next here =>
      rw [Option.map_eq_some_iff] at found
      obtain ⟨before, foundBefore, rfl⟩ := found
      rw [same, here]
      exact keyed id before foundBefore
  · exact keyed other account found

/-- An account that is found by a name is found by its identifier. -/
theorem Keyed.find?_of_findName? {directory : MemoryDirectory} (keyed : directory.Keyed)
    {name : String} {account : Account} (known : directory.findName? name = some account) :
    directory.find? account.id = some account := by
  unfold findName? at known
  split at known
  · exact keyed.find?_id known
  · cases known

/-- A stable name is looked up by its prepared form. -/
theorem findName?_prepared {directory : MemoryDirectory} {name : String} {account : Account}
    (stable : Text.Stable name) (known : directory.findName? name = some account) :
    ∃ prepared, Text.prepareName name = some prepared ∧
      directory.findName? prepared = some account := by
  cases done : Text.prepareName name with
  | none =>
      rw [findName?, key, done] at known
      cases known
  | some prepared =>
      refine ⟨prepared, rfl, ?_⟩
      rw [findName?, key, done] at known
      rw [findName?, key, stable prepared done]
      exact known

/-! ## Stored hashes -/

theorem setPassword_of_find? {directory : MemoryDirectory} {id : AccountId} {account : Account}
    (found : directory.find? id = some account) (hash : String) :
    directory.setPassword id hash =
      (true,
        { directory with accounts := directory.accounts.insert id (account.rehashed hash) }) := by
  have found : directory.accounts.find? id = some account := found
  rw [setPassword, found]
  rfl

/-- Who logs in has no influence on stored hashes. -/
theorem password_login (directory : MemoryDirectory) (uid : String) (id other : AccountId) :
    ((directory.login uid id).2.find? other).map Account.password =
      (directory.find? other).map Account.password := by
  unfold login
  cases found : directory.accounts.find? id with
  | none => rfl
  | some account =>
      have entered : ((directory.accounts.insert id
          { account with logins := account.logins + 1 }).find? other).map Account.password =
            (directory.find? other).map Account.password := by
        rw [Table.find?_insert, find?]
        by_cases same : other = id
        · rw [if_pos same, same, found]
          rfl
        · rw [if_neg same]
      cases directory.loggedIn.find? uid with
      | none => exact entered
      | some old =>
          simp only [find?, Table.find?_modify]
          by_cases same : other = old
          · rw [if_pos same, Option.map_map, ← same]
            exact entered
          · rw [if_neg same]
            exact entered

/-! ## Failed attempts -/

theorem badPasswords_setPassword (directory : MemoryDirectory) (id : AccountId) (hash : String) :
    (directory.setPassword id hash).2.badPasswords = directory.badPasswords := by
  unfold setPassword
  cases directory.accounts.find? id <;> rfl

theorem badPasswords_rewrite (directory : MemoryDirectory) (id : AccountId)
    (credential : Credential) :
    (AccountDirectory.rewrite directory id credential).2.badPasswords = directory.badPasswords := by
  unfold AccountDirectory.rewrite
  cases credential.encode with
  | error cause => rfl
  | ok hash => exact badPasswords_setPassword directory id hash

theorem badPasswords_login (directory : MemoryDirectory) (uid : String) (id : AccountId) :
    (directory.login uid id).2.badPasswords = directory.badPasswords := by
  unfold login
  cases directory.accounts.find? id <;> rfl

/-- Only the account that is there and was tried has one more failed attempt. -/
theorem badPasswordCount_badPassword (directory : MemoryDirectory) (id other : AccountId) :
    (directory.badPassword id).badPasswordCount other =
      directory.badPasswordCount other +
        if id = other ∧ (directory.find? id).isSome then 1 else 0 := by
  unfold badPassword
  have present : directory.accounts.contains id = (directory.find? id).isSome := rfl
  rw [present]
  cases (directory.find? id).isSome with
  | false => simp
  | true =>
      simp only [badPasswordCount, if_true, Table.find?_insert]
      by_cases same : other = id
      · simp [same]
      · simp [same, Ne.symm same]

end MemoryDirectory

end IrcSasl
