import IrcSasl.Proofs.Account.Memory

set_option autoImplicit false

/-!
# Operations on the directory in memory

Whatever changes a directory in memory is one of its operations. In a directory that was built by
operations every account stands under its own identifier (`Built.keyed`), and an account that was
dropped never comes back, since identifiers are not used again (`Retired.apply`). A login raises the
count of logins of its account by one at most (`loginCount_login`), and no other operation raises a
count unless somebody sets it by hand (`loginCount_apply_le`).
-/

namespace IrcSasl.MemoryDirectory

/-- Something that is done to a directory. -/
inductive Operation where
  /-- An account is registered. -/
  | register (name : String) (password : Option String)
  /-- An account is dropped. -/
  | drop (id : AccountId)
  /-- An account is changed by hand, in whatever way. -/
  | revise (id : AccountId) (change : Account → Account)
  /-- The number of clients that may be logged into one account is set. -/
  | limit (max : Nat)
  /-- A check that lets accounts act as others is added. -/
  | impersonateHook (hook : Account → Account → Bool)
  /-- A check that may refuse logins is added. -/
  | admissionHook (hook : Account → Admission)
  /-- A user comes onto the network. -/
  | online (uid : String)
  /-- A failed attempt at an account is noted. -/
  | badPassword (id : AccountId)
  /-- The stored hash of an account is replaced. -/
  | setPassword (id : AccountId) (hash : String)
  /-- A user is logged into an account. -/
  | login (uid : String) (id : AccountId)

/-- The directory after an operation. One that cannot be done changes nothing. -/
def apply (directory : MemoryDirectory) : Operation → MemoryDirectory
  | .register name password => (directory.register name password).elim directory Prod.snd
  | .drop id => (directory.drop id).elim directory Prod.snd
  | .revise id change => directory.revise id change
  | .limit max => directory.setMaxLogins max
  | .impersonateHook hook => directory.addImpersonateHook hook
  | .admissionHook hook => directory.addAdmissionHook hook
  | .online uid => directory.setOnline uid
  | .badPassword id => directory.badPassword id
  | .setPassword id hash => (directory.setPassword id hash).2
  | .login uid id => (directory.login uid id).2

/-- The directory after operations in order. -/
def run (directory : MemoryDirectory) (operations : List Operation) : MemoryDirectory :=
  operations.foldl apply directory

@[simp] theorem run_cons (directory : MemoryDirectory) (operation : Operation)
    (rest : List Operation) :
    directory.run (operation :: rest) = (directory.apply operation).run rest := rfl

theorem run_append (directory : MemoryDirectory) (early late : List Operation) :
    directory.run (early ++ late) = (directory.run early).run late :=
  List.foldl_append

/-- What every operation of a kind keeps is kept by every run of such operations. -/
theorem run_invariant (kind : Operation → Prop) (holds : MemoryDirectory → Prop)
    (keeps : ∀ directory operation, kind operation → holds directory →
      holds (directory.apply operation))
    {directory : MemoryDirectory} (initially : holds directory) {operations : List Operation}
    (kinds : ∀ operation ∈ operations, kind operation) : holds (directory.run operations) := by
  induction operations generalizing directory with
  | nil => exact initially
  | cons operation rest ih =>
      simp only [List.mem_cons, forall_eq_or_imp] at kinds
      exact ih (keeps directory operation kinds.1 initially) kinds.2

/-! ## Kinds of operations -/

namespace Operation

/-- The operations that negotiations come down to: they note failed attempts, replace stored hashes
and log users in. -/
def Negotiated : Operation → Prop
  | .badPassword _ | .setPassword _ _ | .login _ _ => True
  | _ => False

/-- An operation that leaves the identifiers and the names of accounts alone. Only a change by hand
may fail to. -/
def KeepsIdentity : Operation → Prop
  | .revise _ change => ∀ account, (change account).identity = account.identity
  | _ => True

/-- An operation that leaves the counts of logins to logins. Only a change by hand may fail to. -/
def KeepsLogins : Operation → Prop
  | .revise _ change => ∀ account, (change account).logins = account.logins
  | _ => True

/-- An operation that leaves logins, their limit and what identifies accounts alone. -/
def LeavesLogins (operation : Operation) : Prop :=
  operation.KeepsIdentity ∧ operation.KeepsLogins ∧
    match operation with
    | .limit _ | .login _ _ => False
    | _ => True

theorem Negotiated.keepsIdentity {operation : Operation} (negotiated : operation.Negotiated) :
    operation.KeepsIdentity := by
  cases operation with
  | revise id change => exact negotiated.elim
  | _ => trivial

end Operation

/-! ## What one operation does to the accounts -/

/-- Registering an account adds it under the next number and touches no other. -/
theorem register_cases (directory : MemoryDirectory) (name : String) (password : Option String) :
    directory.register name password = none ∨ ∃ account after,
      directory.register name password = some (⟨directory.nextNumber⟩, after) ∧
      account.logins = 0 ∧ after.nextNumber = directory.nextNumber + 1 ∧
      after.maxLogins = directory.maxLogins ∧
      ∀ other, after.find? other =
        if other = ⟨directory.nextNumber⟩ then some account else directory.find? other := by
  unfold register
  split
  · exact .inl rfl
  · split
    · exact .inl rfl
    · let crypt := password.any fun password => password.toList.head? = some '$'
      refine .inr
        ⟨{ id := ⟨directory.nextNumber⟩, name, password, crypt }, _, rfl, rfl, rfl, rfl, ?_⟩
      intro other
      exact Table.find?_insert ..

theorem drop_cases (directory : MemoryDirectory) (id : AccountId) :
    directory.drop id = none ∨ ∃ account after, directory.drop id = some (account, after) ∧
      after.nextNumber = directory.nextNumber ∧ after.maxLogins = directory.maxLogins ∧
      ∀ other, after.find? other = if other = id then none else directory.find? other := by
  unfold drop
  split
  · exact .inl rfl
  · exact .inr ⟨_, _, rfl, rfl, rfl, fun other => Table.find?_erase ..⟩

theorem find?_revise (directory : MemoryDirectory) (id other : AccountId)
    (change : Account → Account) :
    (directory.revise id change).find? other =
      if other = id then (directory.find? id).map change else directory.find? other :=
  Table.find?_modify ..

/-- What a change leaves alone of every account is the same after it. -/
theorem map_find?_revise {β : Type} {view : Account → β} (directory : MemoryDirectory)
    (id : AccountId) {change : Account → Account}
    (keeps : ∀ account, view (change account) = view account) (other : AccountId) :
    ((directory.revise id change).find? other).map view = (directory.find? other).map view := by
  rw [find?_revise]
  split
  · next same =>
      rw [same, Option.map_map]
      exact congrArg (Option.map · (directory.find? id)) (funext keeps)
  · rfl

/-- A change brings no account and removes none. -/
theorem isSome_find?_revise (directory : MemoryDirectory) (id other : AccountId)
    (change : Account → Account) :
    ((directory.revise id change).find? other).isSome = (directory.find? other).isSome := by
  rw [find?_revise]
  split
  · next same => rw [same, Option.isSome_map]
  · rfl

/-- To replace a stored hash is to change an account. -/
theorem setPassword_eq_revise (directory : MemoryDirectory) (id : AccountId) (hash : String) :
    (directory.setPassword id hash).2 =
      directory.revise id fun account => account.rehashed hash := by
  unfold setPassword revise Table.modify
  cases directory.accounts.find? id <;> rfl

/-- Replacing the hash of an account touches no other account. -/
theorem find?_setPassword (directory : MemoryDirectory) (id other : AccountId) (hash : String) :
    (directory.setPassword id hash).2.find? other =
      if other = id then (directory.find? id).map fun account => account.rehashed hash
      else directory.find? other := by
  rw [setPassword_eq_revise]
  exact directory.find?_revise id other _

/-- A login changes how many clients are logged in, of the account that it enters and of the one
that it leaves. -/
theorem find?_login (directory : MemoryDirectory) (uid : String) (id other : AccountId) :
    (directory.login uid id).2.find? other =
      (directory.find? other).map fun account =>
        if (directory.find? id).isSome then
          { account with
            logins := account.logins + (if other = id then 1 else 0) -
              if directory.loggedInAs? uid = some other then 1 else 0 }
        else account := by
  unfold login loggedInAs?
  cases found : directory.accounts.find? id with
  | none =>
      have absent : directory.find? id = none := found
      simp [absent]
  | some account =>
      have present : directory.find? id = some account := found
      have entered : ∀ other, (directory.accounts.insert id
          { account with logins := account.logins + 1 }).find? other =
            (directory.accounts.find? other).map fun account =>
              { account with logins := account.logins + if other = id then 1 else 0 } := by
        intro other
        rw [Table.find?_insert]
        by_cases same : other = id
        · simp [same, found]
        · simp [same]
      simp only [present, Option.isSome_some, if_true]
      cases left : directory.loggedIn.find? uid with
      | none =>
          simp only [find?, entered]
          rfl
      | some old =>
          simp only [find?, Table.find?_modify, Option.some.injEq]
          by_cases same : other = old
          · subst same
            rw [if_pos rfl, entered, Option.map_map]
            simp [Function.comp_def]
          · rw [if_neg same, entered]
            simp [Ne.symm same]

/-- A login enters its account, if that is there, for its user and for nobody else. -/
theorem loggedInAs?_login (directory : MemoryDirectory) (uid other : String) (id : AccountId) :
    (directory.login uid id).2.loggedInAs? other =
      if other = uid ∧ (directory.find? id).isSome then some id
      else directory.loggedInAs? other := by
  unfold login find? loggedInAs?
  cases directory.accounts.find? id with
  | none => simp
  | some account => simp

/-! ## Identifiers are not used again -/

/-- An account that was there once is not there any more. -/
structure Retired (directory : MemoryDirectory) (id : AccountId) : Prop where
  absent : directory.find? id = none
  number : id.number < directory.nextNumber

/-- Every account has got its number from the directory. -/
def Numbered (directory : MemoryDirectory) : Prop :=
  ∀ id account, directory.find? id = some account → id.number < directory.nextNumber

/-- The only account that an operation can bring is the next one, and numbers are not given back. -/
theorem brings_apply (directory : MemoryDirectory) (operation : Operation) :
    directory.nextNumber ≤ (directory.apply operation).nextNumber ∧
      ∀ id, ((directory.apply operation).find? id).isSome →
        (directory.find? id).isSome ∨ id.number = directory.nextNumber ∧
          directory.nextNumber < (directory.apply operation).nextNumber := by
  cases operation with
  | register name password =>
      simp only [apply]
      rcases directory.register_cases name password with none |
        ⟨account, after, registered, -, number, -, found⟩
      · rw [none]
        exact ⟨Nat.le_refl _, fun id present => .inl present⟩
      · rw [registered]
        refine ⟨by simp [number], ?_⟩
        intro id present
        simp only [Option.elim_some, found] at present
        split at present
        · next new => exact .inr ⟨by rw [new], by simp [number]⟩
        · exact .inl present
  | drop id =>
      simp only [apply]
      rcases directory.drop_cases id with none | ⟨account, after, dropped, number, -, found⟩
      · rw [none]
        exact ⟨Nat.le_refl _, fun id present => .inl present⟩
      · rw [dropped]
        refine ⟨Nat.le_of_eq number.symm, ?_⟩
        intro other present
        simp only [Option.elim_some, found] at present
        split at present
        · cases present
        · exact .inl present
  | revise id change =>
      refine ⟨Nat.le_refl _, ?_⟩
      intro other present
      rw [apply, isSome_find?_revise] at present
      exact .inl present
  | setPassword id hash =>
      rw [apply, setPassword_eq_revise]
      refine ⟨Nat.le_refl _, ?_⟩
      intro other present
      rw [isSome_find?_revise] at present
      exact .inl present
  | badPassword id =>
      have same : (directory.badPassword id).nextNumber = directory.nextNumber ∧
          (directory.badPassword id).accounts = directory.accounts := by
        unfold badPassword
        split <;> exact ⟨rfl, rfl⟩
      refine ⟨Nat.le_of_eq same.1.symm, ?_⟩
      intro other present
      simp only [apply, find?, same.2] at present
      exact .inl present
  | login uid id =>
      have number : (directory.login uid id).2.nextNumber = directory.nextNumber := by
        unfold login
        split <;> rfl
      refine ⟨Nat.le_of_eq number.symm, ?_⟩
      intro other present
      simp only [apply, find?_login, Option.isSome_map] at present
      exact .inl present
  | limit max => exact ⟨Nat.le_refl _, fun id present => .inl present⟩
  | impersonateHook hook => exact ⟨Nat.le_refl _, fun id present => .inl present⟩
  | admissionHook hook => exact ⟨Nat.le_refl _, fun id present => .inl present⟩
  | online uid => exact ⟨Nat.le_refl _, fun id present => .inl present⟩

theorem Numbered.apply {directory : MemoryDirectory} (numbered : directory.Numbered)
    (operation : Operation) : (directory.apply operation).Numbered := by
  obtain ⟨grows, brings⟩ := directory.brings_apply operation
  intro id account found
  rcases brings id (by rw [found]; rfl) with earlier | ⟨new, grown⟩
  · obtain ⟨before, foundBefore⟩ := Option.isSome_iff_exists.mp earlier
    exact Nat.lt_of_lt_of_le (numbered id before foundBefore) grows
  · rw [new]
    exact grown

/-- An account that was dropped never comes back, whatever is done. -/
theorem Retired.apply {directory : MemoryDirectory} {id : AccountId}
    (retired : directory.Retired id) (operation : Operation) :
    (directory.apply operation).Retired id := by
  obtain ⟨grows, brings⟩ := directory.brings_apply operation
  refine ⟨?_, Nat.lt_of_lt_of_le retired.number grows⟩
  cases found : (directory.apply operation).find? id with
  | none => rfl
  | some account =>
      rcases brings id (by rw [found]; rfl) with earlier | ⟨new, -⟩
      · rw [retired.absent] at earlier
        cases earlier
      · exact absurd new (Nat.ne_of_lt retired.number)

/-! ## Directories that operations have built -/

/-- Every account stands under its own identifier after an operation that leaves identifiers and
names alone. -/
theorem Keyed.apply {directory : MemoryDirectory} (keyed : directory.Keyed) {operation : Operation}
    (keeps : operation.KeepsIdentity) : (directory.apply operation).Keyed := by
  cases operation with
  | register name password =>
      simp only [MemoryDirectory.apply, register]
      split
      · exact keyed
      · split
        · exact keyed
        · exact keyed.insert rfl rfl
  | drop id =>
      simp only [MemoryDirectory.apply, drop]
      split
      · exact keyed
      · intro other left found
        rw [Option.elim_some, find?, Table.find?_erase] at found
        split at found
        · cases found
        · exact keyed other left found
  | revise id change =>
      exact keyed.modify rfl fun account => congrArg Identity.id (keeps account)
  | setPassword id hash =>
      simp only [MemoryDirectory.apply, setPassword_eq_revise]
      exact keyed.modify rfl fun _ => rfl
  | badPassword id =>
      simp only [MemoryDirectory.apply, badPassword]
      split
      · exact keyed
      · exact keyed
  | login uid id =>
      intro other account found
      rw [MemoryDirectory.apply, find?_login, Option.map_eq_some_iff] at found
      obtain ⟨before, known, rfl⟩ := found
      rw [← keyed other before known]
      split <;> rfl
  | limit max => exact keyed
  | impersonateHook hook => exact keyed
  | admissionHook hook => exact keyed
  | online uid => exact keyed

/-- A directory that came about by operations that leave identifiers and names alone. -/
inductive Built : MemoryDirectory → Prop where
  | empty (casemap : Text.Casemap) : Built { casemap }
  | apply {directory : MemoryDirectory} (built : Built directory) (operation : Operation)
      (keeps : operation.KeepsIdentity) : Built (directory.apply operation)

theorem Built.keyed {directory : MemoryDirectory} (built : directory.Built) : directory.Keyed := by
  induction built with
  | empty casemap =>
      intro id account found
      cases found
  | apply _ _ keeps keyed => exact keyed.apply keeps

/-- In a directory that operations have built every account has got its number from it. -/
theorem Built.numbered {directory : MemoryDirectory} (built : directory.Built) :
    directory.Numbered := by
  induction built with
  | empty casemap =>
      intro id account found
      cases found
  | apply _ operation _ numbered => exact numbered.apply operation

/-! ## How many clients are logged in -/

/-- How many clients are logged into an account; none if there is no such account. -/
def loginCount (directory : MemoryDirectory) (id : AccountId) : Nat :=
  ((directory.find? id).map Account.logins).getD 0

theorem loginCount_of_find? {directory : MemoryDirectory} {id : AccountId} {account : Account}
    (found : directory.find? id = some account) : directory.loginCount id = account.logins := by
  rw [loginCount, found]
  rfl

/-- A login counts for the account that it enters, and no longer for the one that it leaves. -/
theorem loginCount_login (directory : MemoryDirectory) (uid : String) (id other : AccountId) :
    (directory.login uid id).2.loginCount other =
      if (directory.find? id).isSome then
        directory.loginCount other + (if other = id then 1 else 0) -
          if directory.loggedInAs? uid = some other then 1 else 0
      else directory.loginCount other := by
  unfold loginCount
  rw [find?_login]
  cases present : directory.find? id with
  | none => cases directory.find? other <;> simp
  | some account =>
      cases found : directory.find? other with
      | some found => simp
      | none =>
          have different : other ≠ id := by
            rintro rfl
            rw [present] at found
            cases found
          simp [different]

/-- A change by hand that leaves the counts of logins alone sets none. -/
theorem loginCount_revise (directory : MemoryDirectory) (id : AccountId)
    {change : Account → Account} (keeps : ∀ account, (change account).logins = account.logins)
    (other : AccountId) : (directory.revise id change).loginCount other =
      directory.loginCount other :=
  congrArg (·.getD 0) (directory.map_find?_revise id keeps other)

theorem loginCount_setPassword (directory : MemoryDirectory) (id : AccountId) (hash : String)
    (other : AccountId) :
    (directory.setPassword id hash).2.loginCount other = directory.loginCount other := by
  rw [setPassword_eq_revise]
  refine directory.loginCount_revise id ?_ other
  exact fun _ => rfl

/-- No count of logins is raised by an operation that leaves logins alone. -/
theorem loginCount_apply_le (directory : MemoryDirectory) (operation : Operation)
    (leaves : operation.LeavesLogins) (id : AccountId) :
    (directory.apply operation).loginCount id ≤ directory.loginCount id := by
  cases operation with
  | register name password =>
      simp only [apply]
      rcases directory.register_cases name password with none |
        ⟨account, after, registered, fresh, -, -, found⟩
      · rw [none]
        exact Nat.le_refl _
      · simp only [registered, Option.elim_some, loginCount, found]
        split
        · simp [fresh]
        · exact Nat.le_refl _
  | drop other =>
      simp only [apply]
      rcases directory.drop_cases other with none | ⟨account, after, dropped, -, -, found⟩
      · rw [none]
        exact Nat.le_refl _
      · simp only [dropped, Option.elim_some, loginCount, found]
        split
        · exact Nat.zero_le _
        · exact Nat.le_refl _
  | revise other change => exact Nat.le_of_eq (directory.loginCount_revise other leaves.2.1 id)
  | setPassword other hash => exact Nat.le_of_eq (directory.loginCount_setPassword other hash id)
  | badPassword other =>
      have same : (directory.badPassword other).accounts = directory.accounts := by
        unfold badPassword
        split <;> rfl
      simp only [apply, loginCount, find?, same]
      exact Nat.le_refl _
  | limit max => exact leaves.2.2.elim
  | login uid other => exact leaves.2.2.elim
  | impersonateHook hook => exact Nat.le_refl _
  | admissionHook hook => exact Nat.le_refl _
  | online uid => exact Nat.le_refl _

/-- The limit stays as it is unless it is set. -/
theorem maxLogins_apply (directory : MemoryDirectory) (operation : Operation)
    (leaves : ∀ max, operation ≠ .limit max) :
    (directory.apply operation).maxLogins = directory.maxLogins := by
  cases operation with
  | register name password =>
      simp only [apply]
      rcases directory.register_cases name password with none |
        ⟨account, after, registered, -, -, limit, -⟩
      · rw [none]
        rfl
      · rw [registered]
        exact limit
  | drop id =>
      simp only [apply]
      rcases directory.drop_cases id with none | ⟨account, after, dropped, -, limit, -⟩
      · rw [none]
        rfl
      · rw [dropped]
        exact limit
  | setPassword id hash =>
      simp only [apply, setPassword]
      split <;> rfl
  | badPassword id =>
      simp only [apply, badPassword]
      split <;> rfl
  | login uid id =>
      simp only [apply, login]
      split <;> rfl
  | limit max => exact absurd rfl (leaves max)
  | revise id change => rfl
  | impersonateHook hook => rfl
  | admissionHook hook => rfl
  | online uid => rfl

end IrcSasl.MemoryDirectory
