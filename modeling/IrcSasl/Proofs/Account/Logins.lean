import IrcSasl.Proofs.Account.Index

set_option autoImplicit false

/-!
# Counts of logins

An account counts the clients that are logged into it. A login counts its user for the account that
it enters before it takes the user off the account that it leaves, which can be the same one; when
an account is dropped, its users are logged out and nothing is counted. Still every count is exact
after every run in which no count is set by hand, and no login takes a user off an account that
counts none (`logins_exact`).
-/

namespace IrcSasl

namespace Table

/-! ## Keys by value -/

variable {κ ν : Type} [DecidableEq ν]

/-- The keys that have a value, oldest first. -/
def keysOf (table : Table κ ν) (value : ν) : List κ :=
  (table.filter fun _ other => other = value).keys

theorem nodup_keysOf (table : Table κ ν) (value : ν) : (table.keysOf value).Nodup :=
  (table.filter _).distinct

theorem length_keysOf (table : Table κ ν) (value : ν) :
    (table.keysOf value).length = table.entries.countP fun entry => entry.2 = value := by
  rw [keysOf, keys, List.length_map, List.countP_eq_length_filter]
  rfl

/-- A value that passes a test keeps its keys when a table is filtered by the test. -/
theorem keysOf_filter (table : Table κ ν) {test : ν → Bool} {value : ν} (passes : test value) :
    (table.filter fun _ other => test other).keysOf value = table.keysOf value := by
  refine congrArg (List.map Prod.fst) (List.filter_filter.trans (List.filter_congr ?_))
  rintro ⟨_, other⟩ _
  by_cases same : other = value
  · simp [same, passes]
  · simp [same]

variable [DecidableEq κ]

theorem mem_keysOf {table : Table κ ν} {key : κ} {value : ν} :
    key ∈ table.keysOf value ↔ table.find? key = some value := by
  rw [find?_eq_some_iff]
  simp [keysOf, keys, filter]

theorem countP_place (key : κ) (value other : ν) (entries : List (κ × ν)) :
    ((place key value entries).countP fun entry => entry.2 = other) +
        (if lookup key entries = some other then 1 else 0) =
      (entries.countP fun entry => entry.2 = other) + if other = value then 1 else 0 := by
  induction entries with
  | nil => simp [place, lookup, eq_comm]
  | cons entry rest ih =>
      by_cases same : entry.1 = key
      · simp [place, lookup, same, List.countP_cons, eq_comm (a := other)]
        omega
      · simp [place, lookup, same, List.countP_cons]
        omega

/-- A value gains a key that is given it, and loses a key that had it. -/
theorem length_keysOf_insert (table : Table κ ν) (key : κ) (value other : ν) :
    ((table.insert key value).keysOf other).length +
        (if table.find? key = some other then 1 else 0) =
      (table.keysOf other).length + if other = value then 1 else 0 := by
  rw [length_keysOf, length_keysOf]
  exact countP_place key value other table.entries

end Table

namespace MemoryDirectory

/-- The users who are logged into an account. -/
def clients (directory : MemoryDirectory) (id : AccountId) : List String :=
  directory.loggedIn.keysOf id

theorem mem_clients {directory : MemoryDirectory} {uid : String} {id : AccountId} :
    uid ∈ directory.clients id ↔ directory.loggedInAs? uid = some id :=
  Table.mem_keysOf

/-- A login moves one user: the account that it enters gains what the one that it leaves loses. -/
theorem length_clients_login {directory : MemoryDirectory} (uid : String) {id : AccountId}
    (live : (directory.find? id).isSome) (other : AccountId) :
    ((directory.login uid id).2.clients other).length +
        (if directory.loggedInAs? uid = some other then 1 else 0) =
      (directory.clients other).length + if other = id then 1 else 0 := by
  have users : (directory.login uid id).2.loggedIn = directory.loggedIn.insert uid id := by
    obtain ⟨target, known⟩ := Option.isSome_iff_exists.mp live
    have known : directory.accounts.find? id = some target := known
    simp only [login, known]
  rw [clients, users]
  exact directory.loggedIn.length_keysOf_insert uid id other

/-- The directory once a login has been counted for the account that it enters, and before anything
is taken off the account that it leaves. -/
def entered (directory : MemoryDirectory) (id : AccountId) : MemoryDirectory :=
  directory.revise id fun account => { account with logins := account.logins + 1 }

/-- A login takes its user off the account that the user was logged into. -/
theorem find?_login_left {directory : MemoryDirectory} {uid : String} {id old : AccountId}
    (live : (directory.find? id).isSome) (was : directory.loggedInAs? uid = some old) :
    (directory.login uid id).2.find? old =
      ((directory.entered id).find? old).map fun left =>
        { left with logins := left.logins - 1 } := by
  rw [find?_login, entered, find?_revise, was]
  simp only [live, if_true]
  by_cases same : old = id
  · simp only [same, if_true, Option.map_map]
    rfl
  · simp only [same, if_false]
    rfl

/-! ## The invariant -/

/-- A directory in which the accounts count the users who are logged into them. -/
structure Tallied (directory : MemoryDirectory) : Prop where
  numbered : directory.Numbered
  users : ∀ uid id, directory.loggedInAs? uid = some id → (directory.find? id).isSome
  count : ∀ id account, directory.find? id = some account →
    account.logins = (directory.clients id).length

namespace Tallied

variable {directory : MemoryDirectory}

theorem empty (casemap : Text.Casemap) : Tallied { casemap } := by
  refine ⟨(Built.empty casemap).numbered, ?_, ?_⟩
  · intro uid id entered
    cases entered
  · intro id account found
    cases found

/-- Nobody is logged into an account that is not there. -/
theorem clients_absent (tallied : directory.Tallied) {id : AccountId}
    (absent : directory.find? id = none) : directory.clients id = [] := by
  rw [List.eq_nil_iff_forall_not_mem]
  intro uid member
  have live := tallied.users uid id (mem_clients.mp member)
  rw [absent] at live
  cases live

theorem loginCount (tallied : directory.Tallied) (id : AccountId) :
    directory.loginCount id = (directory.clients id).length := by
  rw [MemoryDirectory.loginCount]
  cases found : directory.find? id with
  | none => rw [tallied.clients_absent found]; rfl
  | some account => exact tallied.count id account found

/-- Whatever touches neither the users nor the counts of the accounts keeps the counts exact. -/
theorem of_same {before after : MemoryDirectory} (tallied : before.Tallied)
    (number : after.nextNumber = before.nextNumber) (users : after.loggedIn = before.loggedIn)
    (logins : ∀ id, (after.find? id).map Account.logins = (before.find? id).map Account.logins) :
    after.Tallied := by
  refine ⟨?_, ?_, ?_⟩
  · intro id account found
    obtain ⟨other, known, -⟩ := exists_of_map (logins id) found
    rw [number]
    exact tallied.numbered id other known
  · intro uid id entered
    rw [loggedInAs?, users] at entered
    rw [← Option.isSome_map (f := Account.logins), logins, Option.isSome_map]
    exact tallied.users uid id entered
  · intro id account found
    obtain ⟨other, known, same⟩ := exists_of_map (logins id) found
    rw [clients, users, ← same]
    exact tallied.count id other known

/-- Changing an account, but for its count, touches no count. -/
theorem revise (tallied : directory.Tallied) (id : AccountId) {change : Account → Account}
    (keeps : ∀ account, (change account).logins = account.logins) :
    (directory.revise id change).Tallied :=
  tallied.of_same rfl rfl (directory.map_find?_revise id keeps)

/-- A new account counts no users, and none are logged into it, since its number was never used. -/
theorem enroll (tallied : directory.Tallied) (key : String) {account : Account}
    (fresh : account.logins = 0) : (directory.enroll key account).Tallied := by
  refine ⟨tallied.numbered.enroll key account, ?_, ?_⟩
  · exact fun uid id entered => isSome_find?_enroll key account (tallied.users uid id entered)
  · intro id other known
    rw [find?_enroll] at known
    split at known
    · next new =>
        cases known
        have unused := tallied.clients_absent tallied.numbered.find?_next
        rw [fresh, new]
        exact (congrArg List.length unused).symm
    · exact tallied.count id other known

/-- Dropping an account logs its users out and nobody else. -/
theorem drop (tallied : directory.Tallied) {id : AccountId} {account : Account}
    {after : MemoryDirectory} (dropped : directory.drop id = some (account, after)) :
    after.Tallied := by
  unfold MemoryDirectory.drop at dropped
  split at dropped
  · cases dropped
  · cases dropped
    refine ⟨?_, ?_, ?_⟩
    · intro other left present
      rw [find?, Table.find?_erase] at present
      split at present
      · cases present
      · exact tallied.numbered other left present
    · intro uid other entered
      rw [loggedInAs?, Table.find?_filter, Option.filter_eq_some_iff] at entered
      obtain ⟨was, different⟩ := entered
      rw [decide_eq_true_iff] at different
      rw [find?, Table.find?_erase, if_neg different]
      exact tallied.users uid other was
    · intro other left present
      rw [find?, Table.find?_erase] at present
      split at present
      · cases present
      · next different =>
          have kept : (directory.loggedIn.filter fun _ owner => owner ≠ id).keysOf other =
              directory.loggedIn.keysOf other :=
            Table.keysOf_filter directory.loggedIn (by simpa using different)
          rw [clients, kept]
          exact tallied.count other left present

/-- What a login counts for one account and takes off another are the users it moves: the sums
agree without cutting off at zero. -/
theorem loginCount_login (tallied : directory.Tallied) (uid : String) {id : AccountId}
    (live : (directory.find? id).isSome) (other : AccountId) :
    (directory.login uid id).2.loginCount other +
        (if directory.loggedInAs? uid = some other then 1 else 0) =
      directory.loginCount other + if other = id then 1 else 0 := by
  have counted : (if directory.loggedInAs? uid = some other then 1 else 0) ≤
      directory.loginCount other := by
    split
    · next was =>
        rw [tallied.loginCount]
        exact List.length_pos_of_mem (mem_clients.mpr was)
    · exact Nat.zero_le _
  rw [MemoryDirectory.loginCount_login, if_pos live]
  omega

theorem login (tallied : directory.Tallied) (uid : String) (id : AccountId) :
    (directory.login uid id).2.Tallied := by
  refine ⟨tallied.numbered.apply (.login uid id), ?_, ?_⟩
  · intro user other entered
    rw [loggedInAs?_login] at entered
    rw [find?_login, Option.isSome_map]
    split at entered
    · next new =>
        cases entered
        exact new.2
    · exact tallied.users user other entered
  · intro other account found
    rw [← loginCount_of_find? found]
    cases target : directory.find? id with
    | none =>
        have kept : (directory.login uid id).2 = directory := by
          have absent : directory.accounts.find? id = none := target
          simp only [MemoryDirectory.login, absent]
        rw [kept, tallied.loginCount]
    | some entering =>
        have live := Option.isSome_of_eq_some target
        have counts := tallied.loginCount_login uid live other
        have moves := length_clients_login uid live other
        rw [tallied.loginCount] at counts
        omega

/-- The counts stay exact whatever is done, if nobody sets them by hand. -/
theorem apply (tallied : directory.Tallied) {operation : Operation}
    (keeps : operation.KeepsLogins) : (directory.apply operation).Tallied := by
  cases operation with
  | register name password =>
      simp only [MemoryDirectory.apply]
      rcases directory.register_enrolls name password with ⟨none, -⟩ |
        ⟨key, account, -, -, -, -, fresh, registered⟩
      · rw [none]
        exact tallied
      · rw [registered]
        exact tallied.enroll key fresh
  | drop id =>
      simp only [MemoryDirectory.apply]
      cases dropped : directory.drop id with
      | none => exact tallied
      | some result => exact tallied.drop dropped
  | revise id change => exact tallied.revise id keeps
  | badPassword id =>
      simp only [MemoryDirectory.apply, badPassword]
      split
      · exact tallied.of_same rfl rfl fun _ => rfl
      · exact tallied
  | setPassword id hash =>
      simp only [MemoryDirectory.apply, setPassword_eq_revise]
      exact tallied.revise id fun _ => rfl
  | login uid id => exact tallied.login uid id
  | limit max => exact tallied.of_same rfl rfl fun _ => rfl
  | impersonateHook hook => exact tallied.of_same rfl rfl fun _ => rfl
  | admissionHook hook => exact tallied.of_same rfl rfl fun _ => rfl
  | online uid => exact tallied.of_same rfl rfl fun _ => rfl

theorem run (tallied : directory.Tallied) {operations : List Operation}
    (keep : ∀ operation ∈ operations, operation.KeepsLogins) :
    (directory.run operations).Tallied :=
  run_invariant Operation.KeepsLogins Tallied (fun _ _ keeps tallied => tallied.apply keeps)
    tallied keep

/-- The account that a login leaves counts somebody when the user is taken off it. -/
theorem counts_left (tallied : directory.Tallied) {uid : String} {id old : AccountId}
    (live : (directory.find? id).isSome) (was : directory.loggedInAs? uid = some old) :
    ∃ left, (directory.entered id).find? old = some left ∧ 0 < left.logins ∧
      (directory.login uid id).2.find? old = some { left with logins := left.logins - 1 } := by
  obtain ⟨account, found⟩ := Option.isSome_iff_exists.mp (tallied.users uid old was)
  have positive : 0 < account.logins := by
    rw [tallied.count old account found]
    exact List.length_pos_of_mem (mem_clients.mpr was)
  have entered : ∃ left, (directory.entered id).find? old = some left ∧ 0 < left.logins := by
    rw [MemoryDirectory.entered, find?_revise]
    by_cases same : old = id
    · rw [if_pos same, ← same, found]
      exact ⟨_, rfl, Nat.succ_pos _⟩
    · rw [if_neg same, found]
      exact ⟨account, rfl, positive⟩
  obtain ⟨left, known, counts⟩ := entered
  exact ⟨left, known, counts, by rw [find?_login_left live was, known, Option.map_some]⟩

end Tallied

/-! ## Exactness -/

/-- In a directory that was empty at first, and after every run in which no count is set by hand,
each account counts the users who are logged into it, nobody is logged into an account that is not
there, and when a login takes its user off an account, that account counts one user at least. -/
theorem logins_exact (casemap : Text.Casemap) (operations : List Operation)
    (keep : ∀ operation ∈ operations, operation.KeepsLogins) :
    let empty : MemoryDirectory := { casemap }
    let directory := empty.run operations
    (∀ id, (directory.clients id).Nodup ∧
      ∀ uid, uid ∈ directory.clients id ↔ directory.loggedInAs? uid = some id) ∧
    (∀ id account, directory.find? id = some account →
      account.logins = (directory.clients id).length) ∧
    (∀ uid id, directory.loggedInAs? uid = some id → (directory.find? id).isSome) ∧
    ∀ uid id old, (directory.find? id).isSome → directory.loggedInAs? uid = some old →
      ∃ left, (directory.entered id).find? old = some left ∧ 0 < left.logins ∧
        (directory.login uid id).2.find? old =
          some { left with logins := left.logins - 1 } := by
  intro empty directory
  have tallied : directory.Tallied := (Tallied.empty casemap).run keep
  refine ⟨?_, tallied.count, tallied.users, fun _ _ _ => tallied.counts_left⟩
  exact fun id => ⟨Table.nodup_keysOf _ _, fun uid => mem_clients⟩

/-- Two users log into an account, one of them twice and then into another account, which is then
dropped. -/
def movingRun : List Operation :=
  [.register "first" none,
   .register "second" none,
   .login "U1" ⟨1⟩,
   .login "U2" ⟨1⟩,
   .login "U1" ⟨1⟩,
   .login "U1" ⟨2⟩,
   .drop ⟨2⟩,
   .login "U3" ⟨2⟩]

/-- Only the user who stayed counts. Were that user to log in again, the count would go up to two
before the user is taken off it. -/
theorem logins_exact_moving :
    let empty : MemoryDirectory := { casemap := .ascii }
    let directory := empty.run movingRun
    (∀ account, directory.find? ⟨1⟩ = some account →
      account.logins = (directory.clients ⟨1⟩).length) ∧
    directory.clients ⟨1⟩ = ["U2"] ∧ directory.loggedInAs? "U1" = none ∧
    ∃ left, (directory.entered ⟨1⟩).find? ⟨1⟩ = some left ∧ 0 < left.logins ∧
      left.logins = 2 := by
  intro empty directory
  have keep : ∀ operation ∈ movingRun, operation.KeepsLogins := by
    simp [movingRun, Operation.KeepsLogins]
  obtain ⟨members, loggedOut, live, was, two⟩ :
      directory.clients ⟨1⟩ = ["U2"] ∧ directory.loggedInAs? "U1" = none ∧
        (directory.find? ⟨1⟩).isSome ∧ directory.loggedInAs? "U2" = some ⟨1⟩ ∧
        ((directory.entered ⟨1⟩).find? ⟨1⟩).map Account.logins = some 2 := by
    decide +kernel
  obtain ⟨-, exact, -, counts⟩ := logins_exact .ascii movingRun keep
  obtain ⟨left, known, positive, -⟩ := counts "U2" ⟨1⟩ ⟨1⟩ live was
  rw [known, Option.map_some] at two
  exact ⟨exact ⟨1⟩, members, loggedOut, left, known, positive, Option.some.inj two⟩

end MemoryDirectory

end IrcSasl
