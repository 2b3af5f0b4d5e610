import IrcSasl.Proofs.Account.Operations

set_option autoImplicit false

/-!
# The index of names

Accounts are found by name through an index, which every operation keeps in step with the accounts
if it leaves their identifiers and names alone (`Indexed.apply`). Looking a name up is therefore the
same as searching all accounts for it, a name can be registered exactly if no account has it,
identifiers are handed out in rising order, and nothing is left of an account that was dropped
(`index_exact`).
-/

namespace IrcSasl.MemoryDirectory

/-! ## What one operation does to the index -/

/-- Two directories with the same index and the same accounts, as far as identifiers and names go.
The users and the failed attempts that only the second one knows belong to accounts of the first. -/
structure SameNames (before after : MemoryDirectory) : Prop where
  casemap : after.casemap = before.casemap
  names : after.names = before.names
  number : after.nextNumber = before.nextNumber
  identity : ∀ id, (after.find? id).map Account.identity = (before.find? id).map Account.identity
  users : ∀ uid id, after.loggedInAs? uid = some id →
    before.loggedInAs? uid = some id ∨ (before.find? id).isSome
  attempts : ∀ id, (after.badPasswords.find? id).isSome →
    (before.badPasswords.find? id).isSome ∨ (before.find? id).isSome

theorem SameNames.key {before after : MemoryDirectory} (same : before.SameNames after)
    (name : String) : after.key name = before.key name := by
  rw [MemoryDirectory.key, MemoryDirectory.key, same.casemap]

theorem SameNames.of_same {before after : MemoryDirectory}
    (casemap : after.casemap = before.casemap) (names : after.names = before.names)
    (number : after.nextNumber = before.nextNumber) (accounts : after.accounts = before.accounts)
    (users : after.loggedIn = before.loggedIn)
    (attempts : after.badPasswords = before.badPasswords) : before.SameNames after := by
  refine ⟨casemap, names, number, ?_, ?_, ?_⟩
  · intro id
    rw [find?, find?, accounts]
  · intro uid id entered
    rw [loggedInAs?, users] at entered
    exact .inl entered
  · intro id noted
    rw [attempts] at noted
    exact .inl noted

/-- An account of one directory is in another one too if that looks the same. -/
theorem exists_of_map {β : Type} {view : Account → β} {first second : MemoryDirectory}
    {id : AccountId} {account : Account}
    (same : (first.find? id).map view = (second.find? id).map view)
    (found : first.find? id = some account) :
    ∃ other, second.find? id = some other ∧ view other = view account := by
  rw [found, Option.map_some] at same
  exact Option.map_eq_some_iff.mp same.symm

/-- An account has the same name and the same identifier wherever identities are the same. -/
theorem exists_of_identity {first second : MemoryDirectory} {id : AccountId} {account : Account}
    (same : (first.find? id).map Account.identity = (second.find? id).map Account.identity)
    (found : first.find? id = some account) :
    ∃ other, second.find? id = some other ∧ other.name = account.name ∧ other.id = account.id := by
  obtain ⟨other, foundOther, same⟩ := exists_of_map same found
  exact ⟨other, foundOther, congrArg Identity.name same, congrArg Identity.id same⟩

/-- Changing one account, but for its identifier and its name, touches nothing else. -/
theorem sameNames_revise (directory : MemoryDirectory) (id : AccountId) {change : Account → Account}
    (keeps : ∀ account, (change account).identity = account.identity) :
    directory.SameNames (directory.revise id change) :=
  ⟨rfl, rfl, rfl, directory.map_find?_revise id keeps, fun _ _ => .inl, fun _ => .inl⟩

theorem sameNames_setPassword (directory : MemoryDirectory) (id : AccountId) (hash : String) :
    directory.SameNames (directory.setPassword id hash).2 := by
  rw [setPassword_eq_revise]
  exact directory.sameNames_revise id fun _ => rfl

theorem sameNames_badPassword (directory : MemoryDirectory) (id : AccountId) :
    directory.SameNames (directory.badPassword id) := by
  unfold badPassword
  split
  · next present =>
      refine ⟨rfl, rfl, rfl, fun _ => rfl, fun _ _ => .inl, ?_⟩
      intro other noted
      rw [Table.find?_insert] at noted
      split at noted
      · next same => exact .inr (same ▸ present)
      · exact .inl noted
  · exact .of_same rfl rfl rfl rfl rfl rfl

theorem sameNames_login (directory : MemoryDirectory) (uid : String) (id : AccountId) :
    directory.SameNames (directory.login uid id).2 := by
  have untouched : (directory.login uid id).2.casemap = directory.casemap ∧
      (directory.login uid id).2.names = directory.names ∧
      (directory.login uid id).2.nextNumber = directory.nextNumber := by
    unfold login
    split <;> exact ⟨rfl, rfl, rfl⟩
  obtain ⟨casemap, names, number⟩ := untouched
  refine ⟨casemap, names, number, ?_, ?_, ?_⟩
  · intro other
    rw [find?_login, Option.map_map]
    refine congrArg (Option.map · (directory.find? other)) (funext fun account => ?_)
    simp only [Function.comp_apply]
    split <;> rfl
  · intro other account entered
    rw [loggedInAs?_login] at entered
    split at entered
    · next new =>
        cases entered
        exact .inr new.2
    · exact .inl entered
  · intro other noted
    rw [badPasswords_login] at noted
    exact .inl noted

/-- The directory with one more account, which stands under the next number. -/
def enroll (directory : MemoryDirectory) (key : String) (account : Account) : MemoryDirectory :=
  { directory with
    nextNumber := directory.nextNumber + 1
    names := directory.names.insert key ⟨directory.nextNumber⟩
    accounts := directory.accounts.insert ⟨directory.nextNumber⟩ account }

theorem find?_enroll (directory : MemoryDirectory) (key : String) (account : Account)
    (id : AccountId) : (directory.enroll key account).find? id =
      if id = ⟨directory.nextNumber⟩ then some account else directory.find? id :=
  Table.find?_insert ..

/-- No account stands under the next number yet. -/
theorem Numbered.find?_next {directory : MemoryDirectory} (numbered : directory.Numbered) :
    directory.find? ⟨directory.nextNumber⟩ = none := by
  cases found : directory.find? ⟨directory.nextNumber⟩ with
  | none => rfl
  | some account => exact absurd (numbered _ account found) (Nat.lt_irrefl _)

theorem Numbered.enroll {directory : MemoryDirectory} (numbered : directory.Numbered)
    (key : String) (account : Account) : (directory.enroll key account).Numbered := by
  intro id other known
  rw [find?_enroll] at known
  split at known
  · next new =>
      rw [new]
      exact Nat.lt_succ_self _
  · exact Nat.lt_succ_of_lt (numbered id other known)

/-- Enrolling an account removes none. -/
theorem isSome_find?_enroll {directory : MemoryDirectory} (key : String) (account : Account)
    {id : AccountId} (present : (directory.find? id).isSome) :
    ((directory.enroll key account).find? id).isSome := by
  rw [find?_enroll]
  split
  · rfl
  · exact present

/-- Registering fails if the name has no key or its key is taken. Else it enrolls a new account. -/
theorem register_enrolls (directory : MemoryDirectory) (name : String)
    (password : Option String) :
    directory.register name password = none ∧
        (∀ key, directory.key name = some key → (directory.names.find? key).isSome) ∨
      ∃ key account, directory.key name = some key ∧ directory.names.find? key = none ∧
        account.name = name ∧ account.id = ⟨directory.nextNumber⟩ ∧ account.logins = 0 ∧
        directory.register name password =
          some (⟨directory.nextNumber⟩, directory.enroll key account) := by
  unfold register
  split
  · next none =>
      refine .inl ⟨rfl, ?_⟩
      intro key spelled
      rw [none] at spelled
      cases spelled
  · next key spelled =>
      split
      · next taken =>
          refine .inl ⟨rfl, ?_⟩
          intro other same
          rw [spelled] at same
          cases same
          exact taken
      · next free =>
          refine .inr ⟨key, _, spelled, ?_, rfl, rfl, rfl, rfl⟩
          exact Option.not_isSome_iff_eq_none.mp free

/-- The directory without an account and without what hangs on it. -/
def strike (directory : MemoryDirectory) (id : AccountId) (key : String) : MemoryDirectory :=
  { directory with
    accounts := directory.accounts.erase id
    names := directory.names.erase key
    loggedIn := directory.loggedIn.filter fun _ other => other ≠ id
    badPasswords := directory.badPasswords.erase id }

/-- Dropping strikes the account that is there from the directory. -/
theorem drop_of_find? {directory : MemoryDirectory} {id : AccountId} {account : Account}
    {key : String} (found : directory.find? id = some account)
    (spelled : directory.key account.name = some key) :
    directory.drop id = some (account, directory.strike id key) := by
  have found : directory.accounts.find? id = some account := found
  rw [drop, found]
  simp only [spelled, strike]

/-- The identifier that an operation hands out, if it registers an account. -/
def handedBy? (directory : MemoryDirectory) : Operation → Option AccountId
  | .register name password => (directory.register name password).map Prod.fst
  | _ => none

/-- What an operation can make of a directory if it leaves identifiers and names alone. -/
inductive Becomes (directory : MemoryDirectory) : Operation → MemoryDirectory → Prop where
  /-- The index stays as it is. -/
  | keeps {operation : Operation} {after : MemoryDirectory}
      (none : directory.handedBy? operation = none) (same : directory.SameNames after) :
      Becomes directory operation after
  /-- An account is registered. -/
  | enrolls {name key : String} {password : Option String} {account : Account}
      (spelled : directory.key account.name = some key) (free : directory.names.find? key = none)
      (own : account.id = ⟨directory.nextNumber⟩)
      (registered : directory.register name password =
        some (⟨directory.nextNumber⟩, directory.enroll key account)) :
      Becomes directory (.register name password) (directory.enroll key account)
  /-- An account is dropped. -/
  | strikes {id : AccountId} {account : Account} {key : String}
      (known : directory.find? id = some account)
      (spelled : directory.key account.name = some key) :
      Becomes directory (.drop id) (directory.strike id key)

theorem Becomes.casemap {directory after : MemoryDirectory} {operation : Operation}
    (becomes : directory.Becomes operation after) : after.casemap = directory.casemap := by
  cases becomes with
  | keeps _ same => exact same.casemap
  | enrolls => rfl
  | strikes => rfl

/-! ## The index after every run -/

/-- A directory whose parts are in step with its accounts. -/
structure Indexed (directory : MemoryDirectory) : Prop where
  keyed : directory.Keyed
  numbered : directory.Numbered
  /-- Every account has a key, under which the index holds it. -/
  listed : ∀ id account, directory.find? id = some account →
    ∃ key, directory.key account.name = some key ∧ directory.names.find? key = some id
  /-- The index holds nothing else. -/
  live : ∀ key id, directory.names.find? key = some id →
    ∃ account, directory.find? id = some account ∧ directory.key account.name = some key
  users : ∀ uid id, directory.loggedInAs? uid = some id → (directory.find? id).isSome
  attempts : ∀ id, (directory.badPasswords.find? id).isSome → (directory.find? id).isSome

namespace Indexed

theorem empty (casemap : Text.Casemap) : Indexed { casemap } := by
  refine ⟨?_, ?_, ?_, ?_, ?_, ?_⟩
  · exact (Built.empty casemap).keyed
  · exact (Built.empty casemap).numbered
  · intro id account found
    cases found
  · intro key id held
    cases held
  · intro uid id entered
    cases entered
  · intro id noted
    cases noted

theorem of_sameNames {before after : MemoryDirectory} (indexed : before.Indexed)
    (same : before.SameNames after) : after.Indexed := by
  have remains (id : AccountId) : (after.find? id).isSome = (before.find? id).isSome := by
    rw [← Option.isSome_map (f := Account.identity), same.identity, Option.isSome_map]
  refine ⟨?_, ?_, ?_, ?_, ?_, ?_⟩
  · intro id account found
    obtain ⟨earlier, known, -, own⟩ := exists_of_identity (same.identity id) found
    exact own.symm.trans (indexed.keyed id earlier known)
  · intro id account found
    obtain ⟨earlier, known, -, -⟩ := exists_of_identity (same.identity id) found
    rw [same.number]
    exact indexed.numbered id earlier known
  · intro id account found
    obtain ⟨earlier, known, name, -⟩ := exists_of_identity (same.identity id) found
    rw [same.key, same.names, ← name]
    exact indexed.listed id earlier known
  · intro key id held
    rw [same.names] at held
    obtain ⟨earlier, known, spelled⟩ := indexed.live key id held
    obtain ⟨account, found, name, -⟩ := exists_of_identity (same.identity id).symm known
    rw [← name, ← same.key] at spelled
    exact ⟨account, found, spelled⟩
  · intro uid id entered
    rw [remains]
    rcases same.users uid id entered with earlier | present
    · exact indexed.users uid id earlier
    · exact present
  · intro id noted
    rw [remains]
    rcases same.attempts id noted with earlier | present
    · exact indexed.attempts id earlier
    · exact present

section

variable {directory : MemoryDirectory}

theorem enroll (indexed : directory.Indexed) {key : String} {account : Account}
    (spelled : directory.key account.name = some key) (free : directory.names.find? key = none)
    (own : account.id = ⟨directory.nextNumber⟩) : (directory.enroll key account).Indexed := by
  have next := indexed.numbered.find?_next
  have held (other : String) : (directory.enroll key account).names.find? other =
      if other = key then some ⟨directory.nextNumber⟩ else directory.names.find? other :=
    Table.find?_insert ..
  refine ⟨indexed.keyed.insert rfl own, indexed.numbered.enroll key account, ?_, ?_, ?_, ?_⟩
  · intro id other known
    rw [find?_enroll] at known
    split at known
    · next new =>
        cases known
        exact ⟨key, spelled, by rw [held, if_pos rfl, new]⟩
    · -- The key of an older account is another one, since the new key was free.
      obtain ⟨own, spelled, listed⟩ := indexed.listed id other known
      have different : own ≠ key := by
        rintro rfl
        rw [free] at listed
        cases listed
      exact ⟨own, spelled, by rw [held, if_neg different, listed]⟩
  · intro other id listed
    rw [held] at listed
    split at listed
    · next same =>
        cases listed
        exact ⟨account, by rw [find?_enroll, if_pos rfl], spelled.trans (congrArg some same.symm)⟩
    · obtain ⟨owner, known, spelled⟩ := indexed.live other id listed
      have different : id ≠ ⟨directory.nextNumber⟩ := by
        rintro rfl
        rw [next] at known
        cases known
      exact ⟨owner, by rw [find?_enroll, if_neg different, known], spelled⟩
  · exact fun uid id entered => isSome_find?_enroll key account (indexed.users uid id entered)
  · exact fun id noted => isSome_find?_enroll key account (indexed.attempts id noted)

theorem strike (indexed : directory.Indexed) {id : AccountId} {account : Account} {key : String}
    (known : directory.find? id = some account) (spelled : directory.key account.name = some key) :
    (directory.strike id key).Indexed := by
  have found (other : AccountId) : (directory.strike id key).find? other =
      if other = id then none else directory.find? other :=
    Table.find?_erase ..
  have held (other : String) : (directory.strike id key).names.find? other =
      if other = key then none else directory.names.find? other :=
    Table.find?_erase ..
  have remains {other : AccountId} {left : Account}
      (present : (directory.strike id key).find? other = some left) :
      other ≠ id ∧ directory.find? other = some left := by
    rw [found] at present
    split at present
    · cases present
    · next different => exact ⟨different, present⟩
  have owned : directory.names.find? key = some id := by
    obtain ⟨own, same, listed⟩ := indexed.listed id account known
    rw [spelled] at same
    cases same
    exact listed
  refine ⟨?_, ?_, ?_, ?_, ?_, ?_⟩
  · exact fun other left present => indexed.keyed other left (remains present).2
  · exact fun other left present => indexed.numbered other left (remains present).2
  · intro other left present
    obtain ⟨different, present⟩ := remains present
    obtain ⟨own, same, listed⟩ := indexed.listed other left present
    -- The key that is struck out belongs to the account that goes.
    have kept : own ≠ key := by
      rintro rfl
      rw [owned] at listed
      exact different (Option.some.inj listed).symm
    exact ⟨own, same, by rw [held, if_neg kept, listed]⟩
  · intro other owner listed
    rw [held] at listed
    split at listed
    · cases listed
    · next kept =>
        obtain ⟨left, present, same⟩ := indexed.live other owner listed
        have different : owner ≠ id := by
          rintro rfl
          rw [known] at present
          cases present
          exact kept (Option.some.inj (same.symm.trans spelled))
        exact ⟨left, by rw [found, if_neg different, present], same⟩
  · intro uid other entered
    rw [loggedInAs?, MemoryDirectory.strike, Table.find?_filter,
      Option.filter_eq_some_iff] at entered
    obtain ⟨entered, different⟩ := entered
    rw [found, if_neg (of_decide_eq_true different)]
    exact indexed.users uid other entered
  · intro other noted
    rw [MemoryDirectory.strike, Table.find?_erase] at noted
    split at noted
    · cases noted
    · next different =>
        rw [found, if_neg different]
        exact indexed.attempts other noted

/-- An operation that leaves identifiers and names alone keeps the index, enrolls an account or
strikes one out. -/
theorem becomes (indexed : directory.Indexed) {operation : Operation}
    (keeps : operation.KeepsIdentity) :
    directory.Becomes operation (directory.apply operation) := by
  cases operation with
  | register name password =>
      simp only [MemoryDirectory.apply]
      rcases directory.register_enrolls name password with ⟨none, -⟩ |
        ⟨key, account, spelled, free, named, own, -, registered⟩
      · rw [none]
        exact .keeps (by rw [handedBy?, none]; rfl) (.of_same rfl rfl rfl rfl rfl rfl)
      · rw [registered]
        exact .enrolls (named ▸ spelled) free own registered
  | drop id =>
      simp only [MemoryDirectory.apply]
      cases found : directory.find? id with
      | none =>
          have absent : directory.drop id = none := by
            have found : directory.accounts.find? id = none := found
            rw [drop, found]
          rw [absent]
          exact .keeps rfl (.of_same rfl rfl rfl rfl rfl rfl)
      | some account =>
          obtain ⟨key, spelled, -⟩ := indexed.listed id account found
          rw [drop_of_find? found spelled]
          exact .strikes found spelled
  | revise id change => exact .keeps rfl (directory.sameNames_revise id keeps)
  | badPassword id => exact .keeps rfl (directory.sameNames_badPassword id)
  | setPassword id hash => exact .keeps rfl (directory.sameNames_setPassword id hash)
  | login uid id => exact .keeps rfl (directory.sameNames_login uid id)
  | limit max => exact .keeps rfl (.of_same rfl rfl rfl rfl rfl rfl)
  | impersonateHook hook => exact .keeps rfl (.of_same rfl rfl rfl rfl rfl rfl)
  | admissionHook hook => exact .keeps rfl (.of_same rfl rfl rfl rfl rfl rfl)
  | online uid => exact .keeps rfl (.of_same rfl rfl rfl rfl rfl rfl)

theorem of_becomes {operation : Operation} {after : MemoryDirectory} (indexed : directory.Indexed)
    (becomes : directory.Becomes operation after) : after.Indexed := by
  cases becomes with
  | keeps _ same => exact indexed.of_sameNames same
  | enrolls spelled free own _ => exact indexed.enroll spelled free own
  | strikes known spelled => exact indexed.strike known spelled

/-- The index stays in step whatever is done, if identifiers and names are left alone. -/
theorem apply (indexed : directory.Indexed) {operation : Operation}
    (keeps : operation.KeepsIdentity) : (directory.apply operation).Indexed :=
  indexed.of_becomes (indexed.becomes keeps)

theorem run (indexed : directory.Indexed) {operations : List Operation}
    (keep : ∀ operation ∈ operations, operation.KeepsIdentity) :
    (directory.run operations).Indexed :=
  run_invariant Operation.KeepsIdentity Indexed (fun _ _ keeps indexed => indexed.apply keeps)
    indexed keep

/-! ## What the index is good for -/

/-- An account is found by a name exactly if it is there and has the key of that name. -/
theorem findName?_eq_some_iff (indexed : directory.Indexed) {name : String} {account : Account} :
    directory.findName? name = some account ↔
      directory.find? account.id = some account ∧
        directory.key account.name = directory.key name := by
  unfold findName?
  constructor
  · intro known
    split at known
    · next id held =>
        obtain ⟨key, spelled, held⟩ := Option.bind_eq_some_iff.mp held
        obtain ⟨owner, found, same⟩ := indexed.live key id held
        have found : directory.accounts.find? id = some owner := found
        cases found.symm.trans known
        rw [indexed.keyed id account known]
        exact ⟨known, same.trans spelled.symm⟩
    · cases known
  · rintro ⟨found, same⟩
    obtain ⟨key, spelled, held⟩ := indexed.listed account.id account found
    rw [← same, spelled, Option.bind_some, held]
    exact found

theorem mem_values_iff (indexed : directory.Indexed) {account : Account} :
    account ∈ directory.accounts.values ↔ directory.find? account.id = some account := by
  rw [Table.values, List.mem_map]
  constructor
  · rintro ⟨⟨id, _⟩, held, rfl⟩
    have found : directory.find? id = some _ := Table.find?_eq_some_iff.mpr held
    rw [indexed.keyed id _ found]
    exact found
  · intro found
    exact ⟨_, Table.find?_eq_some_iff.mp found, rfl⟩

/-- Looking a name up comes to the same as searching all accounts for its key. -/
theorem findName?_eq_search (indexed : directory.Indexed) (name : String) :
    directory.findName? name =
      directory.accounts.values.find? fun account =>
        directory.key account.name = directory.key name := by
  apply Option.ext
  intro account
  rw [indexed.findName?_eq_some_iff]
  constructor
  · rintro ⟨found, same⟩
    cases searched : directory.accounts.values.find? fun account =>
        directory.key account.name = directory.key name with
    | none =>
        rw [List.find?_eq_none] at searched
        exact absurd (decide_eq_true same) (searched account (indexed.mem_values_iff.mpr found))
    | some first =>
        -- No two accounts have one key, so the first account with it is the only one.
        have matched := List.find?_some searched
        rw [decide_eq_true_iff] at matched
        have held := indexed.mem_values_iff.mp (List.mem_of_find?_eq_some searched)
        have one := indexed.findName?_eq_some_iff.mpr ⟨found, same⟩
        have other := indexed.findName?_eq_some_iff.mpr ⟨held, matched⟩
        exact other.symm.trans one
  · intro searched
    have matched := List.find?_some searched
    rw [decide_eq_true_iff] at matched
    exact ⟨indexed.mem_values_iff.mp (List.mem_of_find?_eq_some searched), matched⟩

/-- A name can be registered exactly if it has a key that no account has. -/
theorem isSome_register_iff (indexed : directory.Indexed) (name : String)
    (password : Option String) :
    (directory.register name password).isSome ↔
      ∃ key, directory.key name = some key ∧
        ∀ id account, directory.find? id = some account →
          directory.key account.name ≠ some key := by
  rcases directory.register_enrolls name password with ⟨none, taken⟩ |
    ⟨key, account, spelled, free, -, -, -, registered⟩
  · rw [none]
    refine iff_of_false (by decide) ?_
    rintro ⟨key, spelled, free⟩
    obtain ⟨id, held⟩ := Option.isSome_iff_exists.mp (taken key spelled)
    obtain ⟨owner, found, same⟩ := indexed.live key id held
    exact free id owner found same
  · rw [registered]
    refine iff_of_true rfl ⟨key, spelled, ?_⟩
    intro id owner found same
    obtain ⟨own, spelledOwn, held⟩ := indexed.listed id owner found
    rw [same] at spelledOwn
    cases spelledOwn
    rw [free] at held
    cases held

end

end Indexed

/-! ## Identifiers -/

/-- The identifiers that a run hands out, in the order in which it does. -/
def handed (directory : MemoryDirectory) : List Operation → List AccountId
  | [] => []
  | operation :: rest =>
      (directory.handedBy? operation).toList ++ (directory.apply operation).handed rest

/-- A run hands out the next numbers one after the other, and leaves out none. -/
theorem Indexed.numbers_handed {directory : MemoryDirectory} (indexed : directory.Indexed)
    {operations : List Operation} (keep : ∀ operation ∈ operations, operation.KeepsIdentity) :
    (directory.handed operations).map AccountId.number =
        List.range' directory.nextNumber (directory.handed operations).length ∧
      (directory.run operations).nextNumber =
        directory.nextNumber + (directory.handed operations).length := by
  induction operations generalizing directory with
  | nil => exact ⟨rfl, rfl⟩
  | cons operation rest ih =>
      simp only [List.mem_cons, forall_eq_or_imp] at keep
      obtain ⟨numbers, next⟩ := ih (indexed.apply keep.1) keep.2
      have becomes := indexed.becomes keep.1
      simp only [handed, run_cons]
      generalize directory.apply operation = after at numbers next becomes ⊢
      cases becomes with
      | keeps none same =>
          rw [same.number] at numbers next
          rw [none]
          exact ⟨numbers, next⟩
      | strikes => exact ⟨numbers, next⟩
      | enrolls _ _ _ registered =>
          simp only [handedBy?, registered, Option.map_some, Option.toList_some,
            List.singleton_append, List.map_cons, List.length_cons, List.range'_succ]
          refine ⟨congrArg (List.cons _) numbers, ?_⟩
          rw [next, MemoryDirectory.enroll, Nat.add_assoc, Nat.add_comm 1]

/-- Dropping an account retires it. -/
theorem Indexed.retired_of_drop {directory : MemoryDirectory} (indexed : directory.Indexed)
    {id : AccountId} (live : (directory.find? id).isSome) :
    (directory.apply (.drop id)).Retired id := by
  obtain ⟨account, found⟩ := Option.isSome_iff_exists.mp live
  obtain ⟨key, spelled, -⟩ := indexed.listed id account found
  simp only [MemoryDirectory.apply]
  rw [drop_of_find? found spelled]
  refine ⟨?_, indexed.numbered id account found⟩
  exact (Table.find?_erase ..).trans (if_pos rfl)

/-- Nothing is left of an account: neither it nor a login nor a failed attempt is found. -/
structure Gone (directory : MemoryDirectory) (id : AccountId) : Prop where
  absent : directory.find? id = none
  unnamed : ∀ name account, directory.findName? name = some account → account.id ≠ id
  loggedOut : ∀ uid, directory.loggedInAs? uid ≠ some id
  forgiven : directory.badPasswordCount id = 0

/-- What hangs on an account goes with it. -/
theorem Indexed.gone {directory : MemoryDirectory} (indexed : directory.Indexed) {id : AccountId}
    (absent : directory.find? id = none) : directory.Gone id := by
  refine ⟨absent, ?_, ?_, ?_⟩
  · rintro name account known rfl
    have found := (indexed.findName?_eq_some_iff.mp known).1
    rw [absent] at found
    cases found
  · intro uid entered
    have live := indexed.users uid id entered
    rw [absent] at live
    cases live
  · rw [badPasswordCount]
    cases noted : directory.badPasswords.find? id with
    | none => rfl
    | some count =>
        have live := indexed.attempts id (by rw [noted]; rfl)
        rw [absent] at live
        cases live

/-- What the index of a directory is to its accounts. -/
structure Exact (directory : MemoryDirectory) : Prop where
  /-- Every account stands under its own identifier. -/
  keyed : directory.Keyed
  /-- Every account has a key. -/
  spelled : ∀ id account, directory.find? id = some account → (directory.key account.name).isSome
  /-- The index holds the keys of the accounts and nothing else. -/
  index : ∀ key id, directory.names.find? key = some id ↔
    ∃ account, directory.find? id = some account ∧ directory.key account.name = some key
  /-- No two accounts have one key. -/
  distinct : ∀ first second one other, directory.find? first = some one →
    directory.find? second = some other →
    directory.key one.name = directory.key other.name → first = second
  /-- A name is looked up as if all accounts were searched for its key. -/
  search : ∀ name, directory.findName? name =
    directory.accounts.values.find? fun account =>
      directory.key account.name = directory.key name
  /-- A name can be registered exactly if it has a key that no account has. -/
  free : ∀ name password, (directory.register name password).isSome ↔
    ∃ key, directory.key name = some key ∧
      ∀ id account, directory.find? id = some account → directory.key account.name ≠ some key

theorem Indexed.exact {directory : MemoryDirectory} (indexed : directory.Indexed) :
    directory.Exact := by
  refine ⟨indexed.keyed, ?_, ?_, ?_, indexed.findName?_eq_search, indexed.isSome_register_iff⟩
  · intro id account found
    obtain ⟨key, spelled, -⟩ := indexed.listed id account found
    exact Option.isSome_iff_exists.mpr ⟨key, spelled⟩
  · intro key id
    refine ⟨indexed.live key id, ?_⟩
    rintro ⟨account, found, spelled⟩
    obtain ⟨own, same, held⟩ := indexed.listed id account found
    rw [spelled] at same
    cases same
    exact held
  · intro first second one other foundOne foundOther same
    obtain ⟨key, spelled, held⟩ := indexed.listed first one foundOne
    obtain ⟨own, spelledOwn, heldOwn⟩ := indexed.listed second other foundOther
    rw [← same, spelled] at spelledOwn
    cases spelledOwn
    rw [held] at heldOwn
    exact Option.some.inj heldOwn

/-- A directory that was empty at first, with whatever casemapping, has an index that is exact after
every run that leaves the identifiers and the names of accounts alone. The identifiers that the run
has handed out are numbered from one on without gaps, so that as long as they are fewer than
2⁶⁴ − 1, the next one is still a word of 64 bits. Nothing is left of an account that the run has
dropped. -/
theorem index_exact (casemap : Text.Casemap) (operations : List Operation)
    (keep : ∀ operation ∈ operations, operation.KeepsIdentity) :
    let empty : MemoryDirectory := { casemap }
    let directory := empty.run operations
    directory.casemap = casemap ∧ directory.Exact ∧
    (empty.handed operations).Pairwise (fun early late => early.number < late.number) ∧
    directory.nextNumber = (empty.handed operations).length + 1 ∧
    ∀ early late id, operations = early ++ .drop id :: late →
      ((empty.run early).find? id).isSome → directory.Gone id := by
  intro empty directory
  have initially : empty.Indexed := .empty casemap
  have indexed : directory.Indexed := initially.run keep
  obtain ⟨numbers, next⟩ := initially.numbers_handed keep
  refine ⟨?_, indexed.exact, ?_, ?_, ?_⟩
  · have kept : directory.Indexed ∧ directory.casemap = casemap := by
      refine run_invariant Operation.KeepsIdentity
        (fun middle => middle.Indexed ∧ middle.casemap = casemap) ?_ ⟨initially, rfl⟩ keep
      rintro middle operation keeps ⟨indexed, same⟩
      exact ⟨indexed.apply keeps, (indexed.becomes keeps).casemap.trans same⟩
    exact kept.2
  · rw [← List.pairwise_map (f := AccountId.number) (R := (· < ·)), numbers]
    exact List.pairwise_lt_range' 1
  · rw [next, Nat.add_comm]
  · rintro early late id rfl live
    have keepEarly : ∀ operation ∈ early, operation.KeepsIdentity :=
      fun operation member => keep operation (List.mem_append_left _ member)
    have dropped := (initially.run keepEarly).retired_of_drop live
    have retired : directory.Retired id := by
      have split : directory = ((empty.run early).apply (.drop id)).run late :=
        empty.run_append early _
      rw [split]
      exact run_invariant (fun _ => True) (·.Retired id)
        (fun _ operation _ retired => retired.apply operation) dropped fun _ _ => trivial
    exact indexed.gone retired.absent

/-- An account is registered, its name is taken for another one in vain, somebody logs in and fails
to log in to it, it is changed by hand and dropped, and its name is registered again. -/
def reusedRun : List Operation :=
  [.register "User[1]" none,
   .register "uSER{1}" none,
   .register "Oper" (some "secret"),
   .login "U1" ⟨1⟩,
   .badPassword ⟨1⟩,
   .revise ⟨1⟩ fun account => { account with operClass := some "sra" },
   .drop ⟨1⟩,
   .register "USER{1}" none]

/-- The name now belongs to the new account, and nothing is left of the old one. -/
theorem index_exact_reused :
    let empty : MemoryDirectory := { casemap := .rfc1459 }
    (empty.handed reusedRun).map AccountId.number = [1, 2, 3] ∧
    ((empty.run reusedRun).findName? "user[1]").map Account.id = some ⟨3⟩ ∧
    (empty.run reusedRun).Exact ∧ (empty.run reusedRun).nextNumber = 4 ∧
    (empty.run reusedRun).Gone ⟨1⟩ := by
  intro empty
  have keep : ∀ operation ∈ reusedRun, operation.KeepsIdentity := by
    simp only [reusedRun, List.mem_cons, forall_eq_or_imp, List.not_mem_nil,
      Operation.KeepsIdentity]
    exact ⟨trivial, trivial, trivial, trivial, trivial, fun _ => rfl, trivial, trivial, nofun⟩
  obtain ⟨handed, named, live⟩ : (empty.handed reusedRun).map AccountId.number = [1, 2, 3] ∧
      ((empty.run reusedRun).findName? "user[1]").map Account.id = some ⟨3⟩ ∧
      ((empty.run (reusedRun.take 6)).find? ⟨1⟩).isSome := by
    decide +kernel
  obtain ⟨-, exact, -, next, gone⟩ := index_exact .rfc1459 reusedRun keep
  have three : (empty.handed reusedRun).length = 3 := by
    rw [← List.length_map (f := AccountId.number), handed]
    rfl
  exact ⟨handed, named, exact, next.trans (congrArg (· + 1) three), gone _ _ ⟨1⟩ rfl live⟩

end IrcSasl.MemoryDirectory
