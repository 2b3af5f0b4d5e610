import IrcSasl.Proofs.Account.Index

set_option autoImplicit false

/-!
# Certificates and the order of accounts

Accounts stand in the directory in the order of their identifiers: whatever is done, accounts go
away and new ones come in at the end (`Ordered.apply`). So the first account that lists a
certificate is the one with the smallest identifier (`Filed.owns_of_findCertfp?`).
-/

namespace IrcSasl

/-! ## Keys of a table -/

namespace Table

variable {κ ν : Type}

theorem keys_filter (test : κ → ν → Bool) (table : Table κ ν) :
    (table.filter test).keys.Sublist table.keys :=
  List.filter_sublist.map Prod.fst

variable [DecidableEq κ]

theorem map_fst_place (key : κ) (value : ν) (entries : List (κ × ν)) :
    (place key value entries).map Prod.fst =
      if key ∈ entries.map Prod.fst then entries.map Prod.fst
      else entries.map Prod.fst ++ [key] := by
  induction entries with
  | nil => simp [place]
  | cons entry rest ih =>
      by_cases same : entry.1 = key
      · simp [place, same]
      · by_cases later : key ∈ rest.map Prod.fst
        · rw [if_pos later] at ih
          simp only [place, same, if_false, List.map_cons, ih, List.mem_cons, later, or_true,
            if_true]
        · rw [if_neg later] at ih
          simp only [place, same, if_false, List.map_cons, ih, List.mem_cons, later, or_false,
            Ne.symm same, List.cons_append]

/-- A key that is new comes last. -/
theorem keys_insert (table : Table κ ν) (key : κ) (value : ν) :
    (table.insert key value).keys =
      if key ∈ table.keys then table.keys else table.keys ++ [key] :=
  map_fst_place key value table.entries

theorem isSome_find?_iff {table : Table κ ν} {key : κ} :
    (table.find? key).isSome ↔ key ∈ table.keys := by
  rw [Option.isSome_iff_exists, keys, List.mem_map]
  constructor
  · rintro ⟨value, found⟩
    exact ⟨(key, value), find?_eq_some_iff.mp found, rfl⟩
  · rintro ⟨⟨_, value⟩, member, rfl⟩
    exact ⟨value, find?_eq_some_iff.mpr member⟩

theorem keys_insert_of_find? {table : Table κ ν} {key : κ} {old : ν}
    (found : table.find? key = some old) (value : ν) :
    (table.insert key value).keys = table.keys := by
  rw [keys_insert, if_pos (isSome_find?_iff.mp (Option.isSome_of_eq_some found))]

@[simp] theorem keys_modify (table : Table κ ν) (key : κ) (change : ν → ν) :
    (table.modify key change).keys = table.keys := by
  unfold modify
  split
  · rfl
  · next value found => exact keys_insert_of_find? found _

end Table

namespace MemoryDirectory

/-! ## The order of accounts -/

/-- The accounts stand in the order of their identifiers. -/
def Ordered (directory : MemoryDirectory) : Prop :=
  directory.accounts.keys.Pairwise fun early late => early.number < late.number

theorem keys_login (directory : MemoryDirectory) (uid : String) (id : AccountId) :
    (directory.login uid id).2.accounts.keys = directory.accounts.keys := by
  unfold login
  split
  · rfl
  · next account found =>
      simp only
      split
      · exact Table.keys_insert_of_find? found _
      · rw [Table.keys_modify]
        exact Table.keys_insert_of_find? found _

/-- Whatever is done, accounts go away at most, and a new one comes in at the end. -/
theorem keys_apply (directory : MemoryDirectory) (operation : Operation) :
    (directory.apply operation).accounts.keys.Sublist
      (directory.accounts.keys ++ [⟨directory.nextNumber⟩]) := by
  have kept {after : MemoryDirectory} (same : after.accounts.keys = directory.accounts.keys) :
      after.accounts.keys.Sublist (directory.accounts.keys ++ [⟨directory.nextNumber⟩]) := by
    rw [same]
    exact List.sublist_append_left _ _
  cases operation with
  | register name password =>
      simp only [apply]
      rcases directory.register_enrolls name password with ⟨none, -⟩ |
        ⟨key, account, -, -, -, -, -, registered⟩
      · rw [none]
        exact kept rfl
      · rw [registered]
        simp only [Option.elim_some, enroll, Table.keys_insert]
        split
        · exact List.sublist_append_left _ _
        · exact .refl _
  | drop id =>
      simp only [apply, drop]
      split
      · exact kept rfl
      · exact (Table.keys_filter _ _).trans (List.sublist_append_left _ _)
  | revise id change => exact kept (Table.keys_modify ..)
  | badPassword id =>
      refine kept ?_
      simp only [apply, badPassword]
      split <;> rfl
  | setPassword id hash =>
      refine kept ?_
      simp only [apply, setPassword_eq_revise]
      exact Table.keys_modify ..
  | login uid id => exact kept (directory.keys_login uid id)
  | limit max => exact kept rfl
  | impersonateHook hook => exact kept rfl
  | admissionHook hook => exact kept rfl
  | online uid => exact kept rfl

/-- The order is kept, as the next number is greater than all before. -/
theorem Ordered.apply {directory : MemoryDirectory} (ordered : directory.Ordered)
    (numbered : directory.Numbered) (operation : Operation) :
    (directory.apply operation).Ordered := by
  refine List.Pairwise.sublist (directory.keys_apply operation) ?_
  rw [List.pairwise_append]
  refine ⟨ordered, List.pairwise_singleton _ _, ?_⟩
  intro id member next last
  rw [List.mem_singleton.mp last]
  obtain ⟨account, found⟩ := Option.isSome_iff_exists.mp (Table.isSome_find?_iff.mpr member)
  exact numbered id account found

/-- The index is in step with the accounts, and the accounts stand in the order of their
identifiers. -/
structure Filed (directory : MemoryDirectory) : Prop where
  indexed : directory.Indexed
  ordered : directory.Ordered

namespace Filed

theorem empty (casemap : Text.Casemap) : Filed { casemap } := ⟨.empty casemap, List.Pairwise.nil⟩

theorem apply {directory : MemoryDirectory} (filed : directory.Filed) {operation : Operation}
    (keeps : operation.KeepsIdentity) : (directory.apply operation).Filed :=
  ⟨filed.indexed.apply keeps, filed.ordered.apply filed.indexed.numbered operation⟩

theorem run {directory : MemoryDirectory} (filed : directory.Filed) {operations : List Operation}
    (keep : ∀ operation ∈ operations, operation.KeepsIdentity) :
    (directory.run operations).Filed :=
  run_invariant Operation.KeepsIdentity Filed (fun _ _ keeps filed => filed.apply keeps) filed keep

/-- So listed one after another, accounts have rising identifiers. -/
theorem pairwise_values {directory : MemoryDirectory} (filed : directory.Filed) :
    directory.accounts.values.Pairwise fun early late => early.id.number < late.id.number := by
  have own : directory.accounts.values.map Account.id = directory.accounts.keys := by
    rw [Table.values, Table.keys, List.map_map]
    refine List.map_congr_left fun entry member => ?_
    exact filed.indexed.keyed entry.1 entry.2 (Table.find?_eq_some_iff.mpr member)
  have ordered := filed.ordered
  unfold Ordered at ordered
  rwa [← own, List.pairwise_map] at ordered

end Filed

/-! ## Certificates -/

/-- An account lists a certificate, whatever the case of the letters is. -/
def Lists (account : Account) (certfp : String) : Prop :=
  ∃ own ∈ account.certfps, own.toList.map Char.toLower = certfp.toList.map Char.toLower

theorem ownsCertificate_iff_lists {account : Account} {certfp : String} :
    account.ownsCertificate certfp = true ↔ Lists account certfp := by
  simp [Account.ownsCertificate, Lists]

/-- The account with the smallest identifier among those that list a certificate. -/
structure Owns (directory : MemoryDirectory) (certfp : String) (owner : Account) : Prop where
  live : directory.find? owner.id = some owner
  lists : Lists owner certfp
  oldest : ∀ id other, directory.find? id = some other → Lists other certfp →
    owner.id.number ≤ id.number

/-- A certificate is looked up as the oldest account that lists it. -/
theorem Filed.owns_of_findCertfp? {directory : MemoryDirectory} (filed : directory.Filed)
    {certfp : String} {owner : Account} (found : directory.findCertfp? certfp = some owner) :
    directory.Owns certfp owner := by
  obtain ⟨lists, early, late, split, none⟩ := List.find?_eq_some_iff_append.mp found
  have sorted := filed.pairwise_values
  rw [split, List.pairwise_append, List.pairwise_cons] at sorted
  have member : owner ∈ directory.accounts.values := by
    rw [split]
    exact List.mem_append_right _ List.mem_cons_self
  refine ⟨filed.indexed.mem_values_iff.mp member, ownsCertificate_iff_lists.mp lists, ?_⟩
  intro id other known listed
  have own := filed.indexed.keyed id other known
  rw [← own] at known ⊢
  have member := filed.indexed.mem_values_iff.mpr known
  rw [split, List.mem_append, List.mem_cons] at member
  rcases member with before | rfl | after
  · have unlisted := none other before
    rw [ownsCertificate_iff_lists.mpr listed] at unlisted
    cases unlisted
  · exact Nat.le_refl _
  · exact Nat.le_of_lt (sorted.2.1.1 other after)

end MemoryDirectory

end IrcSasl
