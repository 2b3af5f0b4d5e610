set_option autoImplicit false

/-!
# Tables

A table assigns values to keys. It lists its entries in the order in which their keys first came
in, and holds no key twice, which is part of the type. The view of a table is `find?`; the lemmas
say what each operation does to it.
-/

namespace IrcSasl

/-- Distinct keys with their values, in order of insertion. -/
structure Table (κ ν : Type) where
  /-- The keys with their values. -/
  entries : List (κ × ν)
  distinct : (entries.map Prod.fst).Nodup

namespace Table

variable {κ ν : Type}

/-- The table without entries. -/
def empty : Table κ ν := ⟨[], List.nodup_nil⟩

instance : Inhabited (Table κ ν) := ⟨empty⟩

/-- The keys, oldest first. -/
def keys (table : Table κ ν) : List κ := table.entries.map Prod.fst

/-- The values, oldest key first. -/
def values (table : Table κ ν) : List ν := table.entries.map Prod.snd

/-- How many keys have a value. -/
def size (table : Table κ ν) : Nat := table.entries.length

/-- Whether no key has a value. -/
def isEmpty (table : Table κ ν) : Bool := table.entries.isEmpty

/-- Keeps the entries that satisfy a test. -/
def filter (test : κ → ν → Bool) (table : Table κ ν) : Table κ ν :=
  ⟨table.entries.filter fun entry => test entry.1 entry.2,
    table.distinct.sublist (List.filter_sublist.map Prod.fst)⟩

/-- Changes every value. -/
def mapValues (change : ν → ν) (table : Table κ ν) : Table κ ν :=
  ⟨table.entries.map fun entry => (entry.1, change entry.2), by
    simpa [Function.comp_def] using table.distinct⟩

variable [DecidableEq κ]

/-- The value beside the first occurrence of a key. -/
def lookup (key : κ) : List (κ × ν) → Option ν
  | [] => none
  | entry :: rest => if entry.1 = key then some entry.2 else lookup key rest

/-- The value of a key. -/
def find? (table : Table κ ν) (key : κ) : Option ν := lookup key table.entries

/-- Whether a key has a value. -/
def contains (table : Table κ ν) (key : κ) : Bool := (table.find? key).isSome

/-- Removes a key. -/
def erase (table : Table κ ν) (key : κ) : Table κ ν := table.filter fun other _ => other ≠ key

/-- Replaces the value of a key where it stands, or puts a new key at the end. -/
def place (key : κ) (value : ν) : List (κ × ν) → List (κ × ν)
  | [] => [(key, value)]
  | entry :: rest =>
      if entry.1 = key then (key, value) :: rest else entry :: place key value rest

theorem mem_map_fst_place {key other : κ} {value : ν} {entries : List (κ × ν)} :
    other ∈ (place key value entries).map Prod.fst ↔
      other = key ∨ other ∈ entries.map Prod.fst := by
  induction entries with
  | nil => simp [place]
  | cons entry rest ih =>
      simp only [place]
      split
      · next same => simp [same]
      · simp only [List.map_cons, List.mem_cons, ih]
        constructor <;> rintro (h | h | h) <;> simp [h]

theorem nodup_map_fst_place (key : κ) (value : ν) {entries : List (κ × ν)}
    (distinct : (entries.map Prod.fst).Nodup) :
    ((place key value entries).map Prod.fst).Nodup := by
  induction entries with
  | nil => simp [place]
  | cons entry rest ih =>
      simp only [List.map_cons, List.nodup_cons] at distinct
      simp only [place]
      split
      · next same => simpa [← same] using distinct
      · next other =>
          simp only [List.map_cons, List.nodup_cons, mem_map_fst_place, not_or]
          exact ⟨⟨other, distinct.1⟩, ih distinct.2⟩

/-- Gives a key a value, whether or not it had one. -/
def insert (table : Table κ ν) (key : κ) (value : ν) : Table κ ν :=
  ⟨place key value table.entries, nodup_map_fst_place key value table.distinct⟩

/-- Changes the value of a key that has one. -/
def modify (table : Table κ ν) (key : κ) (change : ν → ν) : Table κ ν :=
  match table.find? key with
  | none => table
  | some value => table.insert key (change value)

/-! ## The view -/

theorem lookup_place (key other : κ) (value : ν) (entries : List (κ × ν)) :
    lookup other (place key value entries) =
      if other = key then some value else lookup other entries := by
  induction entries with
  | nil => by_cases h : key = other <;> simp [place, lookup, h, eq_comm]
  | cons entry rest ih =>
      simp only [place]
      split
      · next same =>
          subst same
          by_cases h : entry.1 = other
          · simp [lookup, h]
          · simp [lookup, h, Ne.symm h]
      · next different =>
          by_cases h : entry.1 = other
          · subst h
            simp [lookup, different]
          · simp [lookup, h, ih]

@[simp] theorem find?_insert (table : Table κ ν) (key other : κ) (value : ν) :
    (table.insert key value).find? other = if other = key then some value else table.find? other :=
  lookup_place key other value table.entries

theorem find?_insert_self (table : Table κ ν) (key : κ) (value : ν) :
    (table.insert key value).find? key = some value := by
  simp

theorem lookup_eq_some_iff {entries : List (κ × ν)} (distinct : (entries.map Prod.fst).Nodup)
    {key : κ} {value : ν} : lookup key entries = some value ↔ (key, value) ∈ entries := by
  induction entries with
  | nil => simp [lookup]
  | cons entry rest ih =>
      simp only [List.map_cons, List.nodup_cons, List.mem_map, not_exists, not_and] at distinct
      obtain ⟨first, second⟩ := entry
      by_cases h : first = key
      · subst h
        have absent : (first, value) ∉ rest := fun member => distinct.1 _ member rfl
        simp [lookup, absent, eq_comm]
      · simp [lookup, h, ih distinct.2, Ne.symm h]

/-- A key has a value exactly if the two stand together in the table. -/
theorem find?_eq_some_iff {table : Table κ ν} {key : κ} {value : ν} :
    table.find? key = some value ↔ (key, value) ∈ table.entries :=
  lookup_eq_some_iff table.distinct

theorem find?_filter (test : κ → ν → Bool) (table : Table κ ν) (key : κ) :
    (table.filter test).find? key = (table.find? key).filter (test key) := by
  apply Option.ext
  intro value
  rw [find?_eq_some_iff, Option.filter_eq_some_iff, find?_eq_some_iff]
  simp [filter]

@[simp] theorem find?_erase (table : Table κ ν) (key other : κ) :
    (table.erase key).find? other = if other = key then none else table.find? other := by
  rw [erase, find?_filter]
  by_cases h : other = key <;> cases table.find? other <;> simp [h]

@[simp] theorem find?_mapValues (table : Table κ ν) (change : ν → ν) (key : κ) :
    (table.mapValues change).find? key = (table.find? key).map change := by
  have general : ∀ entries : List (κ × ν),
      lookup key (entries.map fun entry => (entry.1, change entry.2)) =
        (lookup key entries).map change := by
    intro entries
    induction entries with
    | nil => rfl
    | cons entry rest ih => by_cases h : entry.1 = key <;> simp [lookup, h, ih]
  exact general table.entries

@[simp] theorem find?_modify (table : Table κ ν) (key other : κ) (change : ν → ν) :
    (table.modify key change).find? other =
      if other = key then (table.find? key).map change else table.find? other := by
  unfold modify
  cases h : table.find? key with
  | none =>
      by_cases same : other = key
      · simp [same, h]
      · simp [same]
  | some value => simp

end Table

end IrcSasl
