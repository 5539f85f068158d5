import Mathlib.Data.List.AList
import Mathlib.Data.List.Sort

/-!
# Dictionaries

Finite maps over association lists without repeated keys.  A traversal goes through the entries in
an order given by an arbitrary ranking, because that of a hash map is not specified.
-/

abbrev Dictionary (κ ν : Type) : Type :=
  AList fun _ : κ => ν

namespace Dictionary

variable {κ ν : Type} [DecidableEq κ]

/-- Change the value stored under a key, if there is one. -/
def modify (key : κ) (change : ν → ν) (dictionary : Dictionary κ ν) : Dictionary κ ν :=
  match dictionary.lookup key with
  | none => dictionary
  | some value => dictionary.insert key (change value)

/-- Change every value in a way that may depend on its key. -/
def mapEntries (change : κ → ν → ν) (dictionary : Dictionary κ ν) : Dictionary κ ν where
  entries := dictionary.entries.map fun entry => ⟨entry.1, change entry.1 entry.2⟩
  nodupKeys := by
    rw [List.NodupKeys, List.keys, List.map_map]
    exact dictionary.nodupKeys

def mapValues (change : ν → ν) (dictionary : Dictionary κ ν) : Dictionary κ ν :=
  dictionary.mapEntries fun _ => change

def restrict (keep : κ → ν → Bool) (dictionary : Dictionary κ ν) : Dictionary κ ν where
  entries := dictionary.entries.filter fun entry => keep entry.1 entry.2
  nodupKeys := List.NodupKeys.sublist List.filter_sublist dictionary.nodupKeys

/-- The entries in the order given by a ranking of the keys. -/
def traverse (rank : κ → Nat) (dictionary : Dictionary κ ν) : List (Sigma fun _ : κ => ν) :=
  dictionary.entries.insertionSort fun first second => rank first.1 ≤ rank second.1

variable (dictionary : Dictionary κ ν)

theorem lookup_insert_eq (key other : κ) (value : ν) :
    (dictionary.insert key value).lookup other =
      if other = key then some value else dictionary.lookup other := by
  by_cases same : other = key
  · subst same
    simp
  · rw [if_neg same]
    exact AList.lookup_insert_ne same

theorem lookup_erase_eq (key other : κ) :
    (dictionary.erase key).lookup other =
      if other = key then none else dictionary.lookup other := by
  by_cases same : other = key
  · subst same
    simp
  · rw [if_neg same]
    exact AList.lookup_erase_ne same

theorem lookup_modify (key other : κ) (change : ν → ν) :
    (dictionary.modify key change).lookup other =
      if other = key then (dictionary.lookup other).map change else dictionary.lookup other := by
  unfold modify
  cases found : dictionary.lookup key with
  | none =>
    by_cases same : other = key
    · subst same
      simp [found]
    · simp [same]
  | some value =>
    rw [lookup_insert_eq]
    by_cases same : other = key
    · subst same
      simp [found]
    · simp [same]

theorem mem_modify {dictionary : Dictionary κ ν} {key other : κ} {change : ν → ν} :
    other ∈ dictionary.modify key change ↔ other ∈ dictionary := by
  rw [← AList.lookup_isSome, ← AList.lookup_isSome, lookup_modify]
  split <;> simp

theorem lookup_mapEntries {dictionary : Dictionary κ ν} {change : κ → ν → ν} {key : κ} {value : ν} :
    (dictionary.mapEntries change).lookup key = some value ↔
      ∃ old, dictionary.lookup key = some old ∧ value = change key old := by
  have mem : ∀ dictionary : Dictionary κ ν, ∀ value,
      dictionary.lookup key = some value ↔ ⟨key, value⟩ ∈ dictionary.entries :=
    fun dictionary value => AList.mem_lookup_iff
  simp only [mem, mapEntries, List.mem_map]
  constructor
  · rintro ⟨⟨other, old⟩, inside, same⟩
    cases same
    exact ⟨old, inside, rfl⟩
  · rintro ⟨old, inside, rfl⟩
    exact ⟨⟨key, old⟩, inside, rfl⟩

theorem lookup_mapValues (change : ν → ν) (key : κ) :
    (dictionary.mapValues change).lookup key = (dictionary.lookup key).map change := by
  ext value
  rw [mapValues, lookup_mapEntries, Option.map_eq_some_iff]
  simp only [eq_comm]

omit [DecidableEq κ] in
theorem mem_mapEntries {dictionary : Dictionary κ ν} {change : κ → ν → ν} {key : κ} :
    key ∈ dictionary.mapEntries change ↔ key ∈ dictionary := by
  rw [AList.mem_keys, AList.mem_keys, mapEntries, AList.keys, AList.keys, List.keys, List.map_map]
  rfl

theorem lookup_restrict {dictionary : Dictionary κ ν} {keep : κ → ν → Bool} {key : κ} {value : ν} :
    (dictionary.restrict keep).lookup key = some value ↔
      dictionary.lookup key = some value ∧ keep key value = true := by
  have mem : ∀ dictionary : Dictionary κ ν,
      dictionary.lookup key = some value ↔ ⟨key, value⟩ ∈ dictionary.entries :=
    fun dictionary => AList.mem_lookup_iff
  rw [mem, mem, restrict, List.mem_filter]

theorem forall_entries_iff {dictionary : Dictionary κ ν} {condition : κ → ν → Prop} :
    (∀ entry ∈ dictionary.entries, condition entry.1 entry.2) ↔
      ∀ key value, dictionary.lookup key = some value → condition key value := by
  constructor
  · intro all key value stored
    exact all ⟨key, value⟩ (AList.mem_lookup_iff.mp stored)
  · rintro all ⟨key, value⟩ inside
    exact all key value (AList.mem_lookup_iff.mpr inside)

theorem exists_entries_iff {dictionary : Dictionary κ ν} {condition : κ → ν → Prop} :
    (∃ entry ∈ dictionary.entries, condition entry.1 entry.2) ↔
      ∃ key value, dictionary.lookup key = some value ∧ condition key value := by
  constructor
  · rintro ⟨⟨key, value⟩, inside, holds⟩
    exact ⟨key, value, AList.mem_lookup_iff.mpr inside, holds⟩
  · rintro ⟨key, value, stored, holds⟩
    exact ⟨⟨key, value⟩, AList.mem_lookup_iff.mp stored, holds⟩

theorem mem_traverse {dictionary : Dictionary κ ν} {rank : κ → Nat} {key : κ} {value : ν} :
    ⟨key, value⟩ ∈ dictionary.traverse rank ↔ dictionary.lookup key = some value := by
  rw [traverse, List.mem_insertionSort]
  exact AList.mem_lookup_iff.symm

omit [DecidableEq κ] in
theorem nodup_keys_traverse (rank : κ → Nat) :
    ((dictionary.traverse rank).map Sigma.fst).Nodup := by
  have sorted := List.perm_insertionSort
    (fun first second : Sigma fun _ : κ => ν => rank first.1 ≤ rank second.1) dictionary.entries
  exact (sorted.map Sigma.fst).nodup_iff.mpr dictionary.nodupKeys

theorem find?_entries_iff (check : (Sigma fun _ : κ => ν) → Bool)
    (unique : ∀ first ∈ dictionary.entries, ∀ second ∈ dictionary.entries,
      check first = true → check second = true → first.1 = second.1) (key : κ) (value : ν) :
    dictionary.entries.find? check = some ⟨key, value⟩ ↔
      dictionary.lookup key = some value ∧ check ⟨key, value⟩ = true := by
  constructor
  · intro found
    exact ⟨AList.mem_lookup_iff.mpr (List.mem_of_find?_eq_some found), List.find?_some found⟩
  · rintro ⟨stored, checked⟩
    have inside : ⟨key, value⟩ ∈ dictionary.entries := AList.mem_lookup_iff.mp stored
    obtain ⟨⟨other, found⟩, isFound⟩ :=
      Option.isSome_iff_exists.mp (List.find?_isSome.mpr ⟨_, inside, checked⟩)
    have foundInside := List.mem_of_find?_eq_some isFound
    obtain rfl : other = key := unique _ foundInside _ inside (List.find?_some isFound) checked
    have foundStored : dictionary.lookup other = some found :=
      AList.mem_lookup_iff.mpr foundInside
    rw [isFound, Option.some.inj (foundStored.symm.trans stored)]

section Listings

variable {κ ν : Type} [LinearOrder κ]

/-- The entries that satisfy a condition, the largest key first. -/
def selectDescending (dictionary : Dictionary κ ν) (check : κ → ν → Bool) :
    List (Sigma fun _ : κ => ν) :=
  (dictionary.entries.filter fun entry => check entry.1 entry.2).insertionSort
    fun first second => second.1 ≤ first.1

theorem mem_selectDescending {dictionary : Dictionary κ ν} {check : κ → ν → Bool} {key : κ}
    {value : ν} :
    ⟨key, value⟩ ∈ dictionary.selectDescending check ↔
      dictionary.lookup key = some value ∧ check key value = true := by
  rw [selectDescending, List.mem_insertionSort, List.mem_filter, ← AList.mem_lookup_iff]
  rfl

theorem selectDescending_congr {first second : Dictionary κ ν} {check : κ → ν → Bool}
    (agree : ∀ key value, check key value = true →
      (first.lookup key = some value ↔ second.lookup key = some value)) :
    first.selectDescending check = second.selectDescending check := by
  have nodup : ∀ dictionary : Dictionary κ ν, (dictionary.selectDescending check).Nodup := by
    intro dictionary
    rw [selectDescending, (List.perm_insertionSort _ _).nodup_iff]
    exact dictionary.nodupKeys.nodup.filter _
  have same : ∀ entry, entry ∈ first.selectDescending check ↔
      entry ∈ second.selectDescending check := by
    rintro ⟨key, value⟩
    rw [mem_selectDescending, mem_selectDescending, and_congr_left_iff]
    exact agree key value
  have total : Std.Total fun first second : Sigma fun _ : κ => ν => second.1 ≤ first.1 :=
    ⟨fun first second => le_total second.1 first.1⟩
  have transitive : IsTrans (Sigma fun _ : κ => ν) fun first second => second.1 ≤ first.1 :=
    ⟨fun _ _ _ earlier later => later.trans earlier⟩
  refine List.Perm.eq_of_pairwise ?_ (List.pairwise_insertionSort _ _)
    (List.pairwise_insertionSort _ _) ((List.perm_ext_iff_of_nodup (nodup _) (nodup _)).mpr same)
  rintro ⟨key, value⟩ ⟨other, found⟩ inFirst inSecond greater smaller
  obtain rfl : key = other := le_antisymm smaller greater
  have stored := (mem_selectDescending.mp ((same _).mp inFirst)).1
  have storedToo := (mem_selectDescending.mp inSecond).1
  rw [stored] at storedToo
  rw [Option.some.inj storedToo]

end Listings

section Collecting

variable {μ ε : Type}

/-- The entries for which there is a new value. -/
def collect (choose : κ → ν → Option μ) (dictionary : Dictionary κ ν) : Dictionary κ μ :=
  dictionary.entries.foldr (fun entry rest =>
    match choose entry.1 entry.2 with
    | none => rest
    | some value => rest.insert entry.1 value) ∅

/-- The entries for which there is a new value, unless choosing one fails. -/
def collectExcept (choose : κ → ν → Except ε (Option μ)) (dictionary : Dictionary κ ν) :
    Except ε (Dictionary κ μ) :=
  dictionary.entries.foldrM (fun entry rest => do
    match ← choose entry.1 entry.2 with
    | none => pure rest
    | some value => pure (rest.insert entry.1 value)) ∅

end Collecting

section Keys

/-- The key that a table without removed rows gives to the next one. -/
def nextKey (table : Dictionary Int ν) : Int :=
  table.keys.foldr max 0 + 1

theorem ne_nextKey {table : Dictionary Int ν} {key : Int} {row : ν}
    (stored : table.lookup key = some row) : key ≠ table.nextKey := by
  have bounded : ∀ keys : List Int, key ∈ keys → key ≤ keys.foldr max 0 := by
    intro keys within
    induction keys with
    | nil => simp at within
    | cons first keys ih =>
      rcases List.mem_cons.mp within with rfl | later
      · exact le_max_left ..
      · exact (ih later).trans (le_max_right ..)
  have inside : key ∈ table := AList.lookup_isSome.mp (by simp [stored])
  exact (Int.lt_add_one_of_le (bounded table.keys (AList.mem_keys.mpr inside))).ne

end Keys

end Dictionary
