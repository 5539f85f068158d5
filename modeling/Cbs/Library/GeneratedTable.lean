import Cbs.Library.Dictionary

/-!
# Tables with generated keys

A table hands out increasing keys that are never used again and refuses a row that clashes with
another one.  A history relates every row to the one that had its key before.
-/

/-- A table with generated keys in which no two rows clash. -/
structure GeneratedTable (ρ : Type) (Clash : ρ → ρ → Prop) where
  rows : Dictionary Int ρ
  sequence : Int
  bounded : ∀ id ∈ rows, id ≤ sequence
  distinct : ∀ first second row other, rows.lookup first = some row →
    rows.lookup second = some other → Clash row other → first = second

namespace GeneratedTable

variable {ρ : Type} {Clash : ρ → ρ → Prop}

def empty : GeneratedTable ρ Clash where
  rows := ∅
  sequence := 0
  bounded := by simp
  distinct := by simp

def get (table : GeneratedTable ρ Clash) (id : Int) : Option ρ :=
  table.rows.lookup id

def nextId (table : GeneratedTable ρ Clash) : Int :=
  table.sequence + 1

def any (table : GeneratedTable ρ Clash) (check : ρ → Bool) : Bool :=
  table.rows.entries.any fun entry => check entry.2

/-- The rows that satisfy a condition with their keys, in the order given by a ranking of the
keys. -/
def select (table : GeneratedTable ρ Clash) (rank : Int → Nat) (check : ρ → Bool) :
    List (Sigma fun _ : Int => ρ) :=
  (table.rows.traverse rank).filter fun entry => check entry.2

def Admits (table : GeneratedTable ρ Clash) (row : ρ) : Prop :=
  ∀ entry ∈ table.rows.entries, ¬ Clash row entry.2

instance [DecidableRel Clash] (table : GeneratedTable ρ Clash) (row : ρ) :
    Decidable (table.Admits row) :=
  inferInstanceAs (Decidable (∀ entry ∈ _, _))

variable {id : Int}

theorem le_of_get {table : GeneratedTable ρ Clash} {row : ρ}
    (stored : table.get id = some row) : id ≤ table.sequence :=
  table.bounded id (AList.lookup_isSome.mp (by rw [get] at stored; simp [stored]))

theorem mem_entries {table : GeneratedTable ρ Clash} {row : ρ} :
    ⟨id, row⟩ ∈ table.rows.entries ↔ table.get id = some row :=
  AList.mem_lookup_iff.symm

/-- The keys of the rows that satisfy a condition. -/
theorem mem_keys_filter {table : GeneratedTable ρ Clash} (check : Int → ρ → Bool) :
    id ∈ (table.rows.entries.filter fun entry => check entry.1 entry.2).map (·.1) ↔
      ∃ row, table.get id = some row ∧ check id row = true := by
  simp only [List.mem_map, List.mem_filter]
  constructor
  · rintro ⟨⟨id, row⟩, ⟨inside, checked⟩, rfl⟩
    exact ⟨row, mem_entries.mp inside, checked⟩
  · rintro ⟨row, stored, checked⟩
    exact ⟨⟨id, row⟩, ⟨mem_entries.mpr stored, checked⟩, rfl⟩

theorem any_iff {table : GeneratedTable ρ Clash} {check : ρ → Bool} :
    table.any check = true ↔ ∃ id row, table.get id = some row ∧ check row = true := by
  rw [any, List.any_eq_true]
  constructor
  · rintro ⟨⟨id, row⟩, inside, checked⟩
    exact ⟨id, row, mem_entries.mp inside, checked⟩
  · rintro ⟨id, row, stored, checked⟩
    exact ⟨⟨id, row⟩, mem_entries.mpr stored, checked⟩

theorem mem_select {table : GeneratedTable ρ Clash} {rank : Int → Nat} {check : ρ → Bool}
    {row : ρ} :
    ⟨id, row⟩ ∈ table.select rank check ↔ table.get id = some row ∧ check row = true := by
  rw [select, List.mem_filter, Dictionary.mem_traverse, get]

theorem admits_iff {table : GeneratedTable ρ Clash} {row : ρ} :
    table.Admits row ↔ ∀ id other, table.get id = some other → ¬ Clash row other := by
  constructor
  · intro admits id other stored
    exact admits ⟨id, other⟩ (mem_entries.mpr stored)
  · rintro free ⟨id, other⟩ inside
    exact free id other (mem_entries.mp inside)

/-- Add a row under the next key, if it may be added. -/
def insert [Std.Symm Clash] [DecidableRel Clash] (table : GeneratedTable ρ Clash) (row : ρ) :
    Option (GeneratedTable ρ Clash × Int) :=
  if admits : table.Admits row then
    some
      ({ rows := table.rows.insert table.nextId row
         sequence := table.nextId
         bounded := by
           intro id inside
           rcases (AList.mem_insert _).mp inside with rfl | old
           · exact le_rfl
           · exact (table.bounded id old).trans (Int.le_of_lt (Int.lt_succ _))
         distinct := by
           rw [admits_iff] at admits
           intro first second stored other inFirst inSecond clash
           rw [Dictionary.lookup_insert_eq] at inFirst inSecond
           split_ifs at inFirst inSecond with isFirst isSecond isSecond
           · rw [isFirst, isSecond]
           · obtain rfl := Option.some.inj inFirst
             exact absurd clash (admits second other inSecond)
           · obtain rfl := Option.some.inj inSecond
             exact absurd (Std.Symm.symm _ _ clash) (admits first stored inFirst)
           · exact table.distinct first second stored other inFirst inSecond clash },
        table.nextId)
  else none

def update (table : GeneratedTable ρ Clash) (change : Int → ρ → ρ)
    (keeps : ∀ first second row other, Clash (change first row) (change second other) →
      Clash row other) : GeneratedTable ρ Clash where
  rows := table.rows.mapEntries change
  sequence := table.sequence
  bounded := fun id inside => table.bounded id (Dictionary.mem_mapEntries.mp inside)
  distinct := by
    intro first second row other inFirst inSecond clash
    obtain ⟨oldRow, stored, rfl⟩ := Dictionary.lookup_mapEntries.mp inFirst
    obtain ⟨oldOther, storedToo, rfl⟩ := Dictionary.lookup_mapEntries.mp inSecond
    exact table.distinct first second oldRow oldOther stored storedToo (keeps _ _ _ _ clash)

def retain (table : GeneratedTable ρ Clash) (keep : ρ → Bool) : GeneratedTable ρ Clash where
  rows := table.rows.restrict fun _ => keep
  sequence := table.sequence
  bounded := by
    intro id inside
    obtain ⟨row, stored⟩ := Option.isSome_iff_exists.mp (AList.lookup_isSome.mpr inside)
    exact le_of_get (Dictionary.lookup_restrict.mp stored).1
  distinct := by
    intro first second row other inFirst inSecond
    rw [Dictionary.lookup_restrict] at inFirst inSecond
    exact table.distinct first second row other inFirst.1 inSecond.1

theorem get_retain {table : GeneratedTable ρ Clash} {keep : ρ → Bool} {row : ρ} :
    (table.retain keep).get id = some row ↔ table.get id = some row ∧ keep row = true :=
  Dictionary.lookup_restrict

section Insert

variable [Std.Symm Clash] [DecidableRel Clash] {table after : GeneratedTable ρ Clash} {row : ρ}
  {id : Int}

theorem insert_isSome : (table.insert row).isSome = true ↔ table.Admits row := by
  unfold insert
  split_ifs with admits <;> simp [admits]

theorem insert_eq_some (inserted : table.insert row = some (after, id)) :
    table.Admits row ∧ id = table.nextId ∧ after.sequence = table.nextId ∧
      ∀ other, after.get other = if other = table.nextId then some row else table.get other := by
  unfold insert at inserted
  split_ifs at inserted with admits
  obtain ⟨rfl, rfl⟩ := Prod.mk.inj (Option.some.inj inserted)
  exact ⟨admits, rfl, rfl, fun other => Dictionary.lookup_insert_eq ..⟩

theorem mem_insert (inserted : table.insert row = some (after, id)) {other : Int} :
    other ∈ after.rows ↔ other = table.nextId ∨ other ∈ table.rows := by
  unfold insert at inserted
  split_ifs at inserted
  obtain ⟨rfl, rfl⟩ := Prod.mk.inj (Option.some.inj inserted)
  exact AList.mem_insert _

end Insert

/-- Keys are not used again, and every row that was there before comes from the row that had its
key. -/
structure Evolves (R : ρ → ρ → Prop) (before after : GeneratedTable ρ Clash) : Prop where
  sequence : before.sequence ≤ after.sequence
  rows : ∀ id row, after.get id = some row → id ≤ before.sequence →
    ∃ old, before.get id = some old ∧ R old row

section Histories

variable {R : ρ → ρ → Prop} {before middle after : GeneratedTable ρ Clash}

theorem Evolves.refl (reflexive : ∀ row, R row row) (table : GeneratedTable ρ Clash) :
    Evolves R table table where
  sequence := le_rfl
  rows := fun _ row stored _ => ⟨row, stored, reflexive row⟩

theorem Evolves.trans (transitive : ∀ a b c, R a b → R b c → R a c)
    (first : Evolves R before middle) (second : Evolves R middle after) :
    Evolves R before after where
  sequence := first.sequence.trans second.sequence
  rows := by
    intro id row stored old
    obtain ⟨between, found, later⟩ := second.rows id row stored (old.trans first.sequence)
    obtain ⟨earliest, foundToo, earlier⟩ := first.rows id between found old
    exact ⟨earliest, foundToo, transitive _ _ _ earlier later⟩

theorem Evolves.insert [Std.Symm Clash] [DecidableRel Clash] (reflexive : ∀ row, R row row)
    {row : ρ} {id : Int} (inserted : before.insert row = some (after, id)) :
    Evolves R before after := by
  obtain ⟨-, -, sequence, rows⟩ := insert_eq_some inserted
  constructor
  · rw [sequence, nextId]
    omega
  · intro other stored found old
    rw [rows, if_neg (by rw [nextId]; omega)] at found
    exact ⟨stored, found, reflexive stored⟩

theorem Evolves.update {change : Int → ρ → ρ} (sequence : after.sequence = before.sequence)
    (rows : after.rows = before.rows.mapEntries change)
    (related : ∀ id row, R row (change id row)) : Evolves R before after where
  sequence := by rw [sequence]
  rows := by
    intro id row stored _
    rw [get, rows] at stored
    obtain ⟨old, found, rfl⟩ := Dictionary.lookup_mapEntries.mp stored
    exact ⟨old, found, related id old⟩

theorem Evolves.retain (reflexive : ∀ row, R row row) (keep : ρ → Bool) :
    Evolves R before (before.retain keep) where
  sequence := le_rfl
  rows := fun _ row stored _ => ⟨row, (get_retain.mp stored).1, reflexive row⟩

end Histories

end GeneratedTable
