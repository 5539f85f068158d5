import Mathlib.Data.Finset.Basic
import Mathlib.Data.Finset.Union
import Mathlib.Data.List.Nodup

/-!
# Tables with a uniqueness constraint

A table is the set of its rows.  Inserting a row that is already there violates the constraint, and
a transaction in which one insert fails has no effect.
-/

namespace Table

variable {Row : Type} [DecidableEq Row]

/-- Insert a row; there is no result if the row is already there. -/
def insertRow (row : Row) (table : Finset Row) : Option (Finset Row) :=
  if row ∈ table then none else some (insert row table)

def insertRows : List Row → Finset Row → Option (Finset Row)
  | [], table => some table
  | row :: rows, table => (insertRow row table).bind (insertRows rows)

/-- The rows can be inserted: they are pairwise different and none of them is there yet. -/
def Insertable (rows : List Row) (table : Finset Row) : Prop :=
  rows.Nodup ∧ ∀ row ∈ rows, row ∉ table

instance (rows : List Row) (table : Finset Row) : Decidable (Insertable rows table) :=
  inferInstanceAs (Decidable (_ ∧ _))

theorem insertable_cons {row : Row} {rows : List Row} {table : Finset Row} :
    Insertable (row :: rows) table ↔ row ∉ table ∧ Insertable rows (insert row table) := by
  simp only [Insertable, List.nodup_cons, List.mem_cons, forall_eq_or_imp, Finset.mem_insert,
    not_or]
  constructor
  · rintro ⟨⟨fresh, nodup⟩, absent, others⟩
    refine ⟨absent, nodup, fun other inside => ⟨?_, others other inside⟩⟩
    rintro rfl
    exact fresh inside
  · rintro ⟨absent, nodup, others⟩
    exact ⟨⟨fun inside => (others row inside).1 rfl, nodup⟩, absent,
      fun other inside => (others other inside).2⟩

/-- A transaction of inserts succeeds exactly when the rows can be inserted, and then adds them
all. -/
theorem insertRows_eq (rows : List Row) (table : Finset Row) :
    insertRows rows table =
      if Insertable rows table then some (table ∪ rows.toFinset) else none := by
  induction rows generalizing table with
  | nil => simp [insertRows, Insertable]
  | cons row rows ih =>
    by_cases inside : row ∈ table
    · have blocked : ¬ Insertable (row :: rows) table :=
        fun insertable => (insertable_cons.mp insertable).1 inside
      simp [insertRows, insertRow, inside, blocked]
    · have same : insert row table ∪ rows.toFinset = table ∪ (row :: rows).toFinset := by
        ext other
        simp only [Finset.mem_union, Finset.mem_insert, List.toFinset_cons, List.mem_toFinset]
        tauto
      have first : insertRow row table = some (insert row table) := by simp [insertRow, inside]
      rw [insertRows, first, Option.bind_some, ih, same]
      simp only [insertable_cons, inside, not_false_eq_true, true_and]

end Table
