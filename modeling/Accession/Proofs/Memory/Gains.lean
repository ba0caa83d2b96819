import Accession.Proofs.Memory.Upsert

/-!
# What an upsert adds

An upsert works in a transaction of its own, and can end in many ways; but all that is left of it is
one more row, or nothing at all.

* `Memory.Gains` : a table has one more row, and nothing else is changed but what goes with that.
* `Memory.upsert_gains` : an upsert that creates a row adds it, and any other changes nothing.
-/

namespace Accession

namespace Memory

/-- A table gains a row, as its last one. -/
structure Gains (m m' : Memory) (table : String) (row : StoredRow) : Prop where
  rows : m'.rows table = m.rows table ++ [row]
  /-- No other table has other rows. -/
  otherRows : ∀ other, other ≠ table → m'.rows other = m.rows other
  /-- The key is the next one of the table. -/
  key : row.key = m.sequence table + 1
  sequence : m'.sequence table = row.key
  /-- No other table has given a key. -/
  otherSequences : ∀ other, other ≠ table → m'.sequence other = m.sequence other
  /-- The innermost transaction, if one is open, has noted the row. -/
  undo : m'.undo = match m.undo with
    | [] => []
    | log :: outer => ((table, row.key) :: log) :: outer

theorem gains_store (m : Memory) (table : String) (values : Row) :
    Gains m (m.store table values) table ⟨m.sequence table + 1, values⟩ where
  rows := rows_store_self
  otherRows _ h := rows_store_of_ne h
  key := rfl
  sequence := by simp [store, sequence]
  otherSequences _ h := by simp [store, sequence, Dict.get?_insert_of_ne h]
  undo := by cases hundo : m.undo <;> simp [store, logged, hundo]

/-- **An upsert adds one row or nothing**, whatever transactions are open.  If it says that it
created a row, then the table has gained that row, under the key that is answered and with the
values as the table stores them.  If it says that it found one, or fails, everything is as it
was. -/
theorem upsert_gains (r : Registry) (mode : TextMatch) (m : Memory) (table : String) (row : Row) :
    match (Store.inMemory r mode).upsert table row m with
    | (.ok ⟨key, true⟩, m') => ∃ t values, r.get? table = some t ∧ t.coerceRow row = .ok values ∧
        Gains m m' table ⟨key, values⟩
    | (_, m') => m' = m := by
  rcases upsert_cases r mode m table row with
    ⟨t, values, ht, hc, -, ⟨-, hu⟩ | ⟨-, key, -, hu⟩⟩ | ⟨e, hu⟩
  all_goals rw [hu]
  exact ⟨t, values, ht, hc, Registry.name_of_get? ht ▸ gains_store m t.name values⟩

end Memory

end Accession
