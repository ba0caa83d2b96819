import Mathlib.Algebra.BigOperators.Group.Finset.Basic
import Mathlib.Algebra.BigOperators.Group.Finset.Piecewise
import Accession.Proofs.Memory.Nested

/-!
# The size of the store in memory

The size of a store is the number of its rows, over all tables.  It grows with each row that an
upsert makes, and with nothing else.

* `Memory.size` : the number of rows.
* `Memory.size_store`, `Memory.size_congr` : stores with one row more, and with the same rows.
* `Memory.upsert_size` : what an upsert adds.
-/

namespace Accession

namespace Memory

/-- The number of rows, over all tables. -/
def size (m : Memory) : Nat := ∑ table ∈ (Dict.keys m.tables).toFinset, m.rowCount table

variable {r : Registry} {mode : TextMatch} {m m' base : Memory} {table : String} {row values : Row}

theorem mem_keys_of_rowCount (h : m.rowCount table ≠ 0) : table ∈ Dict.keys m.tables := by
  rw [← Dict.contains_iff_mem_keys, Dict.contains]
  by_contra hnone
  rw [Option.isSome_iff_ne_none, not_not] at hnone
  simp [rowCount, rows, Tables.rows, hnone] at h

/-- Tables without rows do not count. -/
theorem size_eq_sum {tables : Finset String} (h : ∀ table, m.rowCount table ≠ 0 → table ∈ tables) :
    m.size = ∑ table ∈ tables, m.rowCount table := by
  rw [size, ← Finset.sum_filter_ne_zero, ← Finset.sum_filter_ne_zero (s := tables)]
  refine Finset.sum_congr (Finset.ext fun table => ?_) fun _ _ => rfl
  rw [Finset.mem_filter, Finset.mem_filter]
  exact and_congr_left fun hne =>
    iff_of_true (List.mem_toFinset.2 (mem_keys_of_rowCount hne)) (h table hne)

theorem size_congr (h : m.rows = m'.rows) : m.size = m'.size := by
  have hcount : m.rowCount = m'.rowCount := by
    funext table
    rw [rowCount, rowCount, h]
  rw [size, hcount]
  exact (size_eq_sum fun table hne =>
    List.mem_toFinset.2 (mem_keys_of_rowCount (hcount ▸ hne))).symm

theorem rowCount_store (m : Memory) (table : String) (values : Row) (other : String) :
    (m.store table values).rowCount other = m.rowCount other + if other = table then 1 else 0 := by
  by_cases h : other = table
  · subst h
    simp [rowCount]
  · rw [rowCount, rows_store_of_ne h, if_neg h]
    rfl

theorem size_store (m : Memory) (table : String) (values : Row) :
    (m.store table values).size = m.size + 1 := by
  let tables : Finset String := Insert.insert table (Dict.keys m.tables).toFinset
  have hold : m.size = ∑ other ∈ tables, m.rowCount other := size_eq_sum fun other hne =>
    Finset.mem_insert_of_mem (List.mem_toFinset.2 (mem_keys_of_rowCount hne))
  have hnew : (m.store table values).size =
      ∑ other ∈ tables, (m.store table values).rowCount other := size_eq_sum fun other hne => by
    by_cases h : other = table
    · exact h ▸ Finset.mem_insert_self _ _
    · rw [rowCount_store, if_neg h] at hne
      exact Finset.mem_insert_of_mem (List.mem_toFinset.2 (mem_keys_of_rowCount hne))
  have hown : ∑ other ∈ tables, (if other = table then 1 else 0) = 1 := by
    rw [Finset.sum_ite_eq', if_pos (Finset.mem_insert_self _ _)]
  rw [hnew, Finset.sum_congr rfl fun other _ => rowCount_store m table values other,
    Finset.sum_add_distrib, hown, hold]

/-- An upsert adds a row if it says so. -/
theorem upsert_size {u : Upserted} (h : (Store.inMemory r mode).upsert table row m = (.ok u, m')) :
    m'.size = m.size + if u.created then 1 else 0 := by
  obtain ⟨t, values, -, -, -, -, ⟨rfl, rfl⟩ | ⟨rfl, hreused, -⟩⟩ := upsert_ok h
  · exact size_store m t.name values
  · rw [hreused]
    rfl

/-- An upsert stays within the transaction around it. -/
theorem upsert_inside {answer : Except LoadError Upserted} (hm : Inside base m)
    (h : (Store.inMemory r mode).upsert table row m = (answer, m')) : Inside base m' := by
  cases answer with
  | error e => exact upsert_unchanged h ▸ hm
  | ok u =>
    obtain ⟨t, values, -, -, -, -, ⟨rfl, -⟩ | ⟨rfl, -⟩⟩ := upsert_ok h
    · exact hm.store t.name values
    · exact hm

theorem Inside.commit_size (h : Inside base m) : ∃ m', m.commit = (.ok (), m') ∧
    m'.size = m.size := by
  obtain ⟨log, hundo, -⟩ := h
  exact ⟨_, commit_of_undo hundo, size_congr rfl⟩

end Memory

end Accession
