import Accession.Proofs.Memory.Effect

/-!
# Inside a transaction

A transaction began at some state.  While rows are stored in it, its log leads back there, and
committing it leads to the state in which the same rows were stored without it.

* `Memory.Restored` : the rows and the open transactions are again those of a state.
* `Memory.Inside` : one more transaction is open than at a state, and undoing it restores the state
  (`Memory.Inside.rollback`).
* `Memory.Nested` : committing that transaction leads to a state in which it never was.
-/

namespace Accession

namespace Memory

variable {base m m' : Memory} {table : String} {values : Row}

/-- The rows of every table and the logs of the open transactions are those of another state. -/
structure Restored (base m : Memory) : Prop where
  rows : m.rows = base.rows
  undo : m.undo = base.undo

/-- One more transaction is open than at another state, and its log leads back to the rows there. -/
def Inside (base m : Memory) : Prop :=
  ∃ log, m.undo = log :: base.undo ∧ (log.foldl erase m.tables).rows = base.rows

/-- A transaction began at a state, and committing it leads to a state without it. -/
structure Nested (base m m' : Memory) : Prop where
  inside : Inside base m'
  commit : m'.commit = (.ok (), m)

theorem Restored.refl (m : Memory) : Restored m m := ⟨rfl, rfl⟩

theorem inside_begin (m : Memory) : Inside m m.begin := ⟨[], rfl, rfl⟩

theorem Inside.store (h : Inside base m) (table : String) (values : Row) :
    Inside base (m.store table values) := by
  obtain ⟨log, hundo, hrows⟩ := h
  refine ⟨(table, m.sequence table + 1) :: log, ?_, ?_⟩
  · rw [Memory.store, hundo]
    rfl
  · rw [rows_undo_store, hrows]

theorem Inside.of_restored (h : Inside base m) (hm : Restored m m') : Inside base m' := by
  obtain ⟨log, hundo, hrows⟩ := h
  exact ⟨log, hm.undo.trans hundo, (rows_undo_congr hm.rows log).trans hrows⟩

/-- **Rolling a transaction back restores the state where it began.** -/
theorem Inside.rollback (h : Inside base m) : ∃ m', m.rollback = (.ok (), m') ∧
    Restored base m' ∧ m'.sequences = m.sequences := by
  obtain ⟨log, hundo, hrows⟩ := h
  refine ⟨{ m with tables := log.foldl erase m.tables, undo := base.undo }, ?_, ⟨hrows, rfl⟩, rfl⟩
  rw [Memory.rollback, hundo]

/-- The logs around, after a transaction with a log is committed. -/
def handedOn (log : UndoLog) : List UndoLog → List UndoLog
  | [] => []
  | outer :: rest => (log ++ outer) :: rest

theorem commit_of_undo {log : UndoLog} {outer : List UndoLog} (h : m.undo = log :: outer) :
    m.commit = (.ok (), m.under (handedOn log outer)) := by
  rw [commit, h]
  cases outer <;> rfl

theorem Inside.commit (h : Inside base m) : ∃ m', m.commit = (.ok (), m') := by
  obtain ⟨log, hundo, -⟩ := h
  exact ⟨_, commit_of_undo hundo⟩

theorem logged_handedOn (entry : String × Key) (log : UndoLog) (outer : List UndoLog) :
    logged entry (handedOn log outer) = handedOn (entry :: log) outer := by
  cases outer <;> rfl

theorem nested_begin (m : Memory) : Nested m m m.begin := by
  refine ⟨inside_begin m, ?_⟩
  obtain ⟨tables, sequences, _ | ⟨log, outer⟩⟩ := m <;> rfl

/-- The states differ only in the transactions around. -/
theorem Nested.eq_under (h : Nested base m m') : m = m'.under m.undo := by
  obtain ⟨⟨log, hundo, -⟩, hcommit⟩ := h
  rw [commit_of_undo hundo] at hcommit
  obtain rfl : m'.under (handedOn log base.undo) = m := congrArg Prod.snd hcommit
  rfl

theorem Nested.sequences (h : Nested base m m') : m'.sequences = m.sequences :=
  (congrArg Memory.sequences h.eq_under).symm

theorem Nested.store (h : Nested base m m') (table : String) (values : Row) :
    Nested base (m.store table values) (m'.store table values) := by
  obtain ⟨hinside, hcommit⟩ := h
  refine ⟨hinside.store table values, ?_⟩
  obtain ⟨log, hundo, -⟩ := hinside
  rw [commit_of_undo hundo] at hcommit
  obtain rfl : m'.under (handedOn log base.undo) = m := congrArg Prod.snd hcommit
  have hstored : (m'.store table values).undo =
      ((table, m'.sequence table + 1) :: log) :: base.undo := by
    rw [Memory.store, hundo]
    rfl
  rw [commit_of_undo hstored, ← logged_handedOn]
  rfl

end Memory

end Accession
