import Accession.Proofs.Store.Calls
import Accession.Store.Memory

/-!
# Undo logs and snapshots

`Snapshots` is a store in memory that copies its tables when a transaction begins, and puts the
copy back when the transaction is rolled back.  It says what transactions mean; the store with undo
logs is another way to the same answers.

* `Snapshots.backend` : the store with copies.
* `Simulates` : the stores hold the same, and undoing the logs of the one, from the innermost on,
  leads through the copies of the other.
* `call_simulates` : every call keeps this, and is answered alike.
* `logs_refine_snapshots` : the two stores cannot be told apart.
-/

namespace Accession

open Memory (erase logged)

/-- The state of a store that copies its tables. -/
structure Snapshots where
  tables : Tables
  /-- The last key given in each table. -/
  sequences : Dict String Key
  /-- The tables as the open transactions found them, those of the innermost first. -/
  saved : List Tables

namespace Snapshots

/-- A store without rows. -/
def empty : Snapshots := ⟨[], [], []⟩

/-- The rows of a table. -/
def rows (s : Snapshots) (table : String) : List StoredRow := s.tables.rows table

/-- The number of open transactions. -/
def openTransactions (s : Snapshots) : Nat := s.saved.length

/-- What is stored, apart from transactions. -/
def content (s : Snapshots) : Memory := ⟨s.tables, s.sequences, []⟩

/-- Stores a row and answers its key. -/
def insert (t : TableSchema) (row : Row) (s : Snapshots) : Except StoreError Key × Snapshots :=
  let (answer, m) := s.content.insert t row
  (answer, { s with tables := m.tables, sequences := m.sequences })

/-- Opens a transaction. -/
def begin (s : Snapshots) : Snapshots := { s with saved := s.tables :: s.saved }

/-- Closes the innermost transaction and forgets its copy. -/
def commit (s : Snapshots) : Except StoreError Unit × Snapshots :=
  match s.saved with
  | [] => (.error (.transaction "commit without an open transaction"), s)
  | _ :: rest => (.ok (), { s with saved := rest })

/-- Closes the innermost transaction and puts its copy back. -/
def rollback (s : Snapshots) : Except StoreError Unit × Snapshots :=
  match s.saved with
  | [] => (.error (.transaction "rollback without an open transaction"), s)
  | before :: rest => (.ok (), { s with tables := before, saved := rest })

/-- The store with copies as a backend. -/
def backend : Backend Snapshots where
  insert t row := ExceptT.mk fun s => s.insert t row
  find t filter := ExceptT.mk fun s => (.ok (s.content.find t filter), s)
  begin := ExceptT.mk fun s => (.ok (), s.begin)
  commit := ExceptT.mk commit
  rollback := ExceptT.mk rollback

end Snapshots

namespace Memory

/-! ### Checks see only the rows -/

section Congruence

variable {m m' : Memory} {a b : Tables}

theorem refusal?_congr (h : m.rows = m'.rows) (t : TableSchema) (values : Row) :
    m.refusal? t values = m'.refusal? t values := by
  have href : m.refersTo = m'.refersTo := by
    funext target value
    cases value <;> simp only [refersTo, h]
  simp only [refusal?, danglingColumn?, conflict?, href, h]

theorem find_congr (h : m.rows = m'.rows) (t : TableSchema) (filter : Filter) :
    m.find t filter = m'.find t filter := by
  simp only [find, h]

theorem rows_store_congr (h : m.rows = m'.rows) (hs : m.sequences = m'.sequences) (table : String)
    (values : Row) : (m.store table values).rows = (m'.store table values).rows := by
  funext other
  by_cases ho : other = table
  · subst ho
    rw [rows_store_self, rows_store_self, h, sequence, sequence, hs]
  · rw [rows_store_of_ne ho, rows_store_of_ne ho, h]

theorem rows_erase_congr (h : a.rows = b.rows) (entry : String × Key) :
    (erase a entry).rows = (erase b entry).rows := by
  obtain ⟨table, key⟩ := entry
  funext other
  by_cases ho : other = table
  · subst ho
    rw [rows_erase_self, rows_erase_self, h]
  · rw [rows_erase_of_ne _ ho, rows_erase_of_ne _ ho, h]

theorem rows_undo_congr (h : a.rows = b.rows) (log : UndoLog) :
    (log.foldl erase a).rows = (log.foldl erase b).rows := by
  induction log generalizing a b with
  | nil => exact h
  | cons entry log ih => exact ih (rows_erase_congr h entry)

/-- The log starts with the new row, and without it the tables are as before. -/
theorem rows_undo_store (m : Memory) (table : String) (values : Row) (log : UndoLog) :
    (((table, m.sequence table + 1) :: log).foldl erase (m.store table values).tables).rows =
      (log.foldl erase m.tables).rows := by
  have hback : (erase (m.store table values).tables (table, m.sequence table + 1)).rows =
      m.tables.rows := funext fun _ => rows_erase_store
  rw [List.foldl_cons]
  exact rows_undo_congr hback log

end Congruence

/-! ### The simulation -/

/-- Undoing the logs, the innermost first, leads from the tables to the saved ones in turn. -/
inductive Undoes : Tables → List UndoLog → List Tables → Prop
  | nil {tables : Tables} : Undoes tables [] []
  | cons {tables before : Tables} {log : UndoLog} {logs : List UndoLog} {saved : List Tables}
      (here : (log.foldl erase tables).rows = before.rows) (outer : Undoes before logs saved) :
      Undoes tables (log :: logs) (before :: saved)

/-- The stores hold the same rows and give the same keys, and undoing the logs leads through the
copies. -/
structure Simulates (m : Memory) (s : Snapshots) : Prop where
  rows : m.rows = s.rows
  sequences : m.sequences = s.sequences
  undoes : Undoes m.tables m.undo s.saved

variable {m : Memory} {s : Snapshots} {tables tables' : Tables} {logs : List UndoLog}
  {saved : List Tables}

theorem Undoes.congr (h : Undoes tables logs saved) (ht : tables'.rows = tables.rows) :
    Undoes tables' logs saved := by
  cases h with
  | nil => exact .nil
  | cons here outer => exact .cons ((rows_undo_congr ht _).trans here) outer

theorem Undoes.length_eq (h : Undoes tables logs saved) : logs.length = saved.length := by
  induction h with
  | nil => rfl
  | cons _ _ ih => rw [List.length_cons, List.length_cons, ih]

/-- A new row is the first to be undone. -/
theorem Undoes.store (h : Undoes m.tables m.undo saved) (table : String) (values : Row) :
    Undoes (m.store table values).tables (m.store table values).undo saved := by
  change Undoes _ (logged _ m.undo) saved
  generalize m.undo = logs at h ⊢
  cases h with
  | nil => exact .nil
  | cons here outer => exact .cons ((rows_undo_store m table values _).trans here) outer

theorem empty_simulates : Simulates empty .empty := ⟨rfl, rfl, .nil⟩

theorem insert_simulates (h : Simulates m s) (t : TableSchema) (row : Row) :
    (m.insert t row).1 = (s.insert t row).1 ∧
      Simulates (m.insert t row).2 (s.insert t row).2 := by
  have hrows : m.rows = s.content.rows := h.rows
  have hseq : m.sequences = s.content.sequences := h.sequences
  cases hc : t.coerceRow row with
  | error e =>
    rw [Snapshots.insert, insert_of_error hc, insert_of_error hc]
    exact ⟨rfl, h⟩
  | ok values =>
    cases hr : m.refusal? t values with
    | some e =>
      rw [Snapshots.insert, insert_of_refusal hc hr,
        insert_of_refusal hc (refusal?_congr hrows t values ▸ hr)]
      exact ⟨rfl, h⟩
    | none =>
      have hkey : m.sequence t.name = s.content.sequence t.name := by
        rw [sequence, sequence, hseq]
      rw [Snapshots.insert, insert_of_ok hc hr,
        insert_of_ok hc (refusal?_congr hrows t values ▸ hr), hkey]
      refine ⟨rfl, rows_store_congr hrows hseq t.name values, ?_, h.undoes.store t.name values⟩
      change m.sequences.insert _ _ = s.content.sequences.insert _ _
      rw [hseq, hkey]

theorem find_simulates (h : Simulates m s) (t : TableSchema) (filter : Filter) :
    m.find t filter = s.content.find t filter :=
  find_congr h.rows t filter

theorem begin_simulates (h : Simulates m s) : Simulates m.begin s.begin :=
  ⟨h.rows, h.sequences, .cons h.rows (h.undoes.congr h.rows.symm)⟩

theorem commit_simulates (h : Simulates m s) :
    m.commit.1 = s.commit.1 ∧ Simulates m.commit.2 s.commit.2 := by
  obtain ⟨tables, sequences, logs⟩ := m
  obtain ⟨tables', sequences', saved⟩ := s
  obtain ⟨hrows, hseq, hundoes⟩ := h
  cases hundoes with
  | nil => exact ⟨rfl, hrows, hseq, .nil⟩
  | cons here outer =>
    cases outer with
    | nil => exact ⟨rfl, hrows, hseq, .nil⟩
    | cons here' outer =>
      -- the log that is handed on undoes both transactions
      refine ⟨rfl, hrows, hseq, .cons ?_ outer⟩
      rw [List.foldl_append]
      exact (rows_undo_congr here _).trans here'

theorem rollback_simulates (h : Simulates m s) :
    m.rollback.1 = s.rollback.1 ∧ Simulates m.rollback.2 s.rollback.2 := by
  obtain ⟨tables, sequences, logs⟩ := m
  obtain ⟨tables', sequences', saved⟩ := s
  obtain ⟨hrows, hseq, hundoes⟩ := h
  cases hundoes with
  | nil => exact ⟨rfl, hrows, hseq, .nil⟩
  | cons here outer => exact ⟨rfl, here, hseq, outer.congr here⟩

/-- **Every call is answered alike** by two stores of which one simulates the other, and keeps the
simulation. -/
theorem call_simulates (c : Call) (h : Simulates m s) :
    (backend.call c m).1 = (Snapshots.backend.call c s).1 ∧
      Simulates (backend.call c m).2 (Snapshots.backend.call c s).2 := by
  cases c with
  | insert t row =>
    obtain ⟨hanswer, hnext⟩ := insert_simulates h t row
    exact ⟨congrArg Call.Answer.key hanswer, hnext⟩
  | find t filter =>
    have hanswer := find_simulates h t filter
    exact ⟨congrArg (fun key => Call.Answer.found (.ok key)) hanswer, h⟩
  | begin => exact ⟨rfl, begin_simulates h⟩
  | commit =>
    obtain ⟨hanswer, hnext⟩ := commit_simulates h
    exact ⟨congrArg Call.Answer.closed hanswer, hnext⟩
  | rollback =>
    obtain ⟨hanswer, hnext⟩ := rollback_simulates h
    exact ⟨congrArg Call.Answer.closed hanswer, hnext⟩

theorem calls_simulates (session : List Call) :
    (backend.calls session empty).1 = (Snapshots.backend.calls session .empty).1 ∧
      Simulates (backend.calls session empty).2 (Snapshots.backend.calls session .empty).2 :=
  Backend.calls_simulate (fun c _ _ h => call_simulates c h) session empty_simulates

/-- **The store with undo logs refines the store with copies.**  After every session, balanced or
not, all answers were the same, and so are the rows of each table, the last keys and the number of
open transactions. -/
theorem logs_refine_snapshots (session : List Call) :
    let m := backend.calls session empty
    let s := Snapshots.backend.calls session .empty
    m.1 = s.1 ∧ (∀ table, m.2.rows table = s.2.rows table) ∧ m.2.sequences = s.2.sequences ∧
      m.2.openTransactions = s.2.openTransactions := by
  obtain ⟨hanswers, hlast⟩ := calls_simulates session
  exact ⟨hanswers, congrFun hlast.rows, hlast.sequences, hlast.undoes.length_eq⟩

end Memory

end Accession
