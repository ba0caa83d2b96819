import Accession.Store.Upsert

/-!
# The store in memory

`Memory` keeps its rows in lists, and checks the schema as a database does: types, columns that
need a value, foreign keys and uniqueness.  A row without a value in some column of a uniqueness
constraint never conflicts.

Transactions keep a log of the rows inserted since their `begin`, not a copy of the tables.  Keys
count up from one in each table, and are not given back when rows are undone.

* `Memory.insert`, `Memory.find`, `Memory.begin`, `Memory.commit`, `Memory.rollback` : the five
  calls, each a function of the state.
* `Memory.backend` : the same as a `Backend`; `Store.inMemory` : with the tables of a registry.
-/

namespace Accession

/-- A row of a table and its key. -/
structure StoredRow where
  key : Key
  values : Row

/-- The rows of each table, in the order of their keys. -/
abbrev Tables := Dict String (List StoredRow)

/-- The rows of a table. -/
def Tables.rows (tables : Tables) (table : String) : List StoredRow :=
  (Dict.get? tables table).getD []

/-- The rows inserted since a transaction was opened, latest first. -/
abbrev UndoLog := List (String × Key)

/-- The state of the store in memory. -/
structure Memory where
  tables : Tables
  /-- The last key given in each table. -/
  sequences : Dict String Key
  /-- The logs of the open transactions, the innermost first. -/
  undo : List UndoLog

namespace Memory

/-- A store without rows. -/
def empty : Memory := ⟨[], [], []⟩

/-- The rows of a table. -/
def rows (m : Memory) (table : String) : List StoredRow := m.tables.rows table

/-- The last key given in a table. -/
def sequence (m : Memory) (table : String) : Key := (m.sequences.get? table).getD 0

/-- The row of a key. -/
def get? (m : Memory) (table : String) (key : Key) : Option StoredRow :=
  (m.rows table).find? (·.key == key)

/-- The number of rows of a table. -/
def rowCount (m : Memory) (table : String) : Nat := (m.rows table).length

/-- The names of the tables that hold a row, in order. -/
def tableNames (m : Memory) : List String :=
  ((m.tables.filter fun (t : String × List StoredRow) => !t.2.isEmpty).map Prod.fst).mergeSort
    fun a b => !decide (b < a)

/-- The number of open transactions. -/
def openTransactions (m : Memory) : Nat := m.undo.length

/-! ### Checks on a row -/

/-- The first column that needs a value and has none. -/
def missingColumn? (t : TableSchema) (values : Row) : Option String :=
  (t.columns.find? fun c =>
    !c.2.nullable && c.1 != t.primaryKey && !values.contains c.1).map Prod.fst

/-- The value is the key of a row of the table. -/
def refersTo (m : Memory) (target : String) : Value → Bool
  | .integer key => (m.rows target).any (·.key == key)
  | _ => false

/-- The first foreign key column whose value is the key of no row. -/
def danglingColumn? (m : Memory) (t : TableSchema) (values : Row) : Option String :=
  (t.foreignKeys.find? fun fk =>
    match values.get? fk.1 with
    | some value => !m.refersTo fk.2 value
    | none => false).map Prod.fst

/-- The row has values in all the columns, and they equal those of the stored row. -/
def agrees (columns : List String) (values : Row) (stored : StoredRow) : Bool :=
  columns.all fun c =>
    match values.get? c, stored.values.get? c with
    | some v, some w => w == v
    | _, _ => false

/-- The row has a value in each of the columns. -/
def fills (values : Row) (columns : List String) : Bool := columns.all values.contains

/-- The first constraint that a stored row agrees on. -/
def conflict? (m : Memory) (t : TableSchema) (values : Row) : Option (List String) :=
  t.unique.find? fun columns =>
    fills values columns && (m.rows t.name).any (agrees columns values)

/-- The first reason to refuse a row whose values are already coerced. -/
def refusal? (m : Memory) (t : TableSchema) (values : Row) : Option StoreError :=
  if values.contains t.primaryKey then
    some (.query (some t.name) ("primary key '" ++ t.primaryKey ++ "' is generated by the store"))
  else
    (missingColumn? t values).map (fun c => .notNull t.name (some c))
    <|> (m.danglingColumn? t values).map (fun c => .foreignKey t.name (some c))
    <|> (m.conflict? t values).map
      (fun columns => .uniqueViolation t.name (some (String.intercalate ", " columns)))

/-! ### The calls -/

/-- Adds an entry to the log of the innermost transaction, if one is open. -/
def logged (entry : String × Key) : List UndoLog → List UndoLog
  | [] => []
  | log :: outer => (entry :: log) :: outer

/-- The store after a row that no check refuses. -/
def store (m : Memory) (table : String) (values : Row) : Memory :=
  let key := m.sequence table + 1
  { tables := Dict.insert m.tables table (m.rows table ++ [⟨key, values⟩])
    sequences := m.sequences.insert table key
    undo := logged (table, key) m.undo }

/-- Stores a row and answers its key. -/
def insert (t : TableSchema) (row : Row) (m : Memory) : Except StoreError Key × Memory :=
  match t.coerceRow row with
  | .error e => (.error e, m)
  | .ok values =>
    match m.refusal? t values with
    | some e => (.error e, m)
    | none => (.ok (m.sequence t.name + 1), m.store t.name values)

/-- The key of the first row that meets the filter. -/
def find (t : TableSchema) (filter : Filter) (m : Memory) : Option Key :=
  ((m.rows t.name).find? fun r => filter.holds r.values).map StoredRow.key

/-- Opens a transaction. -/
def begin (m : Memory) : Memory := { m with undo := [] :: m.undo }

/-- Closes the innermost transaction; its work then belongs to the one around it. -/
def commit (m : Memory) : Except StoreError Unit × Memory :=
  match m.undo with
  | [] => (.error (.transaction "commit without an open transaction"), m)
  | [_] => (.ok (), { m with undo := [] })
  -- the logs are latest first, so that of the inner transaction comes in front
  | log :: outer :: rest => (.ok (), { m with undo := (log ++ outer) :: rest })

/-- The rows without the last one of a key. -/
def withoutKey (rows : List StoredRow) (key : Key) : List StoredRow :=
  (rows.reverse.eraseP (·.key == key)).reverse

/-- The tables without a row. -/
def erase (tables : Tables) (entry : String × Key) : Tables :=
  Dict.modify tables entry.1 (withoutKey · entry.2)

/-- Closes the innermost transaction and undoes its work, latest first. -/
def rollback (m : Memory) : Except StoreError Unit × Memory :=
  match m.undo with
  | [] => (.error (.transaction "rollback without an open transaction"), m)
  | log :: rest => (.ok (), { m with tables := log.foldl erase m.tables, undo := rest })

/-- The store in memory as a backend. -/
def backend : Backend Memory where
  insert t row := ExceptT.mk fun m => m.insert t row
  find t filter := ExceptT.mk fun m => (.ok (m.find t filter), m)
  begin := ExceptT.mk fun m => (.ok (), m.begin)
  commit := ExceptT.mk commit
  rollback := ExceptT.mk rollback

/-! ### What the checks let pass -/

/-- No check but that of uniqueness refuses the row. -/
structure Admits (m : Memory) (t : TableSchema) (values : Row) : Prop where
  key : values.contains t.primaryKey = false
  filled : missingColumn? t values = none
  refers : m.danglingColumn? t values = none

/-- A stored row agrees with the row on some constraint. -/
def Taken (m : Memory) (t : TableSchema) (values : Row) : Prop :=
  ∃ columns ∈ t.unique, ∃ stored ∈ m.rows t.name, agrees columns values stored

section

variable {m : Memory} {t : TableSchema} {row values : Row} {table other : String} {key : Key}

theorem refersTo_iff {target : String} {value : Value} :
    m.refersTo target value ↔ ∃ key, value = .integer key ∧ ∃ r ∈ m.rows target, r.key = key := by
  cases value with
  | integer key =>
    rw [refersTo, List.any_eq_true]
    constructor
    · rintro ⟨r, hr, hkey⟩
      exact ⟨key, rfl, r, hr, eq_of_beq hkey⟩
    · rintro ⟨_, hkey, r, hr, rfl⟩
      cases hkey
      exact ⟨r, hr, BEq.rfl⟩
  | text _ | float _ | boolean _ => simp [refersTo]

theorem danglingColumn?_eq_none : m.danglingColumn? t values = none ↔
    ∀ fk ∈ t.foreignKeys, ∀ value, values.get? fk.1 = some value → m.refersTo fk.2 value := by
  rw [danglingColumn?, Option.map_eq_none_iff, List.find?_eq_none]
  refine forall_congr' fun fk => forall_congr' fun _ => ?_
  cases values.get? fk.1 <;> simp

theorem agrees_iff {columns : List String} {stored : StoredRow} :
    agrees columns values stored ↔ ∀ c ∈ columns, ∃ v w,
      values.get? c = some v ∧ stored.values.get? c = some w ∧ w == v := by
  rw [agrees, List.all_eq_true]
  refine forall_congr' fun c => forall_congr' fun _ => ?_
  cases values.get? c <;> cases stored.values.get? c <;> simp

theorem fills_of_agrees {columns : List String} {stored : StoredRow}
    (h : agrees columns values stored) : fills values columns := by
  rw [fills, List.all_eq_true]
  intro c hc
  obtain ⟨v, w, hv, -⟩ := agrees_iff.1 h c hc
  rw [Dict.contains, hv]
  rfl

theorem isSome_conflict? : (m.conflict? t values).isSome ↔ m.Taken t values := by
  rw [conflict?, List.find?_isSome]
  constructor
  · rintro ⟨columns, hcolumns, hconflict⟩
    rw [Bool.and_eq_true, List.any_eq_true] at hconflict
    obtain ⟨-, stored, hstored, hagrees⟩ := hconflict
    exact ⟨columns, hcolumns, stored, hstored, hagrees⟩
  · rintro ⟨columns, hcolumns, stored, hstored, hagrees⟩
    refine ⟨columns, hcolumns, ?_⟩
    rw [Bool.and_eq_true, List.any_eq_true]
    exact ⟨fills_of_agrees hagrees, stored, hstored, hagrees⟩

theorem refusal?_of_admits (h : m.Admits t values) : m.refusal? t values =
    (m.conflict? t values).map fun columns =>
      .uniqueViolation t.name (some (String.intercalate ", " columns)) := by
  obtain ⟨hkey, hfilled, hrefers⟩ := h
  simp [refusal?, hkey, hfilled, hrefers]

theorem refusal?_of_not_admits (h : ¬ m.Admits t values) :
    ∃ e, m.refusal? t values = some e ∧ e.isUniqueViolation = false := by
  rw [refusal?]
  by_cases hkey : values.contains t.primaryKey
  · rw [if_pos hkey]
    exact ⟨_, rfl, rfl⟩
  · rw [if_neg hkey]
    cases hfilled : missingColumn? t values with
    | some c => exact ⟨_, rfl, rfl⟩
    | none =>
      cases hrefers : m.danglingColumn? t values with
      | some c => exact ⟨_, rfl, rfl⟩
      | none => exact absurd ⟨Bool.eq_false_iff.2 hkey, hfilled, hrefers⟩ h

/-- Every way in which the checks can end. -/
theorem refusal?_cases (m : Memory) (t : TableSchema) (values : Row) :
    (m.refusal? t values = none ∧ m.Admits t values ∧ ¬ m.Taken t values) ∨
      (∃ e, m.refusal? t values = some e ∧ e.isUniqueViolation ∧ m.Admits t values ∧
        m.Taken t values) ∨
      ∃ e, m.refusal? t values = some e ∧ e.isUniqueViolation = false := by
  by_cases h : m.Admits t values
  · rw [refusal?_of_admits h]
    have htaken : (m.conflict? t values).isSome ↔ m.Taken t values := isSome_conflict?
    cases hc : m.conflict? t values with
    | none => exact .inl ⟨rfl, h, by simp [← htaken, hc]⟩
    | some columns => exact .inr (.inl ⟨_, rfl, rfl, h, by simp [← htaken, hc]⟩)
  · exact .inr (.inr (refusal?_of_not_admits h))

theorem admits_of_refusal?_eq_none (h : m.refusal? t values = none) : m.Admits t values := by
  rcases refusal?_cases m t values with ⟨-, ha, -⟩ | ⟨e, he, -⟩ | ⟨e, he, -⟩
  · exact ha
  · rw [he] at h
    cases h
  · rw [he] at h
    cases h

theorem refusal?_of_taken (ha : m.Admits t values) (ht : m.Taken t values) :
    ∃ e, m.refusal? t values = some e ∧ e.isUniqueViolation := by
  rcases refusal?_cases m t values with ⟨-, -, hfree⟩ | ⟨e, he, hu, -⟩ | ⟨e, he, hu⟩
  · exact absurd ht hfree
  · exact ⟨e, he, hu⟩
  · rw [refusal?_of_admits ha] at he
    obtain ⟨columns, -, rfl⟩ := Option.map_eq_some_iff.1 he
    cases hu

/-! ### What the calls change -/

@[simp] theorem rows_store_self : (m.store table values).rows table =
    m.rows table ++ [⟨m.sequence table + 1, values⟩] := by
  simp [store, rows, Tables.rows]

theorem rows_store_of_ne (h : other ≠ table) :
    (m.store table values).rows other = m.rows other := by
  simp [store, rows, Tables.rows, Dict.get?_insert_of_ne h]

theorem mem_rows_store {r : StoredRow} (h : r ∈ (m.store table values).rows other) :
    r ∈ m.rows other ∨ other = table ∧ r = ⟨m.sequence table + 1, values⟩ := by
  by_cases ho : other = table
  · subst ho
    rw [rows_store_self, List.mem_append, List.mem_singleton] at h
    exact h.imp id fun h => ⟨rfl, h⟩
  · exact .inl (rows_store_of_ne ho ▸ h)

theorem rows_subset_store : m.rows other ⊆ (m.store table values).rows other := by
  by_cases ho : other = table
  · subst ho
    simp
  · rw [rows_store_of_ne ho]
    exact List.Subset.refl _

theorem insert_of_error {e : StoreError} (h : t.coerceRow row = .error e) :
    m.insert t row = (.error e, m) := by
  rw [insert, h]

theorem insert_of_refusal {e : StoreError} (h : t.coerceRow row = .ok values)
    (hr : m.refusal? t values = some e) : m.insert t row = (.error e, m) := by
  rw [insert, h]
  dsimp only
  rw [hr]

theorem insert_of_ok (h : t.coerceRow row = .ok values) (hr : m.refusal? t values = none) :
    m.insert t row = (.ok (m.sequence t.name + 1), m.store t.name values) := by
  rw [insert, h]
  dsimp only
  rw [hr]

/-- All that an insertion can do. -/
theorem insert_cases (m : Memory) (t : TableSchema) (row : Row) :
    (∃ e, m.insert t row = (.error e, m)) ∨
      ∃ values, t.coerceRow row = .ok values ∧ m.refusal? t values = none ∧
        m.insert t row = (.ok (m.sequence t.name + 1), m.store t.name values) := by
  cases hc : t.coerceRow row with
  | error e => exact .inl ⟨e, insert_of_error hc⟩
  | ok values =>
    cases hr : m.refusal? t values with
    | some e => exact .inl ⟨e, insert_of_refusal hc hr⟩
    | none => exact .inr ⟨values, rfl, hr, insert_of_ok hc hr⟩

theorem withoutKey_append (rows : List StoredRow) (r : StoredRow) :
    withoutKey (rows ++ [r]) r.key = rows := by
  simp [withoutKey]

theorem rows_erase_self (tables : Tables) :
    (erase tables (table, key)).rows table = withoutKey (tables.rows table) key := by
  rw [Tables.rows, erase, Dict.get?_modify_self, Tables.rows]
  cases Dict.get? tables table <;> rfl

theorem rows_erase_of_ne (tables : Tables) (h : other ≠ table) :
    (erase tables (table, key)).rows other = tables.rows other := by
  rw [Tables.rows, erase, Dict.get?_modify_of_ne _ h, Tables.rows]

/-- Erasing the row that was stored last leaves the rows from before. -/
theorem rows_erase_store : (erase (m.store table values).tables
    (table, m.sequence table + 1)).rows other = m.rows other := by
  by_cases ho : other = table
  · subst ho
    rw [rows_erase_self]
    change withoutKey ((m.store other values).rows other) _ = _
    rw [rows_store_self, withoutKey_append]
  · rw [rows_erase_of_ne _ ho]
    exact rows_store_of_ne ho

end

end Memory

/-- The store in memory with the tables of a registry. -/
def Store.inMemory (r : Registry) (mode : TextMatch) : Store Memory := ⟨Memory.backend, r, mode⟩

end Accession
