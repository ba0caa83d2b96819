import Accession.Store.Backend

/-!
# Merge or insert

`Store.upsert` makes sure that a table holds a row, and answers its key: it inserts the row, or,
when a uniqueness constraint refuses it, finds the row that was in the way.

Every insertion has a transaction of its own, committed on success and rolled back on failure.
The lookup after a conflict goes through the constraints in order, with one condition for each
column: texts are matched as the store's `TextMatch` says, other values by equality.
-/

namespace Accession

/-- Why a record is not loaded. -/
inductive LoadError where
  /-- A call to the backend failed. -/
  | store (e : StoreError)
  /-- An insertion conflicted, but no row that is in the way was found. -/
  | unmatchedConflict (table : String)
  /-- The record at an index of a batch is not loaded. -/
  | record (index : Nat) (source : LoadError)
  deriving DecidableEq, Repr

/-- The wording of a failure to load. -/
def LoadError.message : LoadError → String
  | store e => e.message
  | unmatchedConflict table =>
    "table '" ++ table ++ "': insert conflicted but no existing row matches"
  | record index source => "record " ++ toString index ++ ": " ++ source.message

/-- A step of the backend as a step of a load. -/
def Step.ofStore {σ α : Type} (step : Step σ StoreError α) : Step σ LoadError α :=
  ExceptT.adapt LoadError.store step

/-- The answer of a step, failure included, as a value. -/
def Step.attempt {σ ε α : Type} (step : Step σ ε α) : Step σ LoadError (Except ε α) :=
  ExceptT.lift step.run

theorem Step.ofStore_apply {σ α : Type} (step : Step σ StoreError α) (s : σ) :
    Step.ofStore step s = ((step s).1.mapError .store, (step s).2) := by
  rfl

theorem Step.ofStore_of_ok {σ α : Type} {step : Step σ StoreError α} {s s' : σ} {a : α}
    (h : step s = (.ok a, s')) : Step.ofStore step s = (.ok a, s') := by
  rw [Step.ofStore_apply, h]
  rfl

theorem Step.ofStore_of_error {σ α : Type} {step : Step σ StoreError α} {s s' : σ}
    {e : StoreError} (h : step s = (.error e, s')) :
    Step.ofStore step s = (.error (.store e), s') := by
  rw [Step.ofStore_apply, h]
  rfl

theorem Step.attempt_apply {σ ε α : Type} (step : Step σ ε α) (s : σ) :
    Step.attempt step s = (.ok (step s).1, (step s).2) := rfl

theorem Step.attempt_of_eq {σ ε α : Type} {step : Step σ ε α} {s s' : σ} {answer : Except ε α}
    (h : step s = (answer, s')) : Step.attempt step s = (.ok answer, s') := by
  rw [Step.attempt_apply, h]

/-- A backend with the tables it may be asked for, and the way texts are looked up. -/
structure Store (σ : Type) where
  backend : Backend σ
  schemas : Registry
  textMatch : TextMatch

/-- The key of a row after an upsert, and whether the row is new. -/
structure Upserted where
  key : Key
  created : Bool
  deriving DecidableEq, Repr

/-- The condition by which a constrained column is looked up. -/
def lookupCondition? (mode : TextMatch) (type : ColumnType) (value : Value) : Option Condition :=
  match type with
  | .text => some (.text value.display mode)
  | type => (value.coerce type).map .equals

/-- The filter for the row that a constraint sees in the way of another; there is none if the row
has no value in one of the columns. -/
def constraintFilter? (mode : TextMatch) (t : TableSchema) (row : Row) :
    List String → Option Filter
  | [] => some []
  | column :: rest => do
    let value ← Dict.get? row column
    let type ← t.columnType? column
    let condition ← lookupCondition? mode type value
    let filter ← constraintFilter? mode t row rest
    pure ((column, condition) :: filter)

/-- All that the first column of a constraint adds to the filter. -/
theorem constraintFilter?_cons {mode : TextMatch} {t : TableSchema} {row : Row} {column : String}
    {columns : List String} {filter : Filter}
    (h : constraintFilter? mode t row (column :: columns) = some filter) :
    ∃ value type condition rest, row.get? column = some value ∧
      t.columnType? column = some type ∧ lookupCondition? mode type value = some condition ∧
      constraintFilter? mode t row columns = some rest ∧ filter = (column, condition) :: rest := by
  rw [constraintFilter?] at h
  obtain ⟨value, hvalue, h⟩ := Option.bind_eq_some_iff.1 h
  obtain ⟨type, htype, h⟩ := Option.bind_eq_some_iff.1 h
  obtain ⟨condition, hcondition, h⟩ := Option.bind_eq_some_iff.1 h
  obtain ⟨rest, hrest, h⟩ := Option.bind_eq_some_iff.1 h
  exact ⟨value, type, condition, rest, hvalue, htype, hcondition, hrest, (Option.some.inj h).symm⟩

/-- A filter has one condition for each column of its constraint. -/
theorem columns_of_constraintFilter? {mode : TextMatch} {t : TableSchema} {row : Row}
    {columns : List String} {filter : Filter}
    (h : constraintFilter? mode t row columns = some filter) : filter.map Prod.fst = columns := by
  induction columns generalizing filter with
  | nil =>
    cases h
    rfl
  | cons column columns ih =>
    obtain ⟨_, _, _, rest, -, -, -, hrest, rfl⟩ := constraintFilter?_cons h
    exact congrArg (column :: ·) (ih hrest)

namespace Store

variable {σ : Type} (s : Store σ)

/-- The key of the first row found by the constraints in order. -/
def findExisting (t : TableSchema) (row : Row) : List (List String) → Step σ LoadError Key
  | [] => throw (.unmatchedConflict t.name)
  | columns :: rest =>
    match constraintFilter? s.textMatch t row columns with
    -- a row that leaves a column of the constraint empty cannot have violated it
    | none => findExisting t row rest
    | some filter => do
      match ← Step.ofStore (s.backend.find t filter) with
      | some key => pure key
      | none => findExisting t row rest

/-- What follows the answer to an insertion: the transaction is committed or rolled back, and
after a conflict the row in the way is looked up. -/
def settle (t : TableSchema) (row : Row) : Except StoreError Key → Step σ LoadError Upserted
  | .ok key => do
    Step.ofStore s.backend.commit
    pure ⟨key, true⟩
  | .error e => do
    Step.ofStore s.backend.rollback
    if e.isUniqueViolation then
      let key ← s.findExisting t row t.unique
      pure ⟨key, false⟩
    else throw (.store e)

/-- Makes sure that the table holds the row. -/
def upsert (table : String) (row : Row) : Step σ LoadError Upserted :=
  match s.schemas.get? table with
  | none => throw (.store (.unknownTable table))
  | some t => do
    Step.ofStore s.backend.begin
    let answer ← Step.attempt (s.backend.insert t row)
    s.settle t row answer

end Store

end Accession
