import Accession.Store.Value

/-!
# Failures of a store

`StoreError` lists why a store refuses a call, and `StoreError.message` words it.
-/

namespace Accession

/-- Why a store refuses a call. -/
inductive StoreError where
  /-- A row agrees with a stored one in all columns of a uniqueness constraint. -/
  | uniqueViolation (table : String) (constraint : Option String)
  /-- A row has no value in a column that needs one. -/
  | notNull (table : String) (column : Option String)
  /-- A row refers to a row that does not exist. -/
  | foreignKey (table : String) (column : Option String)
  /-- A value is none of the type of its column. -/
  | typeMismatch (table column : String) (expected : ColumnType) (value : String)
  /-- No such table. -/
  | unknownTable (table : String)
  /-- No such column. -/
  | unknownColumn (table column : String)
  /-- The store cannot be reached. -/
  | connection (detail : String)
  /-- A transaction cannot be opened or closed. -/
  | transaction (detail : String)
  /-- A statement failed. -/
  | query (table : Option String) (detail : String)
  deriving DecidableEq, Repr

namespace StoreError

/-- The failure is that of a uniqueness constraint. -/
def isUniqueViolation : StoreError → Bool
  | uniqueViolation .. => true
  | _ => false

/-- A detail between two texts, or nothing. -/
def aside (before after : String) : Option String → String
  | some detail => before ++ detail ++ after
  | none => ""

/-- The wording of a failure. -/
def message : StoreError → String
  | uniqueViolation table constraint =>
    "table '" ++ table ++ "': uniqueness violation" ++ aside " on (" ")" constraint
  | notNull table column =>
    "table '" ++ table ++ "': null value in non-nullable column '" ++ column.getD "?" ++ "'"
  | foreignKey table column =>
    "table '" ++ table ++ "': foreign key violation" ++ aside " on column '" "'" column
  | typeMismatch table column expected value =>
    "table '" ++ table ++ "': column '" ++ column ++ "' expects " ++ expected.name ++ ", got '"
      ++ value ++ "'"
  | unknownTable table => "unknown table '" ++ table ++ "'"
  | unknownColumn table column => "table '" ++ table ++ "': unknown column '" ++ column ++ "'"
  | connection detail => "connection failed: " ++ detail
  | transaction detail => "transaction error: " ++ detail
  | query table detail => "query failed" ++ aside " on table '" "'" table ++ ": " ++ detail

end StoreError

end Accession
