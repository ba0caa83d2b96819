import Accession.Store.Error
import Accession.Text.Identifier

/-!
# Table schemas

* `TableSchema` : the columns of a table, its primary key, foreign keys and uniqueness
  constraints; the key is an integer column that the store fills.
* `TableSchema.coerceRow` : a row with every value as its column stores it.
* `Registry` : the tables by name.
* `Registry.validate` : names are identifiers, and constraints speak of declared columns and
  tables.
-/

namespace Accession

/-- A declared column. -/
structure Column where
  type : ColumnType
  nullable : Bool
  deriving DecidableEq, Repr

/-- A table. -/
structure TableSchema where
  name : String
  /-- The column of the key that the store generates. -/
  primaryKey : String
  columns : Dict String Column
  /-- The table that each foreign key column refers to. -/
  foreignKeys : Dict String String
  /-- Lists of columns on which no two rows agree. -/
  unique : List (List String)
  deriving DecidableEq, Repr

namespace TableSchema

/-- The name of the primary key where none is given. -/
def defaultPrimaryKey : String := "id"

/-- Declares the primary key as first column, unless it is declared. -/
def withPrimaryKey (t : TableSchema) : TableSchema :=
  if t.columns.contains t.primaryKey then t
  else { t with columns := (t.primaryKey, ⟨.integer, false⟩) :: t.columns }

/-- A table with no column but its primary key. -/
def new (name : String) : TableSchema :=
  withPrimaryKey ⟨name, defaultPrimaryKey, [], [], []⟩

/-- Declares a column, or declares it anew. -/
def withColumn (t : TableSchema) (column : String) (type : ColumnType) (nullable : Bool) :
    TableSchema :=
  { t with columns := t.columns.insert column ⟨type, nullable⟩ }

/-- Makes a column refer to a table. -/
def withForeignKey (t : TableSchema) (column table : String) : TableSchema :=
  { t with foreignKeys := t.foreignKeys.insert column table }

/-- Adds a uniqueness constraint. -/
def withUnique (t : TableSchema) (columns : List String) : TableSchema :=
  { t with unique := t.unique ++ [columns] }

/-- The column is declared. -/
def hasColumn (t : TableSchema) (column : String) : Bool := t.columns.contains column

/-- The type of a column. -/
def columnType? (t : TableSchema) (column : String) : Option ColumnType :=
  (t.columns.get? column).map Column.type

/-- The value as its column stores it. -/
def coerceValue (t : TableSchema) (column : String) (value : Value) : Except StoreError Value :=
  match t.columns.get? column with
  | none => .error (.unknownColumn t.name column)
  | some c =>
    match value.coerce c.type with
    | some v => .ok v
    | none => .error (.typeMismatch t.name column c.type value.display)

/-- The row with every value as its column stores it; the first column that is not declared or
whose type does not admit its value is an error. -/
def coerceRow (t : TableSchema) : Row → Except StoreError Row
  | [] => .ok []
  | (column, value) :: rest =>
    match t.coerceValue column value with
    | .error e => .error e
    | .ok v =>
      match coerceRow t rest with
      | .error e => .error e
      | .ok row => .ok ((column, v) :: row)

section Coercion

variable {t : TableSchema} {column : String} {value v : Value} {row values rest : Row}

theorem coerceValue_eq_ok : t.coerceValue column value = .ok v ↔
    ∃ c, t.columns.get? column = some c ∧ value.coerce c.type = some v := by
  rw [coerceValue]
  cases t.columns.get? column with
  | none => simp
  | some c => cases h : value.coerce c.type <;> simp [h]

theorem coerceValue_integer (h : t.columnType? column = some .integer) (n : Int) :
    t.coerceValue column (.integer n) = .ok (.integer n) := by
  obtain ⟨c, hc, htype⟩ := Option.map_eq_some_iff.1 h
  exact coerceValue_eq_ok.2 ⟨c, hc, by rw [htype]; rfl⟩

theorem coerceRow_cons_eq_ok : t.coerceRow ((column, value) :: rest) = .ok values ↔
    ∃ v row, t.coerceValue column value = .ok v ∧ t.coerceRow rest = .ok row ∧
      values = (column, v) :: row := by
  rw [coerceRow]
  cases t.coerceValue column value with
  | error e => simp
  | ok v => cases t.coerceRow rest <;> simp [eq_comm]

/-- A row keeps its columns when its values are coerced. -/
theorem keys_of_coerceRow (h : t.coerceRow row = .ok values) : values.keys = row.keys := by
  induction row generalizing values with
  | nil =>
    cases h
    rfl
  | cons entry row ih =>
    obtain ⟨v, rest, -, hrest, rfl⟩ := coerceRow_cons_eq_ok.1 h
    exact congrArg (entry.1 :: ·) (ih hrest)

theorem contains_of_coerceRow (h : t.coerceRow row = .ok values) (column : String) :
    values.contains column = row.contains column := by
  rw [Bool.eq_iff_iff, Dict.contains_iff_mem_keys, Dict.contains_iff_mem_keys, keys_of_coerceRow h]

/-- A value of a coerced row comes from the value that the row had in that column. -/
theorem get?_of_coerceRow (h : t.coerceRow row = .ok values) (hv : values.get? column = some v) :
    ∃ value, row.get? column = some value ∧ t.coerceValue column value = .ok v := by
  induction row generalizing values with
  | nil =>
    cases h
    cases hv
  | cons entry row ih =>
    obtain ⟨w, values', hw, hrow, rfl⟩ := coerceRow_cons_eq_ok.1 h
    rw [Dict.get?_cons] at hv ⊢
    by_cases hc : entry.1 = column
    · rw [if_pos hc] at hv ⊢
      cases hv
      exact ⟨entry.2, rfl, hc ▸ hw⟩
    · rw [if_neg hc] at hv ⊢
      exact ih hrow hv

theorem isUniqueViolation_of_coerceValue {e : StoreError}
    (h : t.coerceValue column value = .error e) : e.isUniqueViolation = false := by
  rw [coerceValue] at h
  split at h
  · cases h
    rfl
  · split at h
    · cases h
    · cases h
      rfl

theorem isUniqueViolation_of_coerceRow {e : StoreError} (h : t.coerceRow row = .error e) :
    e.isUniqueViolation = false := by
  induction row with
  | nil => cases h
  | cons entry row ih =>
    rw [coerceRow] at h
    cases hv : t.coerceValue entry.1 entry.2 with
    | error e' =>
      simp only [hv] at h
      cases h
      exact isUniqueViolation_of_coerceValue hv
    | ok v =>
      cases hr : t.coerceRow row with
      | error e' =>
        simp only [hv, hr] at h
        cases h
        exact ih hr
      | ok values =>
        simp only [hv, hr] at h
        cases h

end Coercion

end TableSchema

/-- What is wrong with a schema. -/
inductive SchemaFault where
  | tableName (table : String)
  | columnName (table column : String)
  | foreignKeyColumn (table column : String)
  | foreignKeyTable (table column target : String)
  | emptyConstraint (table : String)
  | constraintColumn (table column : String)
  deriving DecidableEq, Repr

/-- The wording of a fault of a schema. -/
def SchemaFault.message : SchemaFault → String
  | tableName table => "invalid schema: invalid table name '" ++ table ++ "'"
  | columnName table column =>
    "invalid schema: table '" ++ table ++ "': invalid column name '" ++ column ++ "'"
  | foreignKeyColumn table column =>
    "invalid schema: table '" ++ table ++ "': foreign key on undeclared column '" ++ column ++ "'"
  | foreignKeyTable table column target =>
    "invalid schema: table '" ++ table ++ "': column '" ++ column
      ++ "' references unknown table '" ++ target ++ "'"
  | emptyConstraint table =>
    "invalid schema: table '" ++ table ++ "': empty uniqueness constraint"
  | constraintColumn table column =>
    "invalid schema: table '" ++ table ++ "': uniqueness constraint on undeclared column '"
      ++ column ++ "'"

/-- The tables of a store by name. -/
structure Registry where
  tables : Dict String TableSchema
  /-- Every table is kept under its name. -/
  named : ∀ e ∈ tables, e.2.name = e.1
  deriving DecidableEq, Repr

namespace Registry

/-- No tables. -/
def empty : Registry := ⟨[], by simp⟩

theorem named_insert {tables : Dict String TableSchema} (h : ∀ e ∈ tables, e.2.name = e.1)
    (t : TableSchema) : ∀ e ∈ tables.insert t.name t, e.2.name = e.1 := by
  intro e he
  rcases Dict.mem_insert he with rfl | he
  · rfl
  · exact h e he

/-- Adds a table under its name. -/
def withTable (r : Registry) (t : TableSchema) : Registry :=
  ⟨r.tables.insert t.name t, named_insert r.named t⟩

/-- The table of a name. -/
def get? (r : Registry) (name : String) : Option TableSchema := r.tables.get? name

theorem name_of_get? {r : Registry} {name : String} {t : TableSchema}
    (h : r.get? name = some t) : t.name = name :=
  r.named _ (Dict.mem_of_get? h)

/-- There is a table of that name. -/
def contains (r : Registry) (name : String) : Bool := r.tables.contains name

/-- The first fault of a foreign key. -/
def foreignKeyFault? (r : Registry) (t : TableSchema) : String × String → Option SchemaFault
  | (column, target) =>
    if !t.hasColumn column then some (.foreignKeyColumn t.name column)
    else if !r.contains target then some (.foreignKeyTable t.name column target)
    else none

/-- The first fault of a uniqueness constraint. -/
def constraintFault? (t : TableSchema) (columns : List String) : Option SchemaFault :=
  if columns.isEmpty then some (.emptyConstraint t.name)
  else (columns.find? fun c => !t.hasColumn c).map (.constraintColumn t.name)

/-- The first fault of a table: of its name, its columns, its foreign keys, its constraints. -/
def tableFault? (r : Registry) (t : TableSchema) : Option SchemaFault :=
  if !Text.isIdentifier t.name.toList then some (.tableName t.name)
  else ((t.columns.keys.find? fun c => !Text.isIdentifier c.toList).map (.columnName t.name))
    <|> t.foreignKeys.findSome? (r.foreignKeyFault? t)
    <|> t.unique.findSome? (constraintFault? t)

/-- Names are identifiers, foreign keys are declared columns and refer to tables of the registry,
and every constraint has columns, all declared; the first fault is an error. -/
def validate (r : Registry) : Except SchemaFault Unit :=
  match r.tables.values.findSome? r.tableFault? with
  | some fault => .error fault
  | none => .ok ()

end Registry

end Accession
