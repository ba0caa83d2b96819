import Accession.Store.Schema
import Accession.Yaml.Decode

/-!
# Schema documents

The tables of a store are written as a YAML document: a mapping `tables` from the names of the
tables, each of which may have a `primary_key`, `columns`, `foreign_keys` and lists of columns
under `unique`.  A column is the name of its type, or a mapping with `type` and `nullable`.

* `Registry.ofYaml` : the tables of a document, each with its primary key declared, and validated.
-/

namespace Accession

/-- Why a schema document gives no tables. -/
inductive SchemaError where
  /-- The document is not YAML, or not laid out as a schema. -/
  | document (e : Yaml.Error)
  /-- The tables are not consistent. -/
  | fault (f : SchemaFault)
  deriving DecidableEq, Repr

/-- The wording of a failure to read a schema. -/
def SchemaError.message : SchemaError → String
  | document e => "failed to parse YAML: " ++ e.message
  | fault f => f.message

/-! ### Columns -/

namespace ColumnType

/-- The type that a text names, or that a number counts among the types. -/
def ofKey? : Yaml → Option ColumnType
  | .text s => ofName? s
  | .integer i => if i < 0 then none else (declared[i.toNat]?).map Prod.fst
  | _ => none

/-- The type that a value gives: by its name, or as the one key of a mapping, with null for its
value. -/
def ofYaml? : Yaml → Option ColumnType
  | .text s => ofName? s
  | .mapping [(key, .null)] => ofKey? key
  | _ => none

end ColumnType

namespace Column

/-- What a key of the mapping of a column says. -/
inductive Key where
  | type
  | nullable
  | other
  deriving DecidableEq

/-- What a key says: by name, or by number. -/
def Key.ofYaml? : Yaml → Option Key
  | .text "type" => some type
  | .text "nullable" => some nullable
  | .text _ => some other
  | .integer 0 => some type
  | .integer 1 => some nullable
  | .integer i => if i < 0 then none else some other
  | _ => none

/-- Reads the entries of the mapping of a column, in any order, neither key twice. -/
def readEntries : (type : Option ColumnType) → (nullable : Option Bool) → List (Yaml × Yaml) →
    Option Column
  | some type, nullable, [] => some ⟨type, nullable.getD true⟩
  | none, _, [] => none
  | type, nullable, (key, value) :: rest =>
    match Key.ofYaml? key, value with
    | some .type, value =>
      match type, ColumnType.ofYaml? value with
      | none, some t => readEntries (some t) nullable rest
      | _, _ => none
    | some .nullable, .bool b =>
      if nullable.isSome then none else readEntries type (some b) rest
    | some .nullable, _ => none
    | some .other, _ => readEntries type nullable rest
    | none, _ => none

/-- The column that a value declares: by its type alone, or by a mapping. -/
def ofYaml? (value : Yaml) : Option Column :=
  match ColumnType.ofYaml? value, value with
  | some type, _ => some ⟨type, true⟩
  | none, .mapping entries => readEntries none none entries
  | none, _ => none

end Column

/-! ### Tables -/

open Yaml (Node Decode)

namespace Registry

/-- The depth at which columns stand. -/
def columnDepth : Nat := 4

/-- Columns are read without tags of their own, and keys that are repeated are left to the reading
of the column. -/
def columnKeeping : Decode.Keeping := ⟨false, false⟩

/-- A column. -/
def decodeColumn (n : Node) : Decode Column := do
  match Column.ofYaml? (← Decode.value columnKeeping (Decode.maxDepth - columnDepth) false n) with
  | some c => pure c
  | none => throw .shape

/-- A table, all but its name. -/
def decodeTable (n : Node) : Decode (String → TableSchema) := do
  let found ← Decode.fields ["primary_key", "columns", "foreign_keys", "unique"] n
  let primaryKey ← Decode.field found "primary_key" TableSchema.defaultPrimaryKey Decode.text
  let columns ← Decode.field found "columns" [] (Decode.dict decodeColumn)
  let foreignKeys ← Decode.field found "foreign_keys" [] (Decode.dict Decode.text)
  let unique ← Decode.field found "unique" [] (Decode.list (Decode.list Decode.text))
  pure fun name => ⟨name, primaryKey, columns, foreignKeys, unique⟩

/-- The tables of a document by name. -/
def decodeTables (n : Node) : Decode (Dict String (String → TableSchema)) := do
  let found ← Decode.fields ["tables"] n
  Decode.required found "tables" (Decode.dict decodeTable)

/-- The tables, each under its name and with its primary key declared. -/
def ofTables (tables : Dict String (String → TableSchema)) : Registry :=
  tables.foldl (fun r t => r.withTable (t.2 t.1).withPrimaryKey) empty

/-- The tables of a schema document. -/
def ofYaml (contents : String) : Except SchemaError Registry :=
  match Decode.run decodeTables contents with
  | .error e => .error (.document e)
  | .ok tables =>
    let r := ofTables tables
    match r.validate with
    | .error f => .error (.fault f)
    | .ok () => .ok r

end Registry

end Accession
