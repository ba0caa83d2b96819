import Accession.Proofs.Memory.Upsert

/-!
# Why an upsert fails

A row that only has values in declared columns, and none in the primary key, can be refused for its
values alone: for the type of one, for one that is missing, or for a reference.

* `StoreError.aboutValues` : these three reasons.
* `TableSchema.Declares` : the table declares the columns of a row.
* `Memory.Refers` : the references in a row are keys of stored rows.
* `Memory.upsert_error` : an upsert of such a row fails for its values, and not for a reference if
  all references are good.
-/

namespace Accession

namespace StoreError

/-- A reference is at fault. -/
def isForeignKey : StoreError → Bool
  | foreignKey .. => true
  | _ => false

/-- The values of a row are at fault, not what was asked of the store. -/
def aboutValues : StoreError → Bool
  | typeMismatch .. | notNull .. | foreignKey .. => true
  | _ => false

end StoreError

namespace TableSchema

variable {t : TableSchema} {column : String} {value : Value} {row values : Row} {e : StoreError}

/-- The columns of the row are declared, and none is the primary key. -/
def Declares (t : TableSchema) (row : Row) : Prop :=
  ∀ entry ∈ row, t.hasColumn entry.1 ∧ entry.1 ≠ t.primaryKey

theorem coerceValue_error (hcolumn : t.hasColumn column)
    (h : t.coerceValue column value = .error e) :
    ∃ type text, e = .typeMismatch t.name column type text := by
  rw [hasColumn, Dict.contains] at hcolumn
  rw [coerceValue] at h
  cases hc : t.columns.get? column with
  | none =>
    rw [hc] at hcolumn
    cases hcolumn
  | some c =>
    rw [hc] at h
    cases hv : value.coerce c.type with
    | none =>
      simp only [hv] at h
      cases h
      exact ⟨_, _, rfl⟩
    | some v =>
      simp only [hv] at h
      cases h

theorem coerceRow_error (hrow : t.Declares row) (h : t.coerceRow row = .error e) :
    ∃ column type text, e = .typeMismatch t.name column type text := by
  induction row with
  | nil => cases h
  | cons entry row ih =>
    obtain ⟨⟨hcolumn, -⟩, hrest⟩ := List.forall_mem_cons.1 hrow
    rw [coerceRow] at h
    cases hv : t.coerceValue entry.1 entry.2 with
    | error e' =>
      simp only [hv] at h
      cases h
      exact ⟨_, coerceValue_error hcolumn hv⟩
    | ok v =>
      cases hr : t.coerceRow row with
      | error e' =>
        simp only [hv, hr] at h
        cases h
        exact ih hrest hr
      | ok values =>
        simp only [hv, hr] at h
        cases h

theorem not_contains_primaryKey (hrow : t.Declares row) (hc : t.coerceRow row = .ok values) :
    values.contains t.primaryKey = false := by
  rw [Dict.contains]
  cases hv : values.get? t.primaryKey with
  | none => rfl
  | some v =>
    obtain ⟨value, hvalue, -⟩ := get?_of_coerceRow hc hv
    exact absurd rfl (hrow _ (Dict.mem_of_get? hvalue)).2

end TableSchema

namespace Memory

variable {r : Registry} {mode : TextMatch} {m m' : Memory} {t : TableSchema} {table : String}
  {row values : Row} {e : StoreError}

/-- Where the row has a value in a column that refers to a table, the column holds integers, and
the value is the key of a row of that table. -/
def Refers (m : Memory) (t : TableSchema) (row : Row) : Prop :=
  ∀ entry ∈ row, ∀ target, (entry.1, target) ∈ t.foreignKeys →
    t.columnType? entry.1 = some .integer ∧
      ∃ key, entry.2 = .integer key ∧ m.HasKey target key

theorem danglingColumn?_of_refers (hrow : m.Refers t row) (hc : t.coerceRow row = .ok values) :
    m.danglingColumn? t values = none := by
  refine danglingColumn?_eq_none.2 fun fk hfk v hv => ?_
  obtain ⟨value, hvalue, hcoerce⟩ := TableSchema.get?_of_coerceRow hc hv
  obtain ⟨hinteger, key, hkey, hstored⟩ := hrow _ (Dict.mem_of_get? hvalue) fk.2 hfk
  have hkey : value = .integer key := hkey
  subst hkey
  rw [TableSchema.coerceValue_integer hinteger] at hcoerce
  cases hcoerce
  exact refersTo_iff.2 ⟨key, rfl, hstored⟩

theorem aboutValues_of_refusal? (hkey : values.contains t.primaryKey = false)
    (hr : m.refusal? t values = some e) (he : e.isUniqueViolation = false) :
    e.aboutValues ∧ (m.danglingColumn? t values = none → e.isForeignKey = false) := by
  rw [refusal?, hkey, if_neg Bool.false_ne_true] at hr
  cases hmissing : missingColumn? t values with
  | some c =>
    rw [hmissing] at hr
    cases hr
    exact ⟨rfl, fun _ => rfl⟩
  | none =>
    cases hdangling : m.danglingColumn? t values with
    | some c =>
      rw [hmissing, hdangling] at hr
      cases hr
      exact ⟨rfl, fun h => by cases h⟩
    | none =>
      -- then only uniqueness is left
      rw [hmissing, hdangling] at hr
      obtain ⟨columns, -, rfl⟩ := Option.map_eq_some_iff.1 hr
      cases he

/-- **Why an upsert fails**, if the columns of the row are declared and none is the primary key. -/
theorem upsert_error {e : LoadError} (ht : r.get? table = some t) (hrow : t.Declares row)
    (h : (Store.inMemory r mode).upsert table row m = (.error e, m')) :
    ∃ reason, e = .store reason ∧ reason.aboutValues ∧
      (m.Refers t row → reason.isForeignKey = false) := by
  cases hc : t.coerceRow row with
  | error reason =>
    obtain ⟨column, type, text, rfl⟩ := TableSchema.coerceRow_error hrow hc
    rw [upsert_of_coerceRow_error ht hc] at h
    cases h
    exact ⟨_, rfl, rfl, fun _ => rfl⟩
  | ok values =>
    rcases refusal?_cases m t values with ⟨hr, -, -⟩ | ⟨_, -, -, ha, htaken⟩ | ⟨reason, hr, hu⟩
    · rw [upsert_free ht hc hr] at h
      cases h
    -- a conflict always finds the row in the way
    · obtain ⟨key, -, hfound⟩ := upsert_taken mode ht hc ha htaken
      rw [hfound] at h
      cases h
    · rw [upsert_refused ht hc hr hu] at h
      cases h
      obtain ⟨habout, hforeign⟩ := aboutValues_of_refusal?
        (TableSchema.not_contains_primaryKey hrow hc) hr hu
      exact ⟨reason, rfl, habout, fun hrefers =>
        hforeign (danglingColumn?_of_refers hrefers hc)⟩

end Memory

end Accession
