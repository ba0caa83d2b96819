import Accession.Proofs.Store.Trace

/-!
# Lookups by coerced values

After a conflict the store goes back to the row that it was given, and rebuilds what to look for
from values that are not coerced.  What it looks for is none the less a matter of the coerced values
alone: in a column of texts it is the text that would be stored, in any other column the value that
would be stored.

* `Condition.seeking`, `Filter.seeking?` : what a stored value, and a row, is sought by.
* `constraintFilter?_of_coerceRow` : the filter of a constraint, by the coerced values of a row.
* `Resembles` : two rows agree as lookups see it; these are the rows that meet the filter
  (`resembles_iff`).
* `Store.settle_congr` : rows that are the same when coerced are settled in the same way.
* `Store.upsert_seeks` : an upsert looks up by constraints of its table, and by nothing else.
-/

namespace Accession

/-- The condition by which a stored value is sought: a text as the store matches texts, any other
value by equality. -/
def Condition.seeking (mode : TextMatch) : Value → Condition
  | .text s => .text s mode
  | value => .equals value

/-- The filter for rows with these values in some columns, if there is a value for each. -/
def Filter.seeking? (mode : TextMatch) (values : Row) (columns : List String) : Option Filter :=
  columns.mapM fun c => (values.get? c).map fun v => (c, Condition.seeking mode v)

/-- Each of the columns has a value in both rows, and that of the second is found when that of the
first is sought. -/
def Resembles (mode : TextMatch) (columns : List String) (values other : Row) : Prop :=
  ∀ c ∈ columns, ∃ v w, values.get? c = some v ∧ other.get? c = some w ∧
    (Condition.seeking mode v).holds w

section Conditions

variable {mode : TextMatch} {type : ColumnType} {value v w : Value}

theorem lookupCondition?_of_coerce (mode : TextMatch) (h : value.coerce type = some v) :
    lookupCondition? mode type value = some (.seeking mode v) := by
  have htype := Value.type_of_coerce h
  cases type with
  | text =>
    -- a text is sought by what the value displays as, and that is what would be stored
    cases h
    rfl
  | integer | float | boolean =>
    cases v with
    | text => cases htype
    | integer | float | boolean =>
      rw [lookupCondition?, h]
      · rfl
      · exact ColumnType.noConfusion

/-- A value that equals another is found when that one is sought. -/
theorem seeking_holds (mode : TextMatch) (h : w == v) : (Condition.seeking mode v).holds w := by
  cases v with
  | text s =>
    rw [Value.eq_text_of_beq h]
    exact mode.holds_self s
  | integer | float | boolean => exact h

/-- What is not a number is never found. -/
theorem isNaN_of_seeking (h : (Condition.seeking mode v).holds w) : v.isNaN = false := by
  cases v with
  | text => rfl
  | integer | float | boolean => exact Value.isNaN_of_beq h

/-- What is no text is found by equality. -/
theorem beq_of_seeking (h : (Condition.seeking mode v).holds w) (hv : v.type ≠ .text) : w == v := by
  cases v with
  | text => exact absurd rfl hv
  | integer | float | boolean => exact h

end Conditions

/-! ### The filter of a constraint -/

section Filters

variable {mode : TextMatch} {t : TableSchema} {row row' values other : Row} {column : String}
  {columns : List String}

theorem seeking?_cons (mode : TextMatch) (values : Row) (c : String) (columns : List String) :
    Filter.seeking? mode values (c :: columns) = (values.get? c).bind fun v =>
      (Filter.seeking? mode values columns).map ((c, Condition.seeking mode v) :: ·) := by
  rw [Filter.seeking?, List.mapM_cons, ← Filter.seeking?]
  cases values.get? c with
  | none => rfl
  | some v => cases Filter.seeking? mode values columns <;> rfl

/-- **The filter of a constraint speaks of coerced values only.** -/
theorem constraintFilter?_of_coerceRow (mode : TextMatch) (hc : t.coerceRow row = .ok values)
    (columns : List String) :
    constraintFilter? mode t row columns = Filter.seeking? mode values columns := by
  induction columns with
  | nil => rfl
  | cons c columns ih =>
    rw [constraintFilter?, seeking?_cons, ih]
    cases hv : values.get? c with
    | none =>
      have hcontains := TableSchema.contains_of_coerceRow hc c
      rw [Dict.contains, hv] at hcontains
      rw [Option.not_isSome_iff_eq_none.1 (Bool.eq_false_iff.1 hcontains.symm)]
      rfl
    | some v =>
      obtain ⟨value, hvalue, hcoerce⟩ := TableSchema.get?_of_coerceRow hc hv
      obtain ⟨col, hcol, hcoerce⟩ := TableSchema.coerceValue_eq_ok.1 hcoerce
      have hcondition := lookupCondition?_of_coerce mode hcoerce
      rw [hvalue, TableSchema.columnType?, hcol]
      simp only [Option.bind_eq_bind, Option.bind_some, Option.map_some, hcondition]
      cases Filter.seeking? mode values columns <;> rfl

/-- The filter is met by the rows that resemble the values on all columns. -/
theorem resembles_iff : Resembles mode columns values other ↔
    ∃ filter, Filter.seeking? mode values columns = some filter ∧ filter.holds other := by
  induction columns with
  | nil => exact iff_of_true (fun _ h => by cases h) ⟨[], rfl, rfl⟩
  | cons c columns ih =>
    rw [Resembles, List.forall_mem_cons, ← Resembles, ih, seeking?_cons]
    constructor
    · rintro ⟨⟨v, w, hv, hw, hholds⟩, rest, hrest, hall⟩
      refine ⟨(c, .seeking mode v) :: rest, ?_, Filter.holds_cons.2 ⟨⟨w, hw, hholds⟩, hall⟩⟩
      rw [hv, hrest]
      rfl
    · rintro ⟨filter, hfilter, hall⟩
      obtain ⟨v, hv, hfilter⟩ := Option.bind_eq_some_iff.1 hfilter
      obtain ⟨rest, hrest, rfl⟩ := Option.map_eq_some_iff.1 hfilter
      obtain ⟨⟨w, hw, hholds⟩, hall⟩ := Filter.holds_cons.1 hall
      exact ⟨⟨v, w, hv, hw, hholds⟩, rest, hrest, hall⟩

/-- There is a filter for the constraints that the row fills. -/
theorem isSome_constraintFilter? (mode : TextMatch) (hc : t.coerceRow row = .ok values)
    (columns : List String) :
    (constraintFilter? mode t row columns).isSome ↔ ∀ c ∈ columns, row.contains c := by
  rw [constraintFilter?_of_coerceRow mode hc]
  induction columns with
  | nil => simp [Filter.seeking?]
  | cons c columns ih =>
    rw [List.forall_mem_cons, ← ih, seeking?_cons, ← TableSchema.contains_of_coerceRow hc c,
      Dict.contains]
    cases values.get? c <;> simp

/-- Rows that are the same when coerced are looked up by the same filters. -/
theorem constraintFilter?_congr (mode : TextMatch) (hc : t.coerceRow row = .ok values)
    (hc' : t.coerceRow row' = .ok values) (columns : List String) :
    constraintFilter? mode t row columns = constraintFilter? mode t row' columns := by
  rw [constraintFilter?_of_coerceRow mode hc, constraintFilter?_of_coerceRow mode hc']

end Filters

/-! ### Settling an insertion -/

namespace Store

variable {σ : Type} (store : Store σ) {t : TableSchema} {row row' values : Row}

theorem findExisting_congr (hc : t.coerceRow row = .ok values) (hc' : t.coerceRow row' = .ok values)
    (constraints : List (List String)) :
    store.findExisting t row constraints = store.findExisting t row' constraints := by
  induction constraints with
  | nil => rfl
  | cons columns rest ih =>
    rw [findExisting, findExisting, constraintFilter?_congr store.textMatch hc hc', ih]

/-- Rows that are the same when coerced are settled in the same way. -/
theorem settle_congr (hc : t.coerceRow row = .ok values) (hc' : t.coerceRow row' = .ok values)
    (answer : Except StoreError Key) : store.settle t row answer = store.settle t row' answer := by
  cases answer with
  | ok key => rfl
  | error e => rw [settle, settle, store.findExisting_congr hc hc']

end Store

/-! ### The lookups that are made -/

/-- If the call is a lookup, it is one by a constraint of the table. -/
def JournalEntry.Seeks (mode : TextMatch) (t : TableSchema) (row : Row) : JournalEntry → Prop
  | find _ filter _ => ∃ columns ∈ t.unique, constraintFilter? mode t row columns = some filter
  | _ => True

namespace Store

variable {σ : Type} (store : Store σ) {t : TableSchema} {table : String}

theorem findExisting_seeks (t : TableSchema) (row : Row) :
    Step.Makes (JournalEntry.Seeks store.textMatch t row)
      (store.watched.findExisting t row t.unique) :=
  store.findExisting_makes t row fun columns hcolumns _ hfilter _ => ⟨columns, hcolumns, hfilter⟩

theorem settle_seeks (t : TableSchema) (row : Row) (answer : Except StoreError Key) :
    Step.Makes (JournalEntry.Seeks store.textMatch t row) (store.watched.settle t row answer) := by
  cases answer with
  | ok key => exact (store.commit_records.makes fun _ => trivial).ofStore.bind fun _ => .pure _
  | error e =>
    refine (store.rollback_records.makes fun _ => trivial).ofStore.bind fun _ => ?_
    split
    · exact (store.findExisting_seeks t row).bind fun _ => .pure _
    · exact .throw _

/-- **An upsert looks up by constraints of its table**, and by nothing else. -/
theorem upsert_seeks (ht : store.schemas.get? table = some t) (row : Row) :
    Step.Makes (JournalEntry.Seeks store.textMatch t row) (store.watched.upsert table row) := by
  have hschema : store.watched.schemas.get? table = some t := ht
  rw [upsert, hschema]
  refine (store.begin_records.makes fun _ => trivial).ofStore.bind fun _ => ?_
  have hinsert := (store.insert_records t row).makes
    (P := JournalEntry.Seeks store.textMatch t row) fun _ => trivial
  exact hinsert.attempt.bind (store.settle_seeks t row)

end Store

end Accession
