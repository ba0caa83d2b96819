import Mathlib.Data.List.Forall2
import Accession.Proofs.Memory.Upsert

/-!
# Upserting a row again

After an upsert, the table has a row that is in the way of the same row, and it stays there while
the store grows.  The keys in the row need not be the same: they may be exchanged in columns that no
constraint speaks of.

* `Grows` : rows are only added.  What is taken stays taken, and references stay good.
* `TableSchema.Identified` : the row has a value in every column of some constraint, and a number
  where it has a double; `Registry.Identifies` : so has the row as a table stores it.
* `Rekeyed` : two rows differ at most in keys.
* `upsert_again` : the second upsert reuses a row and changes nothing.
-/

namespace Accession

/-- The row has a value that equals itself in every column of some constraint. -/
def TableSchema.Identified (t : TableSchema) (values : Row) : Prop :=
  ∃ columns ∈ t.unique, ∀ c ∈ columns, ∃ v ∈ values.get? c, v.isNaN = false

/-- The row is identified as its table stores it, if it can be stored. -/
def Registry.Identifies (r : Registry) (table : String) (row : Row) : Prop :=
  ∀ t ∈ r.get? table, ∀ values ∈ (t.coerceRow row).toOption, t.Identified values

instance (t : TableSchema) (values : Row) : Decidable (t.Identified values) :=
  inferInstanceAs (Decidable (∃ columns ∈ t.unique, ∀ c ∈ columns,
    ∃ v, v ∈ values.get? c ∧ v.isNaN = false))

instance (r : Registry) (table : String) (row : Row) : Decidable (r.Identifies table row) :=
  inferInstanceAs (Decidable (∀ t, t ∈ r.get? table → ∀ values,
    values ∈ (t.coerceRow row).toOption → t.Identified values))

namespace Memory

variable {r : Registry} {mode : TextMatch} {m m' m'' : Memory} {t : TableSchema} {table : String}
  {row row' values values' : Row} {column : String} {columns : List String} {stored : StoredRow}
  {key : Key} {u : Upserted}

/-! ### Growth -/

/-- Rows are only added. -/
def Grows (m m' : Memory) : Prop := ∀ table, m.rows table ⊆ m'.rows table

theorem Grows.refl (m : Memory) : Grows m m := fun _ => List.Subset.refl _

theorem Grows.trans (h : Grows m m') (h' : Grows m' m'') : Grows m m'' :=
  fun table => List.Subset.trans (h table) (h' table)

theorem HasKey.mono (h : m.HasKey table key) (hg : Grows m m') : m'.HasKey table key := by
  obtain ⟨stored, hstored, hkey⟩ := h
  exact ⟨stored, hg table hstored, hkey⟩

theorem Taken.mono (h : m.Taken t values) (hg : Grows m m') : m'.Taken t values := by
  obtain ⟨columns, hcolumns, stored, hstored, ha⟩ := h
  exact ⟨columns, hcolumns, stored, hg t.name hstored, ha⟩

theorem Admits.mono (h : m.Admits t values) (hg : Grows m m') : m'.Admits t values := by
  refine ⟨h.key, h.filled, danglingColumn?_eq_none.2 fun fk hfk value hvalue => ?_⟩
  have hrefers := danglingColumn?_eq_none.1 h.refers fk hfk value hvalue
  obtain ⟨key, rfl, hkey⟩ := refersTo_iff.1 hrefers
  exact refersTo_iff.2 ⟨key, rfl, HasKey.mono hkey hg⟩

theorem upsert_grows (h : (Store.inMemory r mode).upsert table row m = (.ok u, m')) :
    Grows m m' := by
  obtain ⟨t, values, -, -, -, -, ⟨rfl, -⟩ | ⟨rfl, -⟩⟩ := upsert_ok h
  · exact fun _ => rows_subset_store
  · exact Grows.refl _

/-! ### The row in the way -/

/-- A row agrees with itself on the columns where its values equal themselves. -/
theorem agrees_self (h : ∀ c ∈ columns, ∃ v ∈ values.get? c, v.isNaN = false) (key : Key) :
    agrees columns values ⟨key, values⟩ := by
  rw [agrees_iff]
  intro c hc
  obtain ⟨v, hv, hnan⟩ := h c hc
  exact ⟨v, v, hv, hv, Value.beq_self hnan⟩

theorem taken_store (h : t.Identified values) : (m.store t.name values).Taken t values := by
  obtain ⟨columns, hcolumns, hvalues⟩ := h
  refine ⟨columns, hcolumns, ⟨m.sequence t.name + 1, values⟩, ?_, agrees_self hvalues _⟩
  rw [rows_store_self]
  exact List.mem_append_right _ List.mem_cons_self

/-- After an upsert of a row, the row is refused for want of uniqueness only. -/
theorem taken_of_upsert (h : (Store.inMemory r mode).upsert table row m = (.ok u, m'))
    (ht : r.get? table = some t) (hc : t.coerceRow row = .ok values) (hi : t.Identified values) :
    m'.Admits t values ∧ m'.Taken t values := by
  have hgrows := upsert_grows h
  obtain ⟨t', values', ht', hc', ha, -, hend⟩ := upsert_ok h
  cases Option.some.inj (ht.symm.trans ht')
  cases Except.ok.inj (hc.symm.trans hc')
  -- the row itself is now in the way, or what was in the way still is
  refine ⟨ha.mono hgrows, ?_⟩
  rcases hend with ⟨rfl, -⟩ | ⟨rfl, -, htaken⟩
  · exact taken_store hi
  · exact htaken

/-! ### Other keys -/

/-- Two entries of rows are the same, or they hold keys in a column of integers that no constraint
speaks of, and the second is the key of a row wherever the column refers to. -/
inductive Rekeyed (m : Memory) (t : TableSchema) : String × Value → String × Value → Prop
  | same (entry : String × Value) : Rekeyed m t entry entry
  | key {column : String} {old new : Key} (integer : t.columnType? column = some .integer)
      (refers : ∀ target, (column, target) ∈ t.foreignKeys → m.HasKey target new)
      (free : ∀ columns ∈ t.unique, column ∉ columns) :
      Rekeyed m t (column, .integer old) (column, .integer new)

theorem Rekeyed.fst_eq {entry entry' : String × Value} (h : Rekeyed m t entry entry') :
    entry'.1 = entry.1 := by
  cases h <;> rfl

theorem coerceRow_rekeyed (h : List.Forall₂ (Rekeyed m t) row row')
    (hc : t.coerceRow row = .ok values) :
    ∃ values', t.coerceRow row' = .ok values' ∧ List.Forall₂ (Rekeyed m t) values values' := by
  induction h generalizing values with
  | nil =>
    cases hc
    exact ⟨[], rfl, .nil⟩
  | cons hentry _ ih =>
    obtain ⟨v, rest, hv, hrest, rfl⟩ := TableSchema.coerceRow_cons_eq_ok.1 hc
    obtain ⟨rest', hrest', hrekeyed⟩ := ih hrest
    cases hentry with
    | same entry =>
      exact ⟨_, TableSchema.coerceRow_cons_eq_ok.2 ⟨v, rest', hv, hrest', rfl⟩,
        .cons (.same _) hrekeyed⟩
    | key integer refers free =>
      rw [TableSchema.coerceValue_integer integer] at hv
      cases hv
      exact ⟨_, TableSchema.coerceRow_cons_eq_ok.2
        ⟨_, rest', TableSchema.coerceValue_integer integer _, hrest', rfl⟩,
        .cons (.key integer refers free) hrekeyed⟩

/-- What rekeying does to the value of a column. -/
theorem get?_rekeyed (h : List.Forall₂ (Rekeyed m t) values values') (c : String) :
    Option.Rel (fun v v' => Rekeyed m t (c, v) (c, v')) (values.get? c) (values'.get? c) := by
  induction h with
  | nil => exact .none
  | @cons entry entry' _ _ hentry _ ih =>
    obtain ⟨column, v⟩ := entry
    obtain ⟨column', v'⟩ := entry'
    obtain rfl : column' = column := hentry.fst_eq
    rw [Dict.get?_cons, Dict.get?_cons]
    split
    · next hc =>
      cases hc
      exact .some hentry
    · exact ih

theorem contains_rekeyed (h : List.Forall₂ (Rekeyed m t) values values') (c : String) :
    values'.contains c = values.contains c := by
  have hvalues := get?_rekeyed h c
  rw [Dict.contains, Dict.contains]
  generalize values.get? c = v at hvalues ⊢
  generalize values'.get? c = v' at hvalues ⊢
  cases hvalues <;> rfl

theorem Admits.rekeyed (ha : m.Admits t values)
    (h : List.Forall₂ (Rekeyed m t) values values') : m.Admits t values' := by
  refine ⟨?_, ?_, danglingColumn?_eq_none.2 fun fk hfk value hvalue => ?_⟩
  · rw [contains_rekeyed h]
    exact ha.key
  · have hfilled := ha.filled
    simp only [missingColumn?, contains_rekeyed h] at hfilled ⊢
    exact hfilled
  · have hvalues := get?_rekeyed h fk.1
    rw [hvalue] at hvalues
    generalize hold : values.get? fk.1 = old at hvalues
    cases hvalues with
    | some hentry =>
      cases hentry with
      | same => exact danglingColumn?_eq_none.1 ha.refers fk hfk _ hold
      | key integer refers free => exact refersTo_iff.2 ⟨_, rfl, refers fk.2 hfk⟩

theorem Taken.rekeyed (ht : m.Taken t values) (h : List.Forall₂ (Rekeyed m t) values values') :
    m.Taken t values' := by
  obtain ⟨columns, hcolumns, stored, hstored, ha⟩ := ht
  refine ⟨columns, hcolumns, stored, hstored, agrees_iff.2 fun c hc => ?_⟩
  obtain ⟨v, w, hv, hw, hwv⟩ := agrees_iff.1 ha c hc
  have hvalues := get?_rekeyed h c
  rw [hv] at hvalues
  generalize hnew : values'.get? c = new at hvalues
  cases hvalues with
  | some hentry =>
    cases hentry with
    | same => exact ⟨_, w, rfl, hw, hwv⟩
    -- a key is never exchanged in a column of the constraint
    | key integer refers free => exact absurd hc (free columns hcolumns)

/-- **A row that was upserted is reused** from then on, also with other keys, and the store is left
as it is. -/
theorem upsert_again (h : (Store.inMemory r mode).upsert table row m = (.ok u, m'))
    (hi : r.Identifies table row) (hg : Grows m' m'')
    (hrow : ∀ t, r.get? table = some t → List.Forall₂ (Rekeyed m'' t) row row') :
    ∃ key, m''.HasKey table key ∧
      (Store.inMemory r mode).upsert table row' m'' = (.ok ⟨key, false⟩, m'') := by
  obtain ⟨t, values, ht, hc, -⟩ := upsert_ok h
  have hidentified := hi t ht values (by rw [hc]; rfl)
  obtain ⟨ha, htaken⟩ := taken_of_upsert h ht hc hidentified
  obtain ⟨values', hc', hvalues⟩ := coerceRow_rekeyed (hrow t ht) hc
  -- first let the store grow, then exchange the keys
  have hadmits := (ha.mono hg).rekeyed hvalues
  have hagain := (htaken.mono hg).rekeyed hvalues
  have hname := Registry.name_of_get? ht
  rw [← hname]
  exact upsert_taken mode (hname ▸ ht) hc' hadmits hagain

end Memory

end Accession
