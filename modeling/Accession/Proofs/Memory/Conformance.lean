import Accession.Proofs.Memory.Requests

/-!
# Stored rows conform to the schema

Rows are checked when they are stored, after their values are coerced.  Later rows do not change
them, and what a rollback leaves has been there before, so the checks hold of all rows at any time.

* `TableSchema.Conforms` : the columns of a row are declared, hold values of their types, and are
  there where they have to be.
* `TableSchema.Clash` : two rows agree on a uniqueness constraint.  A double that is not a number
  agrees with nothing.
* `Memory.Conforming` : the rows of every table conform, and no two of them clash; every change
  keeps this (`Memory.Conforming.change`).
* `Memory.stored_rows_conform` : so it holds after all requests.
-/

namespace Accession

namespace TableSchema

/-- The row may be stored in the table, as far as its own values go. -/
structure Conforms (t : TableSchema) (values : Row) : Prop where
  /-- Every column is declared, and its value is of the declared type. -/
  declared : ∀ entry ∈ values, ∃ c, t.columns.get? entry.1 = some c ∧ entry.2.type = c.type
  /-- The primary key is left to the store. -/
  generated : ∀ entry ∈ values, entry.1 ≠ t.primaryKey
  /-- The columns that need a value have one. -/
  filled : ∀ c ∈ t.columns, c.2.nullable = false → c.1 ≠ t.primaryKey → values.contains c.1

/-- Both rows have values in all columns of some uniqueness constraint, and these are equal. -/
def Clash (t : TableSchema) (a b : Row) : Prop :=
  ∃ columns ∈ t.unique, ∀ c ∈ columns, ∃ v w, a.get? c = some v ∧ b.get? c = some w ∧ v == w

variable {t : TableSchema} {row values a b : Row}

theorem Clash.symm (h : t.Clash a b) : t.Clash b a := by
  obtain ⟨columns, hcolumns, hagree⟩ := h
  refine ⟨columns, hcolumns, fun c hc => ?_⟩
  obtain ⟨v, w, hv, hw, hvw⟩ := hagree c hc
  exact ⟨w, v, hw, hv, by rwa [Value.beq_comm]⟩

theorem declared_of_coerceRow (h : t.coerceRow row = .ok values) :
    ∀ entry ∈ values, ∃ c, t.columns.get? entry.1 = some c ∧ entry.2.type = c.type := by
  induction row generalizing values with
  | nil =>
    cases h
    simp
  | cons entry row ih =>
    obtain ⟨v, rest, hv, hrest, rfl⟩ := coerceRow_cons_eq_ok.1 h
    obtain ⟨c, hc, hcoerce⟩ := coerceValue_eq_ok.1 hv
    exact List.forall_mem_cons.2 ⟨⟨c, hc, Value.type_of_coerce hcoerce⟩, ih hrest⟩

theorem filled_of_missingColumn? (h : Memory.missingColumn? t values = none) :
    ∀ c ∈ t.columns, c.2.nullable = false → c.1 ≠ t.primaryKey → values.contains c.1 := by
  intro c hc hnullable hkey
  rw [Memory.missingColumn?, Option.map_eq_none_iff, List.find?_eq_none] at h
  simpa [hnullable, hkey] using h c hc

theorem conforms_of_admits {m : Memory} (hc : t.coerceRow row = .ok values)
    (ha : m.Admits t values) : t.Conforms values := by
  refine ⟨declared_of_coerceRow hc, fun entry hentry hkey => ?_, filled_of_missingColumn? ha.filled⟩
  have hmem : t.primaryKey ∈ values.keys := hkey ▸ List.mem_map_of_mem hentry
  have habsent := ha.key
  rw [Dict.contains_iff_mem_keys.2 hmem] at habsent
  cases habsent

end TableSchema

namespace Memory

variable {r : Registry} {m m' : Memory} {t : TableSchema} {table : String} {values : Row}
  {requests : List Request}

theorem taken_of_clash {stored : StoredRow} (hstored : stored ∈ m.rows t.name)
    (h : t.Clash stored.values values) : m.Taken t values := by
  obtain ⟨columns, hcolumns, hagree⟩ := h
  refine ⟨columns, hcolumns, stored, hstored, agrees_iff.2 fun c hc => ?_⟩
  obtain ⟨w, v, hw, hv, hwv⟩ := hagree c hc
  exact ⟨v, w, hv, hw, hwv⟩

theorem not_taken_of_refusal? (h : m.refusal? t values = none) : ¬ m.Taken t values := by
  intro htaken
  obtain ⟨e, he, -⟩ := refusal?_of_taken (admits_of_refusal?_eq_none h) htaken
  rw [h] at he
  cases he

/-- Only declared tables have rows, all rows conform to their tables, and no two rows of a table
clash. -/
structure Conforming (r : Registry) (m : Memory) : Prop where
  declared : ∀ table, r.get? table = none → m.rows table = []
  rows : ∀ table t, r.get? table = some t → ∀ row ∈ m.rows table, t.Conforms row.values
  apart : ∀ table t, r.get? table = some t →
    (m.rows table).Pairwise fun a b => ¬ t.Clash a.values b.values

theorem conforming_empty : Conforming r empty :=
  ⟨fun _ _ => rfl, fun _ _ _ _ h => absurd h List.not_mem_nil, fun _ _ _ => List.Pairwise.nil⟩

theorem Conforming.thinned (h : Conforming r m)
    (hrows : ∀ table, (m'.rows table).Sublist (m.rows table)) : Conforming r m' := by
  refine ⟨fun table ht => ?_, fun table t ht row hrow => ?_, fun table t ht => ?_⟩
  · have hnone := hrows table
    rw [h.declared table ht] at hnone
    exact List.sublist_nil.1 hnone
  · exact h.rows table t ht row ((hrows table).subset hrow)
  · exact (h.apart table t ht).sublist (hrows table)

theorem Conforming.store {row : Row} (h : Conforming r m) (ht : r.get? t.name = some t)
    (hc : t.coerceRow row = .ok values) (hr : m.refusal? t values = none) :
    Conforming r (m.store t.name values) := by
  refine ⟨fun table hnone => ?_, fun table t' ht' stored hstored => ?_, fun table t' ht' => ?_⟩
  · have hne : table ≠ t.name := by
      rintro rfl
      rw [ht] at hnone
      cases hnone
    rw [rows_store_of_ne hne]
    exact h.declared table hnone
  · rcases mem_rows_store hstored with hold | ⟨rfl, rfl⟩
    · exact h.rows table t' ht' stored hold
    · cases Option.some.inj (ht.symm.trans ht')
      exact TableSchema.conforms_of_admits hc (admits_of_refusal?_eq_none hr)
  · have hold := h.apart table t' ht'
    by_cases hname : table = t.name
    · subst hname
      cases Option.some.inj (ht.symm.trans ht')
      rw [rows_store_self, List.pairwise_append]
      refine ⟨hold, List.pairwise_singleton _ _, fun a ha b hb hclash => ?_⟩
      -- a row that the new one clashes with would have been in its way
      rw [List.mem_singleton.1 hb] at hclash
      exact not_taken_of_refusal? hr (taken_of_clash ha hclash)
    · rw [rows_store_of_ne hname]
      exact hold

theorem Conforming.change (h : Conforming r m) (hc : Change r m m') : Conforming r m' := by
  cases hc with
  | thinned rows sequences => exact h.thinned rows
  | stored ht hcoerce hr hm => exact hm ▸ h.store ht hcoerce hr

theorem conforming_run (hs : ∀ q ∈ requests, q.On r) : Conforming r (run r requests empty) :=
  run_preserves conforming_empty (fun _ _ hc h => h.change hc) hs

/-- **Stored rows conform to the schema**, whatever was asked of the store before.  Only declared
tables have rows.  A row has declared columns only, never the primary key, each with a value of
exactly the declared type, and it has all the columns that need a value.  Of two rows of a table, no
uniqueness constraint finds both with the same values in all its columns. -/
theorem stored_rows_conform (hs : ∀ q ∈ requests, q.On r) (table : String) :
    let rows := (run r requests empty).rows table
    match r.get? table with
    | none => rows = []
    | some t => (∀ row ∈ rows, t.Conforms row.values) ∧
        ∀ (i j : Nat) (hi : i < rows.length) (hj : j < rows.length), i ≠ j →
          ¬ t.Clash rows[i].values rows[j].values := by
  intro rows
  have h := conforming_run hs
  cases ht : r.get? table with
  | none => exact h.declared table ht
  | some t =>
    refine ⟨h.rows table t ht, fun i j hi hj hij => ?_⟩
    have hapart := List.pairwise_iff_getElem.1 (h.apart table t ht)
    rcases Nat.lt_or_gt_of_ne hij with hlt | hgt
    · exact hapart i j hi hj hlt
    · exact fun hclash => hapart j i hj hi hgt hclash.symm

namespace Loans

/-- Loans, each known by its number; the reader is required. -/
def loans : TableSchema :=
  (((TableSchema.new "loan").withColumn "number" .integer true).withColumn
    "reader" .text false).withUnique ["number"]

/-- The loans. -/
def registry : Registry := Registry.empty.withTable loans

/-- A loan; the number may come as a text. -/
def loan (number : Value) : Row := [("number", number), ("reader", .integer 5)]

/-- Two loans, of which one is taken back although its own transaction was committed; then the
first again, a loan without a number twice, and one without a reader. -/
def history : List Request :=
  [.upsert .exact "loan" (loan (.text " 7 ")), .call .begin, .call .begin,
    .upsert .exact "loan" (loan (.integer 8)), .call .commit, .call .rollback,
    .call (.insert loans (loan (.integer 7))), .upsert .exact "loan" [("reader", .text "A")],
    .call (.insert loans [("reader", .text "A")]), .upsert .exact "loan" [("number", .integer 9)]]

/-- Of the loans, three are stored, and the first has its values as the table declares them. -/
theorem loans_conform : (∀ q ∈ history, q.On registry) ∧
    ((run registry history empty).rows "loan").map (·.key) = [1, 3, 4] ∧
    ∀ row ∈ (run registry history empty).rows "loan", loans.Conforms row.values := by
  have hs : ∀ q ∈ history, q.On registry := by decide +kernel
  exact ⟨hs, by decide +kernel, (stored_rows_conform hs "loan").1⟩

end Loans

end Memory

end Accession
