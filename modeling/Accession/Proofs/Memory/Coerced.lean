import Mathlib.Data.List.Forall2
import Accession.Proofs.Memory.Requests

/-!
# Only coerced values count

A value can be written in several ways, as the number 42 and the text `+42` in a column of integers.
The store keeps the value as the column has it, and nothing that is asked of it later tells how it
was written.

* `TableSchema.Same` : two rows are the same as a table stores them.
* `Request.Same` : two requests differ at most in such rows; they lead to the same state
  (`Memory.after_congr`), and so do lists of them (`Memory.run_congr`).
* `Memory.upsert_sees_coerced` : upserts that differ in such rows, after requests that do.
-/

namespace Accession

/-- The table stores both rows, and with the same values. -/
def TableSchema.Same (t : TableSchema) (row row' : Row) : Prop :=
  ∃ values, t.coerceRow row = .ok values ∧ t.coerceRow row' = .ok values

/-- Two requests differ at most in a row, and its table stores that of the one as it stores that of
the other. -/
inductive Request.Same (r : Registry) : Request → Request → Prop
  | refl (q : Request) : Same r q q
  | insert {t : TableSchema} {row row' : Row} (h : t.Same row row') :
      Same r (.call (.insert t row)) (.call (.insert t row'))
  | upsert (mode : TextMatch) {table : String} {row row' : Row}
      (h : ∀ t ∈ r.get? table, t.Same row row') :
      Same r (.upsert mode table row) (.upsert mode table row')

namespace Memory

variable {r : Registry} {t : TableSchema} {table : String} {row row' : Row} {q q' : Request}
  {requests requests' : List Request}

theorem insert_congr (h : t.Same row row') (m : Memory) : m.insert t row = m.insert t row' := by
  obtain ⟨values, hc, hc'⟩ := h
  rw [insert, insert, hc, hc']

/-- An upsert of the one row is an upsert of the other. -/
theorem upsert_congr (mode : TextMatch) (h : ∀ t ∈ r.get? table, t.Same row row') (m : Memory) :
    (Store.inMemory r mode).upsert table row m = (Store.inMemory r mode).upsert table row' m := by
  cases ht : r.get? table with
  | none =>
    have hschema : (Store.inMemory r mode).schemas.get? table = none := ht
    simp only [Store.upsert, hschema]
  | some t =>
    obtain ⟨values, hc, hc'⟩ := h t ht
    -- the insertion coerces the row, and the lookup after a conflict seeks coerced values
    rw [upsert_apply ht, upsert_apply ht, insert_congr ⟨values, hc, hc'⟩,
      Store.settle_congr _ hc hc']

theorem after_congr (h : Request.Same r q q') (m : Memory) : after r m q = after r m q' := by
  cases h with
  | refl => rfl
  | @insert t row row' h =>
    change (m.insert t row).2 = (m.insert t row').2
    rw [insert_congr h]
  | upsert mode h => exact congrArg Prod.snd (upsert_congr mode h m)

theorem run_congr (h : List.Forall₂ (Request.Same r) requests requests') (m : Memory) :
    run r requests m = run r requests' m := by
  induction h generalizing m with
  | nil => rfl
  | cons hq _ ih =>
    rw [run, List.foldl_cons, after_congr hq m]
    exact ih _

/-- **An upsert sees a row only through its coerced values.**  Rows that the table stores with the
same values have the same answer, be it a key or an error, and leave the same store.  The same holds
of the requests that came before: how their values were written makes no difference. -/
theorem upsert_sees_coerced (mode : TextMatch) (m : Memory)
    (hs : List.Forall₂ (Request.Same r) requests requests')
    (hrow : ∀ t ∈ r.get? table, t.Same row row') :
    (Store.inMemory r mode).upsert table row (run r requests m) =
      (Store.inMemory r mode).upsert table row' (run r requests' m) := by
  rw [run_congr hs m, upsert_congr mode hrow]

namespace Spellings

/-- Shelves, each with its number. -/
def shelves : TableSchema :=
  ((TableSchema.new "shelf").withColumn "number" .integer true).withUnique ["number"]

/-- The shelves. -/
def registry : Registry := Registry.empty.withTable shelves

/-- A shelf with its number. -/
def shelf (number : Value) : Row := [("number", number)]

theorem same_shelf (t : TableSchema) (ht : t ∈ registry.get? "shelf") :
    t.Same (shelf (.text " +42 ")) (shelf (.integer 42)) ∧
      t.Same (shelf (.float 42.0)) (shelf (.integer 42)) := by
  have hshelves : registry.get? "shelf" = some shelves := by decide +kernel
  obtain rfl : shelves = t := Option.some.inj (hshelves.symm.trans ht)
  exact ⟨⟨shelf (.integer 42), rfl, rfl⟩, ⟨shelf (.integer 42), rfl, rfl⟩⟩

/-- A shelf that was stored by a text is found by a double, as it would be by an integer. -/
theorem shelf_found :
    let stored := run registry [.upsert .exact "shelf" (shelf (.text " +42 "))] empty
    let plain := run registry [.upsert .exact "shelf" (shelf (.integer 42))] empty
    ((Store.inMemory registry .exact).upsert "shelf" (shelf (.float 42.0)) stored).1 =
        .ok ⟨1, false⟩ ∧
      (Store.inMemory registry .exact).upsert "shelf" (shelf (.float 42.0)) stored =
        (Store.inMemory registry .exact).upsert "shelf" (shelf (.integer 42)) plain := by
  refine ⟨by decide +kernel, upsert_sees_coerced .exact empty (.cons ?_ .nil) ?_⟩
  · exact .upsert .exact fun t ht => (same_shelf t ht).1
  · exact fun t ht => (same_shelf t ht).2

end Spellings

end Memory

end Accession
