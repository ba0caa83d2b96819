import Accession.Proofs.Memory.Snapshots

/-!
# Referential integrity

An insertion looks only at the rows that are there, and a rollback does not look at references at
all.  Yet no reference is left dangling, whatever the nesting of transactions.

* `Intact` : every foreign key of a stored row is the key of a stored row.
* `Snapshots.Sound` : the tables of a store with copies are intact, and so is every copy; each call
  keeps this, and a rollback does so trivially.
* `references_intact` : the store with undo logs keeps its tables intact, since it refines the store
  with copies.
-/

namespace Accession

open Memory (refersTo_iff danglingColumn?_eq_none admits_of_refusal?_eq_none mem_rows_store
  rows_subset_store)

/-- Every foreign key of a stored row is the key of a row of the table that it refers to. -/
def Intact (r : Registry) (tables : Tables) : Prop :=
  ∀ table t, r.get? table = some t → ∀ row ∈ tables.rows table,
    ∀ column target, (column, target) ∈ t.foreignKeys →
      ∀ value, row.values.get? column = some value →
        ∃ key, value = .integer key ∧ ∃ referred ∈ tables.rows target, referred.key = key

variable {r : Registry} {a b : Tables}

theorem Intact.empty : Intact r [] := by
  intro table t _ row hrow
  cases hrow

theorem Intact.congr (h : Intact r a) (hab : a.rows = b.rows) : Intact r b := by
  intro table t ht row hrow column target hfk value hvalue
  rw [← hab] at hrow ⊢
  exact h table t ht row hrow column target hfk value hvalue

theorem Intact.store {m : Memory} {t : TableSchema} {values : Row} (h : Intact r m.tables)
    (ht : r.get? t.name = some t) (hr : m.refusal? t values = none) :
    Intact r (m.store t.name values).tables := by
  intro table t' ht' row hrow column target hfk value hvalue
  have hdangling := (admits_of_refusal?_eq_none hr).refers
  have hfound : ∃ key, value = .integer key ∧ ∃ referred ∈ m.rows target, referred.key = key := by
    rcases mem_rows_store hrow with hold | ⟨rfl, rfl⟩
    · exact h table t' ht' row hold column target hfk value hvalue
    · -- the new row: its references were checked
      cases Option.some.inj (ht.symm.trans ht')
      exact refersTo_iff.1 (danglingColumn?_eq_none.1 hdangling _ hfk value hvalue)
  obtain ⟨key, hkey, referred, hreferred, hsame⟩ := hfound
  exact ⟨key, hkey, referred, rows_subset_store hreferred, hsame⟩

/-! ### The store with copies -/

namespace Snapshots

/-- The tables are intact, and so are all copies. -/
structure Sound (r : Registry) (s : Snapshots) : Prop where
  tables : Intact r s.tables
  saved : ∀ before ∈ s.saved, Intact r before

variable {s : Snapshots}

theorem sound_empty : Sound r empty := ⟨Intact.empty, by simp [empty]⟩

theorem Sound.insert (h : Sound r s) {t : TableSchema} (ht : r.get? t.name = some t) (row : Row) :
    Sound r (s.insert t row).2 := by
  rcases Memory.insert_cases s.content t row with ⟨e, hi⟩ | ⟨values, -, hr, hi⟩
  · rw [Snapshots.insert, hi]
    exact h
  · rw [Snapshots.insert, hi]
    have htables : Intact r (s.content.store t.name values).tables := Intact.store h.tables ht hr
    exact ⟨htables, h.saved⟩

theorem Sound.begin (h : Sound r s) : Sound r s.begin :=
  ⟨h.tables, List.forall_mem_cons.2 ⟨h.tables, h.saved⟩⟩

theorem Sound.commit (h : Sound r s) : Sound r s.commit.2 := by
  obtain ⟨tables, sequences, _ | ⟨before, rest⟩⟩ := s
  · exact h
  · exact ⟨h.tables, (List.forall_mem_cons.1 h.saved).2⟩

theorem Sound.rollback (h : Sound r s) : Sound r s.rollback.2 := by
  obtain ⟨tables, sequences, _ | ⟨before, rest⟩⟩ := s
  · exact h
  · obtain ⟨hbefore, hrest⟩ := List.forall_mem_cons.1 h.saved
    exact ⟨hbefore, hrest⟩

theorem Sound.call (h : Sound r s) {c : Call} (hc : c.On r) : Sound r (backend.call c s).2 := by
  cases c with
  | insert t row => exact h.insert hc row
  | find t filter => exact h
  | begin => exact h.begin
  | commit => exact h.commit
  | rollback => exact h.rollback

theorem sound_calls {session : List Call} (hs : ∀ c ∈ session, c.On r) :
    Sound r (backend.calls session empty).2 :=
  Backend.calls_preserve (fun c hc _ h => h.call (hs c hc)) sound_empty

end Snapshots

/-! ### The store with undo logs -/

/-- **No session leaves a dangling reference**, whatever transactions it opens and how it ends
them. -/
theorem references_intact {session : List Call} (hs : ∀ c ∈ session, c.On r) :
    Intact r (Memory.backend.calls session .empty).2.tables :=
  (Snapshots.sound_calls hs).tables.congr (Memory.calls_simulates session).2.rows.symm

namespace Library

/-- Works. -/
def works : TableSchema := TableSchema.new "work"

/-- Copies, each of a work. -/
def copies : TableSchema :=
  ((TableSchema.new "copy").withColumn "work_id" .integer true).withForeignKey "work_id" "work"

/-- The works and the copies. -/
def registry : Registry := (Registry.empty.withTable works).withTable copies

/-- A work is kept, another is undone with its copy although their own transaction was committed,
and a copy of the first is added. -/
def session : List Call :=
  [.insert works [], .begin, .insert works [], .begin, .insert copies [("work_id", .integer 2)],
    .commit, .rollback, .insert copies [("work_id", .integer 1)], .commit]

theorem session_intact : (∀ c ∈ session, c.On registry) ∧
    Intact registry (Memory.backend.calls session .empty).2.tables ∧
    ((Memory.backend.calls session .empty).2.rows "copy").map (·.key) = [2] :=
  ⟨by decide +kernel, references_intact (by decide +kernel), by decide +kernel⟩

end Library

end Accession
