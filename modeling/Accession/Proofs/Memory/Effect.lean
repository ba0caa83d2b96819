import Accession.Proofs.Memory.Snapshots
import Accession.Proofs.Memory.Upsert
import Accession.Proofs.Store.Faults

/-!
# What an upsert leaves behind

Calls of the store in memory may fail, but for rollbacks.  Then an upsert ends in one of three ways:
it changes nothing, or it stores one row, or, when the commit fails, it leaves the row in a
transaction that stays open.  The transactions around it have no part in this.

* `Memory.failing` : the store in memory, whose calls may fail.
* `Memory.under` : the same content under other transactions.
* `Memory.Effect` : the three ways, each with the answers that go with it.
* `Memory.upsert_effect` : one answer and one effect for all transactions around.
-/

namespace Accession

namespace Memory

variable {ν : Type} {faults : Faults ν}

/-- The store in memory, whose calls may fail. -/
abbrev failing (r : Registry) (mode : TextMatch) (faults : Faults ν) : Store (Memory × ν) :=
  (Store.inMemory r mode).faulty faults

/-- The same rows and last keys, under other transactions. -/
def under (m : Memory) (undo : List UndoLog) : Memory := { m with undo := undo }

/-- What an upsert does to the store, with its answer. -/
inductive Effect (faults : Faults ν) : Except LoadError Upserted → (Memory → Memory) → Prop
  /-- The row was found, or something failed. -/
  | kept (answer : Except LoadError Upserted) : Effect faults answer id
  /-- The row is new. -/
  | stored (key : Key) (table : String) (values : Row) :
      Effect faults (.ok ⟨key, true⟩) fun m => m.store table values
  /-- The commit failed, and the transaction of the row is still open. -/
  | left {n : ν} {e : StoreError} (failed : (faults .commit n).1 = some e) (table : String)
      (values : Row) : Effect faults (.error (.store e)) fun m => m.begin.store table values

/-- The lookup after a conflict changes nothing. -/
theorem findExisting_under (r : Registry) (mode : TextMatch) (faults : Faults ν) (m : Memory)
    (t : TableSchema) (row : Row) (constraints : List (List String)) (n : ν) :
    ∃ answer n', ∀ undo,
      (failing r mode faults).findExisting t row constraints (m.under undo, n) =
        (answer, (m.under undo, n')) := by
  induction constraints generalizing n with
  | nil => exact ⟨_, n, fun _ => rfl⟩
  | cons columns rest ih =>
    have hmode : (failing r mode faults).textMatch = mode := rfl
    rw [Store.findExisting, hmode]
    cases constraintFilter? mode t row columns with
    | none => exact ih n
    | some filter =>
      rcases hfault : faults .find n with ⟨_ | e, n'⟩
      · have hfind : ∀ undo, Step.ofStore ((failing r mode faults).backend.find
            t filter) (m.under undo, n) = (.ok (m.find t filter), (m.under undo, n')) :=
          fun undo => Step.ofStore_of_ok (Step.orFault_of_none hfault rfl)
        cases hkey : m.find t filter with
        | none =>
          obtain ⟨answer, n'', hrest⟩ := ih n'
          refine ⟨answer, n'', fun undo => ?_⟩
          dsimp only
          rw [Step.bind_ok (hfind undo), hkey]
          exact hrest undo
        | some key =>
          refine ⟨.ok key, n', fun undo => ?_⟩
          dsimp only
          rw [Step.bind_ok (hfind undo), hkey]
          rfl
      · exact ⟨.error (.store e), n', fun undo =>
          Step.bind_error (Step.ofStore_of_error (Step.orFault_of_some hfault _ _))⟩

/-- An insertion fails and changes nothing, or stores the row.  The checks see no transactions. -/
theorem insert_under (faults : Faults ν) (m : Memory) (t : TableSchema) (row : Row) (n : ν) :
    (∃ e n', ∀ undo, (backend.faulty faults).insert t row (m.under undo, n) =
      (.error e, (m.under undo, n'))) ∨
    ∃ key values n', ∀ undo, (backend.faulty faults).insert t row (m.under undo, n) =
      (.ok key, ((m.under undo).store t.name values, n')) := by
  rcases hfault : faults .insert n with ⟨_ | e, n'⟩
  · have hinsert : ∀ undo, (backend.faulty faults).insert t row (m.under undo, n) =
        (((m.under undo).insert t row).1, (((m.under undo).insert t row).2, n')) :=
      fun undo => Step.orFault_of_none hfault rfl
    simp only [hinsert]
    cases hc : t.coerceRow row with
    | error e => exact .inl ⟨e, n', fun undo => by rw [insert_of_error hc]⟩
    | ok values =>
      have hrefusal : ∀ undo, (m.under undo).refusal? t values = m.refusal? t values :=
        fun undo => refusal?_congr rfl t values
      cases hr : m.refusal? t values with
      | some e =>
        exact .inl ⟨e, n', fun undo => by rw [insert_of_refusal hc ((hrefusal undo).trans hr)]⟩
      | none =>
        refine .inr ⟨m.sequence t.name + 1, values, n', fun undo => ?_⟩
        rw [insert_of_ok hc ((hrefusal undo).trans hr)]
        rfl
  · exact .inl ⟨e, n', fun undo => Step.orFault_of_some hfault _ _⟩

/-- After an insertion that failed, nothing is left of the transaction. -/
theorem settle_error_under (r : Registry) (mode : TextMatch) (hrollback : faults.Spares .rollback)
    (m : Memory) (t : TableSchema) (row : Row) (e : StoreError) (n : ν) : ∃ answer n', ∀ undo,
      (failing r mode faults).settle t row (.error e) ((m.under undo).begin, n) =
        (answer, (m.under undo, n')) := by
  obtain ⟨n', hfault⟩ := hrollback.next n
  have hroll : ∀ undo, Step.ofStore (failing r mode faults).backend.rollback
      ((m.under undo).begin, n) = (.ok (), (m.under undo, n')) :=
    fun undo => Step.ofStore_of_ok (Step.orFault_of_none hfault rfl)
  by_cases he : e.isUniqueViolation
  · obtain ⟨found, n'', hfound⟩ := findExisting_under r mode faults m t row t.unique n'
    refine ⟨found.map (⟨·, false⟩), n'', fun undo => ?_⟩
    rw [Store.settle, Step.bind_ok (hroll undo), if_pos he]
    cases found with
    | ok key => exact Step.bind_ok (hfound undo)
    | error e' => exact Step.bind_error (hfound undo)
  · refine ⟨.error (.store e), n', fun undo => ?_⟩
    rw [Store.settle, Step.bind_ok (hroll undo), if_neg he]
    rfl

/-- After an insertion that stored the row, all depends on the commit. -/
theorem settle_ok_under (r : Registry) (mode : TextMatch) (faults : Faults ν) (m : Memory)
    (t : TableSchema) (row values : Row) (key : Key) (table : String) (n : ν) :
    ∃ answer effect n', Effect faults answer effect ∧ ∀ undo,
      (failing r mode faults).settle t row (.ok key)
        ((m.under undo).begin.store table values, n) = (answer, (effect (m.under undo), n')) := by
  rcases hfault : faults .commit n with ⟨_ | e, n'⟩
  · refine ⟨_, _, n', .stored key table values, fun undo => ?_⟩
    have hcommit : Step.ofStore (failing r mode faults).backend.commit
        ((m.under undo).begin.store table values, n) =
        (.ok (), ((m.under undo).store table values, n')) :=
      Step.ofStore_of_ok (Step.orFault_of_none hfault (commit_store_begin _ table values))
    rw [Store.settle, Step.bind_ok hcommit]
    rfl
  · have hfailed : (faults .commit n).1 = some e := by rw [hfault]
    exact ⟨_, _, n', .left hfailed table values, fun undo =>
      Step.bind_error (Step.ofStore_of_error (Step.orFault_of_some hfault _ _))⟩

/-- After its transaction is open, an upsert settles what the insertion answers. -/
theorem upsert_of_insert {r : Registry} {mode : TextMatch} {m : Memory} {t : TableSchema}
    {table : String} {row : Row} {n n' : ν} {reply : Except StoreError Key} {s : Memory × ν}
    (ht : r.get? table = some t) (hbegin : faults .begin n = (none, n'))
    (hinsert : (backend.faulty faults).insert t row (m.begin, n') = (reply, s)) :
    (failing r mode faults).upsert table row (m, n) =
      (failing r mode faults).settle t row reply s := by
  have hschema : (failing r mode faults).schemas.get? table = some t := ht
  have hopened : Step.ofStore (failing r mode faults).backend.begin (m, n) =
      (.ok (), (m.begin, n')) := Step.ofStore_of_ok (Step.orFault_of_none hbegin rfl)
  rw [Store.upsert, hschema]
  dsimp only
  rw [Step.bind_ok hopened]
  exact Step.bind_ok (Step.attempt_of_eq hinsert)

/-- **An upsert has one answer and one effect**, whatever transactions are open around it. -/
theorem upsert_effect (r : Registry) (mode : TextMatch) (hrollback : faults.Spares .rollback)
    (m : Memory) (table : String) (row : Row) (n : ν) :
    ∃ answer effect n', Effect faults answer effect ∧ ∀ undo,
      (failing r mode faults).upsert table row (m.under undo, n) =
        (answer, (effect (m.under undo), n')) := by
  have hschema : (failing r mode faults).schemas.get? table = r.get? table := rfl
  cases ht : r.get? table with
  | none =>
    rw [Store.upsert, hschema, ht]
    exact ⟨_, _, n, .kept _, fun _ => rfl⟩
  | some t =>
    rcases hfault : faults .begin n with ⟨_ | e, n₁⟩
    -- the transaction of the upsert is one more around the insertion
    · rcases insert_under faults m t row n₁ with ⟨e, n₂, hinsert⟩ | ⟨key, values, n₂, hinsert⟩
      · obtain ⟨answer, n', hsettle⟩ := settle_error_under r mode hrollback m t row e n₂
        exact ⟨answer, _, n', .kept answer, fun undo =>
          (upsert_of_insert ht hfault (hinsert ([] :: undo))).trans (hsettle undo)⟩
      · obtain ⟨answer, effect, n', heffect, hsettle⟩ :=
          settle_ok_under r mode faults m t row values key t.name n₂
        exact ⟨answer, effect, n', heffect, fun undo =>
          (upsert_of_insert ht hfault (hinsert ([] :: undo))).trans (hsettle undo)⟩
    · rw [Store.upsert, hschema, ht]
      exact ⟨_, _, n₁, .kept _, fun undo =>
        Step.bind_error (Step.ofStore_of_error (Step.orFault_of_some hfault _ _))⟩

end Memory

end Accession
