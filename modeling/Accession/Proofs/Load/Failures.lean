import Mathlib.Data.List.Basic
import Accession.Load.Batch
import Accession.Proofs.Load.Plan
import Accession.Proofs.Memory.Nested

/-!
# What a failure leaves

Every call of the store in memory may fail, but for rollbacks.  An upsert that fails, and the load
of a whole record that fails, leave the rows and the transactions as they were, with one exception:
a commit that fails is not followed by a rollback.  Its transaction is then one too many, and in the
load of a whole record the rollback that was meant for the record closes this one instead.

* `Load.Leaves` : what a failure leaves.
* `Load.run_ok_inside`, `Load.run_error_leaves` : what becomes of a record within its transaction.
* `Load.failure_leaves` : upserts and loads of whole records that fail.
* `Load.Topics.failed_commit_leaks` : the exception does occur.
-/

namespace Accession.Load

open Memory (Inside Restored failing)

variable {ν α : Type} {faults : Faults ν} {r : Registry} {mode : TextMatch} {base m : Memory}
  {n : ν}

/-- What is left of a state after a failure: the rows and the transactions as they were, or, if the
failure is that of a commit, one more transaction, and in it all rows since. -/
inductive Leaves (faults : Faults ν) (base : Memory) (e : LoadError) (m : Memory) : Prop
  | restored (h : Restored base m)
  | open {reason : StoreError} {n : ν} (failed : (faults .commit n).1 = some reason)
      (error : e = .store reason) (h : Inside base m)

theorem upsert_error_leaves (hrollback : faults.Spares .rollback) {table : String} {row : Row}
    {e : LoadError} {s : Memory × ν}
    (hs : (failing r mode faults).upsert table row (m, n) = (.error e, s)) :
    Leaves faults m e s.1 := by
  obtain ⟨answer, effect, n', heffect, hupsert⟩ :=
    Memory.upsert_effect r mode hrollback m table row n
  -- an upsert is told by its effect, under the transactions that are open
  obtain ⟨rfl, rfl⟩ := Prod.mk.inj (hs.symm.trans (hupsert m.undo))
  cases heffect with
  | kept => exact .restored (.refl m)
  | left failed table values =>
    exact .open failed rfl ((Memory.inside_begin m).store table values)

theorem upsert_ok_inside (hrollback : faults.Spares .rollback) (h : Inside base m)
    {table : String} {row : Row} {u : Upserted} {s : Memory × ν}
    (hs : (failing r mode faults).upsert table row (m, n) = (.ok u, s)) :
    Inside base s.1 := by
  obtain ⟨answer, effect, n', heffect, hupsert⟩ :=
    Memory.upsert_effect r mode hrollback m table row n
  obtain ⟨rfl, rfl⟩ := Prod.mk.inj (hs.symm.trans (hupsert m.undo))
  cases heffect with
  | kept => exact h
  | stored key table values => exact h.store table values

/-- Within a transaction, a dialogue stores rows until it ends. -/
theorem run_ok_inside (hrollback : faults.Spares .rollback) {d : Dialogue α} {a : α}
    {s : Memory × ν} (h : Inside base m)
    (hs : d.run (failing r mode faults).upsert (m, n) = (.ok a, s)) : Inside base s.1 := by
  induction d generalizing m n with
  | done value =>
    cases hs
    exact h
  | ask table row next ih =>
    rcases hu : (failing r mode faults).upsert table row (m, n) with ⟨e | u, s'⟩
    · rw [Dialogue.run_ask_error hu] at hs
      cases hs
    · rw [Dialogue.run_ask_ok hu] at hs
      exact ih u (upsert_ok_inside hrollback h hu) hs

/-- The error of a dialogue leaves what the upsert leaves that ran into it. -/
theorem run_error_leaves (hrollback : faults.Spares .rollback) {d : Dialogue α} {e : LoadError}
    {s : Memory × ν} (h : Inside base m)
    (hs : d.run (failing r mode faults).upsert (m, n) = (.error e, s)) :
    ∃ before, Inside base before ∧ Leaves faults before e s.1 := by
  induction d generalizing m n with
  | done value => cases hs
  | ask table row next ih =>
    rcases hu : (failing r mode faults).upsert table row (m, n) with ⟨e' | u, s'⟩
    · rw [Dialogue.run_ask_error hu] at hs
      cases hs
      exact ⟨m, h, upsert_error_leaves hrollback hu⟩
    · rw [Dialogue.run_ask_ok hu] at hs
      exact ih u (upsert_ok_inside hrollback h hu) hs

/-- Rolling back, after an error within a transaction. -/
theorem Leaves.rollback {before : Memory} {e : LoadError} (hbefore : Inside base before)
    (h : Leaves faults before e m) :
    ∃ m', m.rollback = (.ok (), m') ∧ Leaves faults base e m' := by
  cases h with
  | restored h =>
    obtain ⟨m', hroll, hrestored, -⟩ := (hbefore.of_restored h).rollback
    exact ⟨m', hroll, .restored hrestored⟩
  | «open» failed error h =>
    -- the transaction of the last row is closed, and the one around it stays open
    obtain ⟨m', hroll, hrestored, -⟩ := h.rollback
    exact ⟨m', hroll, .open failed error (hbefore.of_restored hrestored)⟩

/-- The transaction of a record is committed, or stays open if that fails. -/
theorem settle_ok_leaves (h : Inside base m) (stats : Stats) (n : ν) {e : LoadError}
    {s : Memory × ν} (hs : settle (failing r mode faults) (.ok stats) (m, n) = (.error e, s)) :
    Leaves faults base e s.1 := by
  rw [settle] at hs
  rcases hfault : faults .commit n with ⟨_ | reason, n'⟩
  · obtain ⟨m', hcommit⟩ := h.commit
    have hclosed : Step.ofStore (failing r mode faults).backend.commit (m, n) =
        (.ok (), (m', n')) := Step.ofStore_of_ok (Step.orFault_of_none hfault hcommit)
    rw [Step.bind_ok hclosed] at hs
    cases hs
  · have hfailed : Step.ofStore (failing r mode faults).backend.commit (m, n) =
        (.error (.store reason), (m, n')) :=
      Step.ofStore_of_error (Step.orFault_of_some hfault _ _)
    rw [Step.bind_error hfailed] at hs
    cases hs
    exact .open (congrArg Prod.fst hfault) rfl h

theorem settle_error_leaves (hrollback : faults.Spares .rollback) {before : Memory}
    (hbefore : Inside base before) {e e' : LoadError} (h : Leaves faults before e m) (n : ν)
    {s : Memory × ν} (hs : settle (failing r mode faults) (.error e) (m, n) = (.error e', s)) :
    Leaves faults base e' s.1 := by
  obtain ⟨m', hroll, hleaves⟩ := h.rollback hbefore
  obtain ⟨n', hfault⟩ := hrollback.next n
  have hclosed : (failing r mode faults).backend.rollback (m, n) = (.ok (), (m', n')) :=
    Step.orFault_of_none hfault hroll
  rw [settle, Step.bind_ok (Step.attempt_of_eq hclosed)] at hs
  cases hs
  exact hleaves

theorem loadInScope_leaves (hrollback : faults.Spares .rollback) {mapping : Mapping}
    {record : Record} {e : LoadError} {s : Memory × ν}
    (hs : loadInScope (failing r mode faults) mapping .perRecord record (m, n) = (.error e, s)) :
    Leaves faults m e s.1 := by
  rw [loadInScope] at hs
  rcases hfault : faults .begin n with ⟨_ | reason, n₁⟩
  · have hopened : Step.ofStore (failing r mode faults).backend.begin (m, n) =
        (.ok (), (m.begin, n₁)) := Step.ofStore_of_ok (Step.orFault_of_none hfault rfl)
    have hinside := Memory.inside_begin m
    rcases hload : loadRecord (failing r mode faults) mapping record (m.begin, n₁) with
      ⟨e' | stats, m', n₂⟩
    · rw [Step.bind_ok hopened, Step.bind_ok (Step.attempt_of_eq hload)] at hs
      rw [loadRecord_eq_run] at hload
      obtain ⟨before, hbefore, hleaves⟩ := run_error_leaves hrollback hinside hload
      exact settle_error_leaves hrollback hbefore hleaves n₂ hs
    · rw [Step.bind_ok hopened, Step.bind_ok (Step.attempt_of_eq hload)] at hs
      rw [loadRecord_eq_run] at hload
      exact settle_ok_leaves (run_ok_inside hrollback hinside hload) stats n₂ hs
  · have hfailed : Step.ofStore (failing r mode faults).backend.begin (m, n) =
        (.error (.store reason), (m, n₁)) :=
      Step.ofStore_of_error (Step.orFault_of_some hfault _ _)
    rw [Step.bind_error hfailed] at hs
    cases hs
    exact .restored (.refl m)

/-- **What a failure leaves.**  Let every call fail at will, but for rollbacks, which always take
effect.  An upsert that fails, and the load of a whole record that fails, leave the rows and the
transactions as they were, unless the failure is that of a commit; then one transaction more is
open, and all rows since are in it. -/
theorem failure_leaves (faults : Faults ν) (r : Registry) (mode : TextMatch) (m : Memory) (n : ν) :
    let chosen := faults.among [.begin, .insert, .find, .commit]
    let store := failing r mode chosen
    (∀ table row e s, store.upsert table row (m, n) = (.error e, s) → Leaves chosen m e s.1) ∧
      ∀ mapping record e s, loadInScope store mapping .perRecord record (m, n) = (.error e, s) →
        Leaves chosen m e s.1 := by
  intro chosen store
  have hrollback : chosen.Spares .rollback := Faults.spares_among (by decide)
  exact ⟨fun _ _ _ _ hs => upsert_error_leaves hrollback hs,
    fun _ _ _ _ hs => loadInScope_leaves hrollback hs⟩

namespace Topics

/-- Topics have a term. -/
def topics : TableSchema := (TableSchema.new "topic").withColumn "term" .text true

/-- The commit of a number fails, counted from zero. -/
def lost (number : Nat) : Faults Nat
  | .commit, n => (if n = number then some (.transaction "lost") else none, n + 1)
  | _, n => (none, n)

/-- The store of topics, in which the commit of a number fails. -/
def store (number : Nat) : Store (Memory × Nat) :=
  failing (Registry.empty.withTable topics) .contains (lost number)

/-- A node that makes a topic of a field. -/
def topicNode (name code : String) : Mapping.Node :=
  (Mapping.Node.new name).withBinding "topic" "term" (.tag ⟨code, some 'a'⟩)

/-- A topic and a narrower one. -/
def mapping : Mapping := ⟨.default, (topicNode "mapping" "150").withChild "narrower"
  (topicNode "narrower" "450")⟩

/-- Two topics in one record. -/
def record : Record :=
  ⟨[(Field.data "150").addSubfield 'a' "Rivers", (Field.data "450").addSubfield 'a' "Deltas"]⟩

/-- An upsert whose commit fails. -/
def upserted : Except LoadError Upserted × Memory × Nat :=
  (store 0).upsert "topic" [("term", .text "Rivers")] (.empty, 0)

/-- The load of a record, in which the commit of the second row fails. -/
def loaded : Except LoadError Stats × Memory × Nat :=
  loadInScope (store 1) mapping .perRecord record (.empty, 0)

/-- **A commit that fails leaks its transaction.**  An upsert ends in the failure of its commit, and
the row is there, in a transaction that nobody closes.  If it is the second row of a record that is
loaded as a whole, the rollback for the record takes back this row only: the first one is there, in
the transaction of the record, which is still open. -/
theorem failed_commit_leaks :
    (upserted.1 = .error (.store (.transaction "lost")) ∧ upserted.2.1.rowCount "topic" = 1 ∧
        upserted.2.1.openTransactions = 1) ∧
      loaded.1 = .error (.store (.transaction "lost")) ∧ loaded.2.1.rowCount "topic" = 1 ∧
        loaded.2.1.openTransactions = 1 := by
  decide +kernel

end Topics

end Accession.Load
