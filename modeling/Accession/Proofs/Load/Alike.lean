import Accession.Load.Batch
import Accession.Proofs.Load.Plan

/-!
# Loads that cannot be told apart

A load goes by the answers that it is given, and by nothing else.  So two stores that answer alike,
call by call, answer a load alike.

* `Step.Alike` : from related states, two steps answer the same and lead to related states.
* `Store.Alike` : the same of two stores, for each of the calls of their backends.
* `Dialogue.run_alike` : dialogues held with upserts that are alike.
* `loadRecords_alike` : batches loaded into stores that are alike.
-/

namespace Accession

namespace Step

variable {σ τ ε α β : Type} {Rel : σ → τ → Prop}

/-- From related states, two steps answer the same and lead to related states. -/
def Alike (Rel : σ → τ → Prop) (step : Step σ ε α) (step' : Step τ ε α) : Prop :=
  ∀ s s', Rel s s' → (step s).1 = (step' s').1 ∧ Rel (step s).2 (step' s').2

theorem Alike.pure (a : α) : Alike Rel (pure a : Step σ ε α) (pure a : Step τ ε α) :=
  fun _ _ h => ⟨rfl, h⟩

theorem Alike.throw (e : ε) : Alike Rel (throw e : Step σ ε α) (throw e : Step τ ε α) :=
  fun _ _ h => ⟨rfl, h⟩

theorem Alike.bind {step : Step σ ε α} {step' : Step τ ε α} {next : α → Step σ ε β}
    {next' : α → Step τ ε β} (h : Alike Rel step step')
    (hnext : ∀ a, Alike Rel (next a) (next' a)) : Alike Rel (step >>= next) (step' >>= next') := by
  intro s s' hs
  obtain ⟨hanswer, hstate⟩ := h s s' hs
  rw [bind_apply, bind_apply]
  generalize step s = reached at hanswer hstate ⊢
  generalize step' s' = reached' at hanswer hstate ⊢
  obtain ⟨answer, s₁⟩ := reached
  obtain ⟨answer', s₁'⟩ := reached'
  obtain rfl : answer = answer' := hanswer
  cases answer with
  | error e => exact ⟨rfl, hstate⟩
  | ok a => exact hnext a s₁ s₁' hstate

theorem Alike.ofStore {step : Step σ StoreError α} {step' : Step τ StoreError α}
    (h : Alike Rel step step') : Alike Rel (ofStore step) (ofStore step') := by
  intro s s' hs
  obtain ⟨hanswer, hstate⟩ := h s s' hs
  rw [ofStore_apply, ofStore_apply, hanswer]
  exact ⟨rfl, hstate⟩

theorem Alike.attempt {step : Step σ ε α} {step' : Step τ ε α} (h : Alike Rel step step') :
    Alike Rel (attempt step) (attempt step') := by
  intro s s' hs
  obtain ⟨hanswer, hstate⟩ := h s s' hs
  rw [attempt_apply, attempt_apply, hanswer]
  exact ⟨rfl, hstate⟩

end Step

/-! ### Stores -/

namespace Store

variable {σ τ : Type} {Rel : σ → τ → Prop} {store : Store σ} {store' : Store τ}

/-- Two stores with the same tables and the same way to look up texts, whose backends answer every
call alike. -/
structure Alike (Rel : σ → τ → Prop) (store : Store σ) (store' : Store τ) : Prop where
  schemas : store.schemas = store'.schemas
  textMatch : store.textMatch = store'.textMatch
  insert : ∀ t row, Step.Alike Rel (store.backend.insert t row) (store'.backend.insert t row)
  find : ∀ t filter, Step.Alike Rel (store.backend.find t filter) (store'.backend.find t filter)
  begin : Step.Alike Rel store.backend.begin store'.backend.begin
  commit : Step.Alike Rel store.backend.commit store'.backend.commit
  rollback : Step.Alike Rel store.backend.rollback store'.backend.rollback

theorem findExisting_alike (h : Alike Rel store store') (t : TableSchema) (row : Row)
    (constraints : List (List String)) :
    Step.Alike Rel (store.findExisting t row constraints)
      (store'.findExisting t row constraints) := by
  induction constraints with
  | nil => exact .throw _
  | cons columns rest ih =>
    rw [findExisting, findExisting, h.textMatch]
    cases constraintFilter? store'.textMatch t row columns with
    | none => exact ih
    | some filter =>
      refine (h.find t filter).ofStore.bind fun found => ?_
      cases found with
      | none => exact ih
      | some key => exact .pure key

theorem settle_alike (h : Alike Rel store store') (t : TableSchema) (row : Row)
    (answer : Except StoreError Key) :
    Step.Alike Rel (store.settle t row answer) (store'.settle t row answer) := by
  cases answer with
  | ok key => exact h.commit.ofStore.bind fun _ => .pure _
  | error e =>
    refine h.rollback.ofStore.bind fun _ => ?_
    split
    · exact (findExisting_alike h t row t.unique).bind fun _ => .pure _
    · exact .throw _

theorem upsert_alike (h : Alike Rel store store') (table : String) (row : Row) :
    Step.Alike Rel (store.upsert table row) (store'.upsert table row) := by
  rw [upsert, upsert, h.schemas]
  cases store'.schemas.get? table with
  | none => exact .throw _
  | some t =>
    exact h.begin.ofStore.bind fun _ =>
      (h.insert t row).attempt.bind fun answer => settle_alike h t row answer

end Store

/-! ### Loads -/

namespace Load

variable {σ τ α : Type} {Rel : σ → τ → Prop} {store : Store σ} {store' : Store τ}

theorem Dialogue.run_alike {upsert : Upsert σ} {upsert' : Upsert τ}
    (h : ∀ table row, Step.Alike Rel (upsert table row) (upsert' table row)) (d : Dialogue α) :
    Step.Alike Rel (d.run upsert) (d.run upsert') := by
  induction d with
  | done value => exact .pure value
  | ask table row next ih => exact (h table row).bind ih

theorem loadRecord_alike (h : store.Alike Rel store') (m : Mapping) (r : Record) :
    Step.Alike Rel (loadRecord store m r) (loadRecord store' m r) := by
  intro s s' hs
  rw [loadRecord_eq_run, loadRecord_eq_run]
  exact Dialogue.run_alike (Store.upsert_alike h) (plan m r) s s' hs

theorem loadInScope_alike (h : store.Alike Rel store') (m : Mapping) (scope : TransactionScope)
    (r : Record) : Step.Alike Rel (loadInScope store m scope r) (loadInScope store' m scope r) := by
  cases scope with
  | perRow => exact loadRecord_alike h m r
  | perRecord =>
    refine h.begin.ofStore.bind fun _ => (loadRecord_alike h m r).attempt.bind fun answer => ?_
    cases answer with
    | ok stats => exact h.commit.ofStore.bind fun _ => .pure stats
    | error e => exact h.rollback.attempt.bind fun _ => .throw e

theorem loadFrom_alike (h : store.Alike Rel store') (m : Mapping) (options : Options)
    (records : List Record) (index : Nat) (report : Report) :
    Step.Alike Rel (loadFrom store m options index records report)
      (loadFrom store' m options index records report) := by
  induction records generalizing index report with
  | nil => exact .pure report
  | cons r rest ih =>
    refine (loadInScope_alike h m options.scope r).attempt.bind fun answer => ?_
    cases report.after options.onError index answer with
    | error e => exact .throw e
    | ok report => exact ih (index + 1) report

/-- **A batch cannot tell stores apart that answer alike.** -/
theorem loadRecords_alike (h : store.Alike Rel store') (m : Mapping) (options : Options)
    (records : List Record) :
    Step.Alike Rel (loadRecords store m options records) (loadRecords store' m options records) :=
  loadFrom_alike h m options records 0 _

end Load

end Accession
