import Accession.Proofs.Load.Alike
import Accession.Proofs.Store.Trace

/-!
# The sessions of a load

Whatever a backend answers, and whenever it fails, the calls of a load are well bracketed.

* `UpsertTrace` : all that the calls of an upsert can be.
* `Store.upsert_records`, `Load.loadRecord_records`, `Load.loadInScope_records` : the calls of an
  upsert, of a record, and of a record in its scope.
* `Load.loadRecords_well_bracketed` : the calls of a batch.
-/

namespace Accession

variable {σ α : Type} {store : Store σ}

/-! ### Upserts -/

/-- The calls that an upsert makes. -/
inductive UpsertTrace : Trace → Prop
  /-- There is no such table. -/
  | unknown : UpsertTrace []
  | unopened (e : StoreError) : UpsertTrace [.session .begin (.error e)]
  | inserted (table : String) (row : Row) (key : Key) (answer : Except StoreError Unit) :
      UpsertTrace [.session .begin (.ok ()), .insert table row (.ok key), .session .commit answer]
  | refused (table : String) (row : Row) (e : StoreError) (answer : Except StoreError Unit) :
      UpsertTrace [.session .begin (.ok ()), .insert table row (.error e),
        .session .rollback answer]
  | lookedUp (table : String) (row : Row) {e : StoreError} (he : e.isUniqueViolation)
      {lookups : Trace} (hlookups : ∀ l ∈ lookups, l.IsFind) :
      UpsertTrace (.session .begin (.ok ()) :: .insert table row (.error e) ::
        .session .rollback (.ok ()) :: lookups)

open Trace (depth WellBracketed everywhere_nil everywhere_cons)

namespace UpsertTrace

/-- The calls of an upsert keep to its own transaction, and leave none open. -/
theorem wellBracketed {t : Trace} (h : UpsertTrace t) : WellBracketed 0 t := by
  cases h with
  | unknown => exact Trace.wellBracketed_nil
  | unopened e => exact Trace.wellBracketed_singleton rfl trivial
  | inserted table row key answer =>
    refine ⟨rfl, everywhere_cons trivial (everywhere_cons ⟨rfl, ?_⟩
      (everywhere_cons Int.one_pos everywhere_nil))⟩
    exact ⟨_, _, rfl, .inl rfl, fun _ => rfl⟩
  | refused table row e answer =>
    refine ⟨rfl, everywhere_cons trivial (everywhere_cons ⟨rfl, ?_⟩
      (everywhere_cons Int.one_pos everywhere_nil))⟩
    exact ⟨_, _, rfl, .inr rfl, fun h => by cases h⟩
  | @lookedUp table row e he lookups hlookups =>
    refine ⟨?_, everywhere_cons trivial (everywhere_cons ⟨rfl, ?_⟩
      (everywhere_cons Int.one_pos ?_))⟩
    · simp only [Trace.depth_cons, Trace.depth_lookups hlookups]
      rfl
    · exact ⟨_, _, rfl, .inr rfl, fun h => by cases h⟩
    · intro before l after h
      rw [h, List.forall_mem_append] at hlookups
      obtain ⟨hbefore, hafter⟩ := hlookups
      have hl := hafter l List.mem_cons_self
      cases l with
      | find =>
        -- before a lookup there is the conflict, and other lookups
        refine ⟨?_, [.session .begin (.ok ())], table, row, e, before, rfl, he, hbefore⟩
        simp only [Trace.depth_cons, Trace.depth_lookups hbefore]
        rfl
      | insert | session => cases hl

end UpsertTrace

namespace Store

variable (store : Store σ)

theorem findExisting_records (t : TableSchema) (row : Row) (constraints : List (List String)) :
    Step.Makes JournalEntry.IsFind (store.watched.findExisting t row constraints) :=
  store.findExisting_makes t row fun _ _ _ _ _ => trivial

theorem settle_records (t : TableSchema) (row : Row) (answer : Except StoreError Key) :
    Step.Records (fun _ calls =>
        UpsertTrace (.session .begin (.ok ()) :: .insert t.name row answer :: calls))
      (store.watched.settle t row answer) := by
  cases answer with
  | ok key =>
    refine store.commit_records.ofStore.bind ?_ ?_
    · rintro _ calls ⟨reply, -, rfl⟩
      exact .inserted t.name row key reply
    · rintro _ calls ⟨reply, -, rfl⟩
      exact .pure (.inserted t.name row key reply)
  | error e =>
    refine store.rollback_records.ofStore.bind ?_ ?_
    · rintro _ calls ⟨reply, -, rfl⟩
      exact .refused t.name row e reply
    · rintro _ calls ⟨_ | _, hreply, rfl⟩
      · cases hreply
      by_cases he : e.isUniqueViolation
      · rw [if_pos he]
        refine Step.Records.bind (store.findExisting_records t row t.unique) ?_ ?_
        · exact fun _ lookups hlookups => .lookedUp t.name row he hlookups
        · intro key lookups hlookups
          refine .pure ?_
          rw [List.append_nil]
          exact .lookedUp t.name row he hlookups
      · rw [if_neg he]
        exact .throw (.refused t.name row e (.ok ()))

/-- The calls of an upsert. -/
theorem upsert_records (table : String) (row : Row) :
    Step.Records (fun _ calls => UpsertTrace calls) (store.watched.upsert table row) := by
  rw [upsert]
  cases store.watched.schemas.get? table with
  | none => exact .throw .unknown
  | some t =>
    refine store.begin_records.ofStore.bind ?_ ?_
    · rintro _ calls ⟨_ | e, hreply, rfl⟩
      · exact .unopened _
      · cases hreply
    · rintro _ calls ⟨_ | _, hreply, rfl⟩
      · cases hreply
      refine (store.insert_records t row).bind_attempt ?_
      rintro answer calls rfl
      exact store.settle_records t row answer

end Store

/-! ### Loads -/

namespace Load

variable (store : Store σ) (m : Mapping)

theorem run_records {L : Trace → Prop} {upsert : Upsert (Probed σ)} (hnil : L [])
    (happend : ∀ s t, L s → L t → L (s ++ t))
    (h : ∀ table row, Step.Records (fun _ => L) (upsert table row)) (d : Dialogue α) :
    Step.Records (fun _ => L) (d.run upsert) := by
  induction d with
  | done value => exact .pure hnil
  | ask table row next ih =>
    refine (h table row).bind (fun _ _ hcalls => hcalls) fun u calls hcalls => ?_
    exact (ih u).mono fun _ more hmore => happend calls more hcalls hmore

theorem loadRecord_records (r : Record) :
    Step.Records (fun _ => WellBracketed 0) (loadRecord store.watched m r) := by
  intro p
  rw [loadRecord_eq_run]
  exact run_records Trace.wellBracketed_nil (fun _ _ => WellBracketed.append)
    (fun table row => (store.upsert_records table row).mono fun _ _ h => h.wellBracketed)
    (plan m r) p

/-- The number of transactions that a scope keeps open around the rows of a record. -/
def TransactionScope.depth : TransactionScope → Int
  | perRow => 0
  | perRecord => 1

theorem settle_records {calls : Trace} (hcalls : WellBracketed 0 calls)
    (answer : Except LoadError Stats) :
    Step.Records (fun _ more => WellBracketed 1 (.session .begin (.ok ()) :: (calls ++ more)))
      (settle store.watched answer) := by
  cases answer with
  | ok stats =>
    refine store.commit_records.ofStore.bind ?_ ?_
    · rintro _ more ⟨reply, -, rfl⟩
      exact hcalls.inRecord (.inl rfl)
    · rintro _ more ⟨reply, -, rfl⟩
      exact .pure (hcalls.inRecord (.inl rfl))
  | error e =>
    refine store.rollback_records.bind_attempt ?_
    rintro _ more rfl
    exact .throw (hcalls.inRecord (.inr rfl))

theorem loadInScope_records (scope : TransactionScope) (r : Record) :
    Step.Records (fun _ => WellBracketed scope.depth) (loadInScope store.watched m scope r) := by
  cases scope with
  | perRow => exact loadRecord_records store m r
  | perRecord =>
    refine store.begin_records.ofStore.bind ?_ ?_
    · rintro _ calls ⟨_ | _, hreply, rfl⟩
      · exact Trace.wellBracketed_singleton rfl trivial
      · cases hreply
    · rintro _ calls ⟨_ | _, hreply, rfl⟩
      · cases hreply
      exact (loadRecord_records store m r).bind_attempt fun answer calls hcalls =>
        settle_records store hcalls answer

theorem loadFrom_records (options : Options) (records : List Record) (index : Nat)
    (report : Report) :
    Step.Records (fun _ => WellBracketed options.scope.depth)
      (loadFrom store.watched m options index records report) := by
  induction records generalizing index report with
  | nil => exact .pure Trace.wellBracketed_nil
  | cons r rest ih =>
    refine (loadInScope_records store m options.scope r).bind_attempt fun answer calls hcalls => ?_
    cases report.after options.onError index answer with
    | error e => exact .throw (by rwa [List.append_nil])
    | ok report => exact (ih (index + 1) report).mono fun _ more hmore => hcalls.append hmore

/-- A store cannot tell that a journal is kept. -/
theorem watched_alike : Store.Alike (fun p s => p.inner = s) store.watched store where
  schemas := rfl
  textMatch := rfl
  insert _ _ := by rintro p _ rfl; exact ⟨rfl, rfl⟩
  find _ _ := by rintro p _ rfl; exact ⟨rfl, rfl⟩
  begin := by rintro p _ rfl; exact ⟨rfl, rfl⟩
  commit := by rintro p _ rfl; exact ⟨rfl, rfl⟩
  rollback := by rintro p _ rfl; exact ⟨rfl, rfl⟩

/-- **The sessions of a load are well bracketed**, whatever the backend answers.  Keeping a journal
changes nothing about a batch, and in the trace of it all transactions are closed, none is closed
that is not open, every row is inserted in a transaction of its own within that of the scope, the
next call closes that transaction and is a commit only if there is a row, and lookups are made only
in the scope and after a conflict that was rolled back.  No second call closes the transaction of a
row: after the first, only the transaction of the scope is open. -/
theorem loadRecords_well_bracketed (store : Store σ) (m : Mapping) (options : Options)
    (records : List Record) (s : σ) :
    let (answer, watched) := loadRecords store.watched m options records ⟨s, []⟩
    (answer, watched.inner) = loadRecords store m options records s ∧
      WellBracketed options.scope.depth watched.trace ∧
      ∀ before table row reply close after,
        watched.trace = before ++ .insert table row reply :: close :: after →
          depth (before ++ [.insert table row reply, close]) = options.scope.depth ∧
            (options.scope.depth = 0 → ∀ next ∈ after.head?, ¬ next.Closes) := by
  obtain ⟨hanswer, hinner⟩ :=
    loadRecords_alike (watched_alike store) m options records ⟨s, []⟩ s rfl
  obtain ⟨calls, htrace, hcalls⟩ :=
    loadFrom_records store m options records 0 (Report.start records.length) ⟨s, []⟩
  -- the journal is empty at first, so the trace is what the batch adds
  have htrace : (loadRecords store.watched m options records ⟨s, []⟩).2.trace = calls := htrace
  refine ⟨Prod.ext hanswer hinner, htrace ▸ hcalls, fun before table row reply close after h => ?_⟩
  exact hcalls.closed_once (htrace.symm.trans h)

end Load

end Accession
