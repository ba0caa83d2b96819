import Accession.Proofs.Load.Batches
import Accession.Proofs.Load.Sessions
import Accession.Proofs.Load.Tally
import Accession.Proofs.Memory.Size

/-!
# The accounts of a batch

The rows that a load says it made are the rows by which the store in memory has grown.  For a batch
this is so if no record failed, or if records that failed were taken back as a whole.

* `loadRecord_size`, `loadWhole_size`, `loadInScope_size` : the rows of one record.
* `loadEach_size` : the rows of records one after another.
* `trace_abort` : what a batch that ends at a failure has asked of the store.
* `batch_accounts` : the report of a batch, its error, and its rows.
-/

namespace Accession.Load

open Memory (Inside)

section Growth

variable {α : Type} {r : Registry} {mode : TextMatch} {m m' base : Memory}

theorem run_size {d : Dialogue α} {a : α}
    (h : d.run (Store.inMemory r mode).upsert m = (.ok a, m')) : m'.size = m.size +
      (Dialogue.answers (d.calls (Store.inMemory r mode).upsert m)).countP Upserted.created := by
  induction d generalizing m with
  | done value =>
    cases h
    rfl
  | ask table row next ih =>
    rcases hu : (Store.inMemory r mode).upsert table row m with ⟨e | u, m₁⟩
    · rw [Dialogue.run_ask_error hu] at h
      cases h
    · rw [Dialogue.run_ask_ok hu] at h
      rw [Dialogue.calls_ask_ok hu, ih u h, Memory.upsert_size hu]
      change _ = m.size + (u :: Dialogue.answers _).countP Upserted.created
      rw [List.countP_cons, Nat.add_assoc, Nat.add_comm (List.countP _ _)]

theorem run_inside {d : Dialogue α} {answer : Except LoadError α} (hm : Inside base m)
    (h : d.run (Store.inMemory r mode).upsert m = (answer, m')) : Inside base m' := by
  induction d generalizing m with
  | done value =>
    cases h
    exact hm
  | ask table row next ih =>
    rcases hu : (Store.inMemory r mode).upsert table row m with ⟨e | u, m₁⟩
    · rw [Dialogue.run_ask_error hu] at h
      cases h
      exact Memory.upsert_inside hm hu
    · rw [Dialogue.run_ask_ok hu] at h
      exact ih u (Memory.upsert_inside hm hu) h

variable {mapping : Mapping} {record : Record} {stats : Stats} {e : LoadError}

/-- **The rows that a record is said to have made are there.** -/
theorem loadRecord_size
    (h : loadRecord (Store.inMemory r mode) mapping record m = (.ok stats, m')) :
    m'.size = m.size + stats.created := by
  rw [(loadRecord_tallies h).created]
  rw [loadRecord_eq_run] at h
  exact run_size h

/-- A record that is loaded as a whole adds the rows that it made, or none. -/
theorem loadWhole_size {answer : Except LoadError Stats}
    (h : loadInScope (Store.inMemory r mode) mapping .perRecord record m = (answer, m')) :
    m'.size = m.size + (answer.toOption.map Stats.created).getD 0 := by
  have hbegin : Step.ofStore (Store.inMemory r mode).backend.begin m = (.ok (), m.begin) := rfl
  rcases hload : loadRecord (Store.inMemory r mode) mapping record m.begin with ⟨reply, m₁⟩
  have hinside : Inside m m₁ := by
    rw [loadRecord_eq_run] at hload
    exact run_inside (Memory.inside_begin m) hload
  rw [loadInScope, Step.bind_ok hbegin, Step.bind_ok (Step.attempt_of_eq hload)] at h
  cases reply with
  | ok stats =>
    obtain ⟨m₂, hcommit, hsize⟩ := hinside.commit_size
    have hclosed : Step.ofStore (Store.inMemory r mode).backend.commit m₁ = (.ok (), m₂) :=
      Step.ofStore_of_ok hcommit
    rw [settle, Step.bind_ok hclosed] at h
    cases h
    rw [hsize, loadRecord_size hload]
    rfl
  | error e =>
    obtain ⟨m₂, hroll, hrestored, -⟩ := hinside.rollback
    have hclosed : (Store.inMemory r mode).backend.rollback m₁ = (.ok (), m₂) := hroll
    rw [settle, Step.bind_ok (Step.attempt_of_eq hclosed)] at h
    cases h
    exact Memory.size_congr hrestored.rows

theorem loadInScope_size {scope : TransactionScope}
    (h : loadInScope (Store.inMemory r mode) mapping scope record m = (.ok stats, m')) :
    m'.size = m.size + stats.created := by
  cases scope with
  | perRow => exact loadRecord_size h
  | perRecord => exact loadWhole_size h

/-! ### Records one after another -/

variable {scope : TransactionScope}

/-- **The rows of records that are loaded one after another**, if none fails or each is loaded as a
whole. -/
theorem loadEach_size (records : List Record) (m : Memory)
    (h : scope = .perRecord ∨
      ∀ a ∈ (loadEach (Store.inMemory r mode) mapping scope records m).1, a.isOk) :
    (loadEach (Store.inMemory r mode) mapping scope records m).2.size = m.size +
      (Stats.sum (loads (loadEach (Store.inMemory r mode) mapping scope records m).1)).created := by
  induction records generalizing m with
  | nil => rfl
  | cons record rest ih =>
    rcases hr : loadInScope (Store.inMemory r mode) mapping scope record m with ⟨answer, m'⟩
    rw [loadEach_cons hr] at h ⊢
    have hrest := ih m' (h.imp_right fun hall => (List.forall_mem_cons.1 hall).2)
    cases answer with
    | ok stats =>
      rw [hrest, loadInScope_size hr, loads_ok, Nat.add_assoc]
      rfl
    | error e =>
      have hwhole : scope = .perRecord := h.resolve_right fun hall =>
        Bool.false_ne_true (hall _ List.mem_cons_self)
      subst hwhole
      rw [hrest, loadWhole_size hr, loads_error]
      rfl

end Growth

/-- A store cannot tell that a journal is kept of what is done for each record. -/
theorem loadEach_watched {σ : Type} (store : Store σ) (mapping : Mapping) (scope : TransactionScope)
    (records : List Record) (p : Probed σ) :
    (loadEach store.watched mapping scope records p).1 =
      (loadEach store mapping scope records p.inner).1 := by
  induction records generalizing p with
  | nil => rfl
  | cons record rest ih =>
    have halike := loadInScope_alike (watched_alike store) mapping scope record p p.inner rfl
    rcases hp : loadInScope store.watched mapping scope record p with ⟨answer, p'⟩
    rw [hp] at halike
    have hr : loadInScope store mapping scope record p.inner = (answer, p'.inner) :=
      Prod.ext halike.1.symm halike.2.symm
    rw [loadEach_cons hp, loadEach_cons hr, ih]

/-- Nothing is asked of the store for the records after the first one that fails. -/
theorem trace_abort {σ : Type} {store : Store σ} {mapping : Mapping} {options : Options}
    {records : List Record} {s : σ} (habort : options.onError = .abort) {i : Nat}
    {cause : LoadError}
    (hfirst : FirstFailure (loadEach store mapping options.scope records s).1 i cause) :
    (loadRecords store.watched mapping options records ⟨s, []⟩).2.trace = (loadEach
      store.watched mapping options.scope (records.take (i + 1)) ⟨s, []⟩).2.trace := by
  have hwatched : FirstFailure
      (loadEach store.watched mapping options.scope records ⟨s, []⟩).1 i cause := by
    rw [loadEach_watched]
    exact hfirst
  rw [loadRecords, loadFrom_abort habort hwatched]

/-- **The accounts of a batch.**  A report tells of what became of the records when they were loaded
one after another, and all batches end in one that may go on after failures; the others end in an
error exactly if some record fails, with the first one, and ask nothing of the store for later ones.
If the records that failed were taken back, or none failed, the store has grown by the rows that the
report counts as new. -/
theorem batch_accounts (r : Registry) (mode : TextMatch) (mapping : Mapping) (options : Options)
    (records : List Record) (m : Memory) :
    let store := Store.inMemory r mode
    let answers := (loadEach store mapping options.scope records m).1
    let ended := loadRecords store mapping options records m
    answers.length = records.length ∧
      (∀ report, ended.1 = .ok report → report.Tells answers ∧
        (options.scope = .perRecord ∨ report.failures = [] →
          ended.2.size = m.size + report.stats.created)) ∧
      (options.onError = .skip → ended.1.isOk) ∧
      (options.onError = .abort → ∀ e, ended.1 = .error e ↔
        ∃ i cause, FirstFailure answers i cause ∧ e = .record i cause) ∧
      (options.onError = .abort → ∀ i cause, FirstFailure answers i cause →
        (loadRecords store.watched mapping options records ⟨m, []⟩).2.trace = (loadEach
          store.watched mapping options.scope (records.take (i + 1)) ⟨m, []⟩).2.trace) := by
  intro store answers ended
  refine ⟨length_loadEach records m, fun report hreport => ?_, fun hskip => ?_, fun habort _ => ?_,
    fun habort i cause => trace_abort habort⟩
  · obtain ⟨htells, hleft⟩ := loadRecords_tells hreport
    refine ⟨htells, fun hkept => ?_⟩
    have hgrown := loadEach_size records m (hkept.imp_right htells.isOk)
    rw [← htells.stats] at hgrown
    exact (congrArg Memory.size hleft).trans hgrown
  · exact loadRecords_skip hskip records m
  · exact loadRecords_abort habort

namespace Headings

/-- A batch whose second record fails. -/
def batch : List Record := [complete, record, complete]

/-- The report of the batch, loaded record by record. -/
def report : Report :=
  ⟨3, 2, [⟨1, "record 1: table 'subject': null value in non-nullable column 'term'"⟩], ⟨10, 0, 0⟩⟩

/-- The failed record had made a work and a subject, and they do not count. -/
theorem batch_accounted :
    (loadRecords store ⟨.default, root⟩ ⟨.skip, .perRecord⟩ batch .empty).1 = .ok report ∧
      (loadRecords store ⟨.default, root⟩ ⟨.skip, .perRecord⟩ batch .empty).2.size = 10 := by
  have hload :
      (loadRecords store ⟨.default, root⟩ ⟨.skip, .perRecord⟩ batch .empty).1 = .ok report := by
    decide +kernel
  obtain ⟨-, hreport, -⟩ :=
    batch_accounts registry .exact ⟨.default, root⟩ ⟨.skip, .perRecord⟩ batch .empty
  obtain ⟨-, hsize⟩ := hreport report hload
  exact ⟨hload, hsize (.inl rfl)⟩

end Headings

end Accession.Load
