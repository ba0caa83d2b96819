import Accession.Proofs.Load.Batches
import Accession.Proofs.Text.Pieces

/-!
# Batches in two parts

A batch is loaded as its first records and then, unless these ended it, the others, from the store
that the first ones left.  The position at which the others begin matters for the wording of their
failures only.

* `Failure.shift`, `LoadError.shift` : a failure, told from a position further back.
* `Report.append` : the report of two batches, the second one told from the end of the first.
* `loadFrom_append`, `loadFrom_shift` : a batch in two parts, and a batch from another position on.
* `loadRecords_append` : two batches are one.
-/

namespace Accession

/-- The words before the reason of a failure. -/
def Load.label (index : Nat) : String := "record " ++ toString index ++ ": "

/-- The error of a batch that is part of another, which has some records before it. -/
def LoadError.shift (before : Nat) : LoadError → LoadError
  | record index source => record (index + before) source
  | e => e

namespace Load

/-- A failure of a batch that is part of another, which has some records before it. -/
def Failure.shift (before : Nat) (f : Failure) : Failure where
  index := f.index + before
  message :=
    match Text.after? (label f.index) f.message with
    | some reason => label (f.index + before) ++ reason
    | none => f.message

/-- The report of two batches, the first of which has so many records. -/
def Report.append (before : Nat) (first second : Report) : Report where
  total := first.total + second.total
  loaded := first.loaded + second.loaded
  failures := first.failures ++ second.failures.map (Failure.shift before)
  stats := first.stats.add second.stats

theorem message_record (index : Nat) (e : LoadError) :
    (LoadError.record index e).message = label index ++ e.message := rfl

/-- The wording of a failure is that of the later position. -/
theorem Failure.shift_mk (before index : Nat) (e : LoadError) :
    Failure.shift before ⟨index, (LoadError.record index e).message⟩ =
      ⟨index + before, (LoadError.record (index + before) e).message⟩ := by
  simp only [shift, message_record, Text.after?_append]

theorem shift_zero (e : LoadError) : e.shift 0 = e := by
  cases e <;> rfl

/-- The end of a batch, told as part of another one. -/
def retold (before : Nat) (f : Report → Report) : Except LoadError Report → Except LoadError Report
  | .ok report => .ok (f report)
  | .error e => .error (e.shift before)

variable {σ : Type} {store : Store σ} {m : Mapping} {options : Options}

/-- A batch in two parts. -/
theorem loadFrom_append (xs ys : List Record) (index : Nat) (report : Report) :
    loadFrom store m options index (xs ++ ys) report =
      loadFrom store m options index xs report >>=
        loadFrom store m options (index + xs.length) ys := by
  induction xs generalizing index report with
  | nil =>
    rw [List.nil_append, loadFrom, pure_bind]
    rfl
  | cons r rest ih =>
    have hindex : index + (r :: rest).length = index + 1 + rest.length := by
      rw [List.length_cons, Nat.add_assoc, Nat.add_comm 1]
    simp only [List.cons_append, loadFrom, bind_assoc, ih, hindex]

/-- A batch from a position further back.  What it adds to a report does not depend on the report,
so it can be told in any way that keeps with the records one by one. -/
theorem loadFrom_shift (store : Store σ) (m : Mapping) (options : Options) (before : Nat)
    (f : Report → Report) (hsuccess : ∀ report stats, f (report.success stats) =
      (f report).success stats)
    (hfailure : ∀ report index e,
      f (report.failure index e) = (f report).failure (index + before) e)
    (records : List Record) (index : Nat) (report : Report) (s : σ) :
    loadFrom store m options (index + before) records (f report) s =
      let (answer, s') := loadFrom store m options index records report s
      (retold before f answer, s') := by
  induction records generalizing index report s with
  | nil => rfl
  | cons r rest ih =>
    rcases hr : loadInScope store m options.scope r s with ⟨answer, s'⟩
    cases answer with
    | ok stats =>
      have hnext := ih (index + 1) (report.success stats) s'
      rw [hsuccess, Nat.add_right_comm] at hnext
      rw [loadFrom_cons_of_ok hr rfl, hnext, loadFrom_cons_of_ok hr rfl]
    | error e =>
      cases hpolicy : options.onError with
      | abort =>
        rw [loadFrom_cons_of_error hr (Report.after_abort hpolicy _ _ e),
          loadFrom_cons_of_error hr (Report.after_abort hpolicy _ _ e)]
        rfl
      | skip =>
        have hnext := ih (index + 1) (report.failure index e) s'
        rw [hfailure, Nat.add_right_comm] at hnext
        rw [loadFrom_cons_of_ok hr (Report.after_skip hpolicy _ _ e), hnext,
          loadFrom_cons_of_ok hr (Report.after_skip hpolicy _ _ e)]

/-- The first records of a batch end as a batch of their own, but for the total. -/
theorem loadFrom_total (records : List Record) (more : Nat) (s : σ) :
    loadFrom store m options 0 records (Report.start (records.length + more)) s =
      let (answer, s') := loadRecords store m options records s
      (answer.map fun report => { report with total := report.total + more }, s') := by
  have hshift := loadFrom_shift store m options 0
    (fun report => { report with total := report.total + more })
    (fun _ _ => rfl) (fun _ _ _ => rfl) records 0 (Report.start records.length) s
  refine hshift.trans ?_
  rw [loadRecords]
  rcases loadFrom store m options 0 records (Report.start records.length) s with ⟨e | report, s'⟩
  · exact congrArg (fun e => (Except.error e, s')) (shift_zero e)
  · rfl

/-- The records after a batch end as a batch of their own, told from the end of the first one. -/
theorem loadFrom_after (first : Report) (before : Nat) (records : List Record) (s : σ) :
    loadFrom store m options before records
        { first with total := first.total + records.length } s =
      let (answer, s') := loadRecords store m options records s
      (retold before (first.append before) answer, s') := by
  have hshift := loadFrom_shift store m options before (first.append before)
    (fun report stats => ?_) (fun report index e => ?_) records 0 (Report.start records.length) s
  · have hstart : first.append before (Report.start records.length) =
        { first with total := first.total + records.length } := by
      simp [Report.append, Report.start, Stats.add, Stats.zero]
    rw [hstart, Nat.zero_add] at hshift
    exact hshift
  · simp only [Report.append, Report.success, Stats.add_assoc, Nat.add_assoc]
  · simp only [Report.append, Report.failure, List.map_append, List.map_cons, List.map_nil,
      Failure.shift_mk, List.append_assoc]

/-- **Two batches are one.**  Any batch leaves the store and ends as its first records do if these
end in an error; else it leaves the store that the other records leave when they are loaded after
the first ones, and ends as they do: the error of a record is told with the position in the whole
batch, and so are the failures of a report, which are added to those of the first report like the
totals, the records that were loaded and their rows. -/
theorem loadRecords_append (store : Store σ) (m : Mapping) (options : Options) (xs ys : List Record)
    (s : σ) :
    loadRecords store m options (xs ++ ys) s =
      match loadRecords store m options xs s with
      | (.error e, s') => (.error e, s')
      | (.ok first, s') =>
        match loadRecords store m options ys s' with
        | (.error e, s'') => (.error (e.shift xs.length), s'')
        | (.ok second, s'') => (.ok (first.append xs.length second), s'') := by
  rw [loadRecords, List.length_append, loadFrom_append, Step.bind_apply, loadFrom_total]
  rcases loadRecords store m options xs s with ⟨e | first, s'⟩
  · rfl
  · dsimp only [Except.map]
    rw [Nat.zero_add, loadFrom_after]
    rcases loadRecords store m options ys s' with ⟨e | second, s''⟩ <;> rfl

end Load

end Accession
