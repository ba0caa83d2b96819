import Accession.Load.Batch

/-!
# Batches

A batch loads its records one after another.  What becomes of each of them can be told without the
batch (`loadEach`), and the report tells no more than that.

* `loadEach` : records one after another, whatever fails, each with its answer.
* `Report.Tells` : a report tells of the answers to some records.
* `FirstFailure` : the first of the answers that is a failure.
* `loadRecords_eq` : a batch goes through all records, or ends at the first failure.
  `loadRecords_tells`, `loadRecords_skip` and `loadRecords_abort` tell which.
-/

namespace Accession.Load

variable {σ : Type}

/-- Loads records one after another, and answers what became of each. -/
def loadEach (store : Store σ) (m : Mapping) (scope : TransactionScope) :
    List Record → σ → List (Except LoadError Stats) × σ
  | [], s => ([], s)
  | r :: rest, s =>
    let (answer, s') := loadInScope store m scope r s
    let (answers, s'') := loadEach store m scope rest s'
    (answer :: answers, s'')

/-- The rows of several loads. -/
def Stats.sum (loads : List Stats) : Stats := loads.foldr Stats.add .zero

/-- The records among some answers that were loaded. -/
def loads (answers : List (Except LoadError Stats)) : List Stats :=
  answers.filterMap Except.toOption

theorem loads_ok (stats : Stats) (answers : List (Except LoadError Stats)) :
    loads (.ok stats :: answers) = stats :: loads answers :=
  List.filterMap_cons_some rfl

theorem loads_error (e : LoadError) (answers : List (Except LoadError Stats)) :
    loads (.error e :: answers) = loads answers :=
  List.filterMap_cons_none rfl

/-- The failures among some answers, with their positions from one on. -/
def failuresFrom (index : Nat) (answers : List (Except LoadError Stats)) : List Failure :=
  (answers.zipIdx index).filterMap fun a =>
    match a.1 with
    | .ok _ => none
    | .error e => some ⟨a.2, (LoadError.record a.2 e).message⟩

theorem failuresFrom_ok (index : Nat) (stats : Stats) (answers : List (Except LoadError Stats)) :
    failuresFrom index (.ok stats :: answers) = failuresFrom (index + 1) answers :=
  List.filterMap_cons_none rfl

theorem failuresFrom_error (index : Nat) (e : LoadError) (answers : List (Except LoadError Stats)) :
    failuresFrom index (.error e :: answers) =
      ⟨index, (LoadError.record index e).message⟩ :: failuresFrom (index + 1) answers :=
  List.filterMap_cons_some rfl

namespace Report

/-- The report with some more answers, from a position on. -/
def extended (report : Report) (index : Nat) (answers : List (Except LoadError Stats)) :
    Report where
  total := report.total
  loaded := report.loaded + answers.countP Except.isOk
  failures := report.failures ++ failuresFrom index answers
  stats := report.stats.add (Stats.sum (loads answers))

variable {report : Report} {index : Nat} {answers : List (Except LoadError Stats)}

theorem extended_nil : report.extended index [] = report := by
  simp [extended, failuresFrom, loads, Stats.sum, Stats.add, Stats.zero]

theorem extended_success (stats : Stats) : (report.success stats).extended (index + 1) answers =
    report.extended index (.ok stats :: answers) := by
  rw [extended, extended, failuresFrom_ok, List.countP_cons_of_pos rfl, loads_ok]
  simp [success, Stats.sum, Stats.add_assoc, Nat.add_comm, Nat.add_left_comm]

theorem extended_failure (e : LoadError) : (report.failure index e).extended (index + 1) answers =
    report.extended index (.error e :: answers) := by
  have hcount : (Except.error e :: answers).countP Except.isOk = answers.countP Except.isOk :=
    List.countP_cons_of_neg Bool.false_ne_true
  rw [extended, extended, failuresFrom_error, hcount, loads_error]
  simp [failure]

end Report

theorem mem_failuresFrom {answers : List (Except LoadError Stats)} {f : Failure} :
    f ∈ failuresFrom 0 answers ↔ ∃ e, answers[f.index]? = some (.error e) ∧
      f.message = (LoadError.record f.index e).message := by
  rw [failuresFrom, List.mem_filterMap]
  constructor
  · rintro ⟨⟨answer, i⟩, ha, hf⟩
    rw [List.mem_zipIdx_iff_getElem?] at ha
    cases answer with
    | ok stats => cases hf
    | error e =>
      cases hf
      exact ⟨e, ha, rfl⟩
  · rintro ⟨e, ha, hmessage⟩
    refine ⟨(.error e, f.index), List.mem_zipIdx_iff_getElem?.2 ha, ?_⟩
    change some (⟨f.index, (LoadError.record f.index e).message⟩ : Failure) = some f
    rw [← hmessage]

theorem failuresFrom_ascending (index : Nat) (answers : List (Except LoadError Stats)) :
    (failuresFrom index answers).Pairwise (·.index < ·.index) := by
  have hpositions : (answers.zipIdx index).Pairwise (·.2 < ·.2) := by
    rw [← List.pairwise_map (f := Prod.snd), List.zipIdx_map_snd]
    exact List.pairwise_lt_range'
  refine hpositions.filterMap _ ?_
  rintro ⟨_ | e, i⟩ ⟨_ | e', j⟩ hij f hf f' hf'
  all_goals cases hf
  all_goals cases hf'
  exact hij

theorem countP_add_length_failuresFrom (index : Nat) (answers : List (Except LoadError Stats)) :
    answers.countP Except.isOk + (failuresFrom index answers).length = answers.length := by
  induction answers generalizing index with
  | nil => rfl
  | cons answer answers ih =>
    cases answer with
    | ok stats =>
      rw [failuresFrom_ok, List.countP_cons_of_pos rfl, Nat.add_right_comm, ih, List.length_cons]
    | error e =>
      rw [failuresFrom_error, List.countP_cons_of_neg Bool.false_ne_true, List.length_cons,
        ← Nat.add_assoc, ih, List.length_cons]

/-- The report tells of the answers to the records of a batch, and of no others. -/
structure Report.Tells (report : Report) (answers : List (Except LoadError Stats)) : Prop where
  total : report.total = answers.length
  settled : report.loaded + report.failures.length = report.total
  ascending : report.failures.Pairwise (·.index < ·.index)
  failures : ∀ f, f ∈ report.failures ↔ ∃ e, answers[f.index]? = some (.error e) ∧
    f.message = (LoadError.record f.index e).message
  stats : report.stats = Stats.sum (loads answers)

theorem Report.tells_extended (answers : List (Except LoadError Stats)) :
    ((Report.start answers.length).extended 0 answers).Tells answers where
  total := rfl
  settled := by
    simp only [extended, start, Nat.zero_add, List.nil_append]
    exact countP_add_length_failuresFrom 0 answers
  ascending := failuresFrom_ascending 0 answers
  failures _ := mem_failuresFrom
  stats := Stats.zero_add _

/-- A report without failures tells of records that were all loaded. -/
theorem Report.Tells.isOk {report : Report} {answers : List (Except LoadError Stats)}
    (h : report.Tells answers) (hnone : report.failures = []) : ∀ a ∈ answers, a.isOk := by
  intro a ha
  cases a with
  | ok stats => rfl
  | error e =>
    obtain ⟨i, hi⟩ := List.mem_iff_getElem?.1 ha
    have hmem := (h.failures ⟨i, (LoadError.record i e).message⟩).2 ⟨e, hi, rfl⟩
    rw [hnone] at hmem
    cases hmem

/-- The failure at a position is the first one. -/
def FirstFailure (answers : List (Except LoadError Stats)) (i : Nat) (cause : LoadError) : Prop :=
  answers[i]? = some (.error cause) ∧ ∀ j < i, ∃ stats, answers[j]? = some (.ok stats)

/-- Any answers have a first failure, or none. -/
theorem firstFailure_or (answers : List (Except LoadError Stats)) :
    (∃ i cause, FirstFailure answers i cause) ∨ ∀ a ∈ answers, a.isOk := by
  induction answers with
  | nil => exact .inr (List.forall_mem_nil _)
  | cons answer answers ih =>
    cases answer with
    | error e => exact .inl ⟨0, e, rfl, fun j hj => absurd hj (Nat.not_lt_zero j)⟩
    | ok stats =>
      refine ih.imp ?_ fun hall => List.forall_mem_cons.2 ⟨rfl, hall⟩
      rintro ⟨i, cause, hcause, hbefore⟩
      refine ⟨i + 1, cause, hcause, fun j hj => ?_⟩
      cases j with
      | zero => exact ⟨stats, rfl⟩
      | succ j => exact hbefore j (Nat.lt_of_succ_lt_succ hj)

theorem FirstFailure.not_isOk {answers : List (Except LoadError Stats)} {i : Nat}
    {cause : LoadError} (h : FirstFailure answers i cause) : ¬ ∀ a ∈ answers, a.isOk :=
  fun hall => Bool.false_ne_true (hall _ (List.mem_of_getElem? h.1))

theorem FirstFailure.unique {answers : List (Except LoadError Stats)} {i j : Nat}
    {cause cause' : LoadError} (h : FirstFailure answers i cause)
    (h' : FirstFailure answers j cause') : i = j ∧ cause = cause' := by
  -- before the first failure there is none
  have hij : i = j := by
    rcases Nat.lt_trichotomy i j with hlt | heq | hlt
    · obtain ⟨stats, hstats⟩ := h'.2 i hlt
      rw [h.1] at hstats
      cases hstats
    · exact heq
    · obtain ⟨stats, hstats⟩ := h.2 j hlt
      rw [h'.1] at hstats
      cases hstats
  subst hij
  have hcause := h.1.symm.trans h'.1
  cases hcause
  exact ⟨rfl, rfl⟩

/-! ### One step of a batch -/

section Steps

variable {store : Store σ} {m : Mapping} {options : Options} {scope : TransactionScope}
  {r : Record} {rest records : List Record} {index : Nat} {report report' : Report} {s s' : σ}
  {answer : Except LoadError Stats} {e cause : LoadError}

theorem Report.after_abort {policy : ErrorPolicy} (h : policy = .abort) (report : Report)
    (index : Nat) (e : LoadError) :
    report.after policy index (.error e) = .error (.record index e) := by
  rw [h]
  rfl

theorem Report.after_skip {policy : ErrorPolicy} (h : policy = .skip) (report : Report)
    (index : Nat) (e : LoadError) :
    report.after policy index (.error e) = .ok (report.failure index e) := by
  rw [h]
  rfl

theorem loadFrom_cons_of_ok (h : loadInScope store m options.scope r s = (answer, s'))
    (ha : report.after options.onError index answer = .ok report') :
    loadFrom store m options index (r :: rest) report s =
      loadFrom store m options (index + 1) rest report' s' := by
  rw [loadFrom, Step.bind_ok (Step.attempt_of_eq h), ha]
  rfl

theorem loadFrom_cons_of_error (h : loadInScope store m options.scope r s = (answer, s'))
    (ha : report.after options.onError index answer = .error e) :
    loadFrom store m options index (r :: rest) report s = (.error e, s') := by
  rw [loadFrom, Step.bind_ok (Step.attempt_of_eq h), ha]
  rfl

theorem loadEach_cons (h : loadInScope store m scope r s = (answer, s')) :
    loadEach store m scope (r :: rest) s =
      (answer :: (loadEach store m scope rest s').1, (loadEach store m scope rest s').2) := by
  rw [loadEach, h]

theorem length_loadEach (records : List Record) (s : σ) :
    (loadEach store m scope records s).1.length = records.length := by
  induction records generalizing s with
  | nil => rfl
  | cons r rest ih =>
    rw [loadEach_cons rfl, List.length_cons, ih, List.length_cons]

/-! ### Whole batches -/

theorem loadFrom_sound (hall : ∀ a ∈ (loadEach store m options.scope records s).1,
      options.onError = .skip ∨ a.isOk) :
    loadFrom store m options index records report s =
      (.ok (report.extended index (loadEach store m options.scope records s).1),
        (loadEach store m options.scope records s).2) := by
  induction records generalizing index report s with
  | nil => rw [loadEach, Report.extended_nil]; rfl
  | cons r rest ih =>
    rcases hr : loadInScope store m options.scope r s with ⟨answer, s'⟩
    rw [loadEach_cons hr] at hall ⊢
    obtain ⟨hfirst, hrest⟩ := List.forall_mem_cons.1 hall
    cases answer with
    | ok stats =>
      rw [loadFrom_cons_of_ok hr rfl, ih hrest, Report.extended_success]
    | error e =>
      have hskip : options.onError = .skip := hfirst.resolve_right Bool.false_ne_true
      rw [loadFrom_cons_of_ok hr (report.after_skip hskip index e), ih hrest,
        Report.extended_failure]

/-- The batch ends with the record that fails first, and later records do not matter. -/
theorem loadFrom_abort (habort : options.onError = .abort) {i : Nat}
    (h : FirstFailure (loadEach store m options.scope records s).1 i cause) :
    loadFrom store m options index records report s =
      (.error (.record (index + i) cause),
        (loadEach store m options.scope (records.take (i + 1)) s).2) := by
  induction records generalizing index report s i with
  | nil => cases h.1
  | cons r rest ih =>
    rcases hr : loadInScope store m options.scope r s with ⟨answer, s'⟩
    rw [loadEach_cons hr] at h
    obtain ⟨hcause, hbefore⟩ := h
    cases i with
    | zero =>
      obtain rfl : answer = .error cause := Option.some.inj hcause
      rw [loadFrom_cons_of_error hr (report.after_abort habort index cause), List.take_succ_cons,
        loadEach_cons hr]
      rfl
    | succ i =>
      obtain ⟨stats, hstats⟩ := hbefore 0 (Nat.succ_pos i)
      obtain rfl : answer = .ok stats := Option.some.inj hstats
      have hrest : FirstFailure (loadEach store m options.scope rest s').1 i cause :=
        ⟨hcause, fun j hj => hbefore (j + 1) (Nat.succ_lt_succ hj)⟩
      rw [loadFrom_cons_of_ok hr rfl, ih hrest, List.take_succ_cons, loadEach_cons hr,
        Nat.add_assoc, Nat.add_comm 1]

/-- **What a batch comes to.**  If it ends in a report, that tells of its records one by one; it
ends in an error exactly if it may not go on after a failure and there is one, with the first of
them. -/
theorem loadRecords_eq (store : Store σ) (m : Mapping) (options : Options) (records : List Record)
    (s : σ) :
    let each := loadEach store m options.scope records s
    (∃ i cause, options.onError = .abort ∧ FirstFailure each.1 i cause ∧
        loadRecords store m options records s = (.error (.record i cause),
          (loadEach store m options.scope (records.take (i + 1)) s).2)) ∨
      (options.onError = .skip ∨ ∀ a ∈ each.1, a.isOk) ∧
        ∃ report, loadRecords store m options records s = (.ok report, each.2) ∧
          report.Tells each.1 := by
  intro each
  have hlength : each.1.length = records.length := length_loadEach records s
  have hsound (h : options.onError = .skip ∨ ∀ a ∈ each.1, a.isOk) :
      ∃ report, loadRecords store m options records s = (.ok report, each.2) ∧
        report.Tells each.1 := by
    refine ⟨_, loadFrom_sound fun a ha => h.imp_right fun hall => hall a ha, ?_⟩
    rw [← hlength]
    exact Report.tells_extended each.1
  cases hpolicy : options.onError with
  | skip => exact .inr ⟨.inl rfl, hsound (.inl hpolicy)⟩
  | abort =>
    rcases firstFailure_or each.1 with ⟨i, cause, hfirst⟩ | hall
    · refine .inl ⟨i, cause, rfl, hfirst, ?_⟩
      rw [loadRecords, loadFrom_abort hpolicy hfirst, Nat.zero_add]
    · exact .inr ⟨.inr hall, hsound (.inr hall)⟩

/-- A batch that ends in a report has gone through all records. -/
theorem loadRecords_tells (h : (loadRecords store m options records s).1 = .ok report) :
    report.Tells (loadEach store m options.scope records s).1 ∧
      (loadRecords store m options records s).2 =
        (loadEach store m options.scope records s).2 := by
  rcases loadRecords_eq store m options records s with
    ⟨i, cause, -, -, hended⟩ | ⟨-, report', hended, htells⟩
  all_goals
    rw [hended] at h
    cases h
  rw [hended]
  exact ⟨htells, rfl⟩

/-- A batch that goes on after failures ends in a report. -/
theorem loadRecords_skip (hskip : options.onError = .skip) (records : List Record) (s : σ) :
    (loadRecords store m options records s).1.isOk := by
  rcases loadRecords_eq store m options records s with
    ⟨i, cause, habort, -⟩ | ⟨-, report, hended, -⟩
  · rw [hskip] at habort
    cases habort
  · rw [hended]
    rfl

/-- A batch that ends at a failure ends at the first one. -/
theorem loadRecords_abort (habort : options.onError = .abort) :
    (loadRecords store m options records s).1 = .error e ↔
      ∃ i cause, FirstFailure (loadEach store m options.scope records s).1 i cause ∧
        e = .record i cause := by
  rcases loadRecords_eq store m options records s with
    ⟨i, cause, -, hfirst, hended⟩ | ⟨hnone, report, hended, -⟩
  · rw [hended]
    constructor
    · intro he
      cases he
      exact ⟨i, cause, hfirst, rfl⟩
    · rintro ⟨j, cause', hfirst', rfl⟩
      obtain ⟨rfl, rfl⟩ := hfirst.unique hfirst'
      rfl
  · rw [hended]
    refine iff_of_false (by simp) ?_
    rintro ⟨i, cause, hfirst, -⟩
    exact hfirst.not_isOk (hnone.resolve_left (by simp [habort]))

end Steps

end Accession.Load
