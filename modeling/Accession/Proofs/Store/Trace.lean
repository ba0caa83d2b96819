import Accession.Store.Probe
import Accession.Store.Upsert

/-!
# Traces

The calls of a backend with their answers, in order, are a trace.  A `begin` that succeeds opens a
transaction, and a `commit` or `rollback` closes one, whatever it answers; a caller cannot tell more
of a backend that may fail at any call.

* `Trace.depth` : the transactions that are open after a trace.
* `Trace.Legal` : what has to hold of a call in its place, for a caller that works in transactions
  of its own around each insertion.
* `Trace.WellBracketed` : every call is legal, and no transaction is left open.  Traces may be put
  one after another, and inside the transaction of a record (`WellBracketed.append`,
  `WellBracketed.inRecord`).
* `Step.Records` : what a step adds to the journal of a backend, and what that has to do with its
  answer; `Step.Makes` : what all its calls have in common.
* `Store.findExisting_makes` : the lookups after a conflict are by constraints that the row fills.
-/

namespace Accession

/-- The calls of a backend with their answers, in order. -/
abbrev Trace := List JournalEntry

namespace JournalEntry

/-- By how much a call changes the number of open transactions. -/
def shift : JournalEntry → Int
  | session .begin (.ok _) => 1
  | session .commit _ | session .rollback _ => -1
  | _ => 0

/-- The call is a lookup. -/
def IsFind : JournalEntry → Prop
  | find .. => True
  | _ => False

/-- The call closes a transaction. -/
def Closes (e : JournalEntry) : Prop := e.call = .commit ∨ e.call = .rollback

theorem Closes.cases {e : JournalEntry} (h : e.Closes) :
    ∃ answer, e = .session .commit answer ∨ e = .session .rollback answer := by
  rcases e with _ | _ | ⟨call, answer⟩
  · simp [Closes, call] at h
  · simp [Closes, call] at h
  · obtain rfl | rfl : call = .commit ∨ call = .rollback := h
    · exact ⟨answer, .inl rfl⟩
    · exact ⟨answer, .inr rfl⟩

theorem Closes.shift_eq {e : JournalEntry} (h : e.Closes) : e.shift = -1 := by
  obtain ⟨answer, rfl | rfl⟩ := h.cases <;> rfl

end JournalEntry

namespace Trace

variable {scope : Int} {s t before after : Trace} {e : JournalEntry}

/-- The number of transactions that are open after a trace. -/
def depth : Trace → Int
  | [] => 0
  | e :: t => e.shift + depth t

@[simp] theorem depth_nil : depth [] = 0 := rfl

@[simp] theorem depth_cons (e : JournalEntry) (t : Trace) :
    depth (e :: t) = e.shift + depth t := rfl

@[simp] theorem depth_append (s t : Trace) : depth (s ++ t) = depth s + depth t := by
  induction s with
  | nil => simp
  | cons e s ih => rw [List.cons_append, depth_cons, depth_cons, ih, Int.add_assoc]

theorem depth_lookups {lookups : Trace} (h : ∀ l ∈ lookups, l.IsFind) : depth lookups = 0 := by
  induction lookups with
  | nil => rfl
  | cons l lookups ih =>
    obtain ⟨hl, hrest⟩ := List.forall_mem_cons.1 h
    rw [depth_cons, ih hrest]
    cases l with
    | find => rfl
    | insert | session => cases hl

/-- Every call of a trace has a property, which may speak of the calls before and after it. -/
def Everywhere (P : Trace → JournalEntry → Trace → Prop) (t : Trace) : Prop :=
  ∀ before e after, t = before ++ e :: after → P before e after

section

variable {P : Trace → JournalEntry → Trace → Prop}

theorem everywhere_nil : Everywhere P [] := fun _ _ _ h => by simp at h

theorem everywhere_cons (he : P [] e t) (ht : Everywhere (fun before => P (e :: before)) t) :
    Everywhere P (e :: t) := by
  intro before e' after h
  cases before with
  | nil =>
    obtain ⟨rfl, rfl⟩ := List.cons.inj h
    exact he
  | cons first before =>
    obtain ⟨rfl, ht'⟩ := List.cons.inj h
    exact ht before e' after ht'

theorem everywhere_append (hs : Everywhere (fun before e after => P before e (after ++ t)) s)
    (ht : Everywhere (fun before => P (s ++ before)) t) : Everywhere P (s ++ t) := by
  induction s generalizing P with
  | nil => exact ht
  | cons first s ih =>
    refine everywhere_cons (hs [] first s rfl) (ih ?_ ht)
    exact fun before e after h => hs (first :: before) e after (congrArg (first :: ·) h)

end

/-! ### Well-bracketed traces -/

/-- The call after an insertion closes its transaction, and keeps the row only if there is one. -/
def ClosedBy (answer : Except StoreError Key) (after : Trace) : Prop :=
  ∃ close rest, after = close :: rest ∧ close.Closes ∧ (close.call = .commit → answer.isOk)

/-- A trace ends in a conflict, which was rolled back, and in lookups. -/
def AfterConflict (before : Trace) : Prop :=
  ∃ earlier table row e lookups,
    before = earlier ++
      .insert table row (.error e) :: .session .rollback (.ok ()) :: lookups ∧
      e.isUniqueViolation ∧ ∀ l ∈ lookups, l.IsFind

/-- What has to hold of a call with the calls before and after it.  Rows are inserted one
transaction deeper than the scope, and looked up in the scope itself. -/
def Legal (scope : Int) (before : Trace) (e : JournalEntry) (after : Trace) : Prop :=
  match e with
  | .insert _ _ answer => depth before = scope + 1 ∧ ClosedBy answer after
  | .find .. => depth before = scope ∧ AfterConflict before
  | .session .commit _ | .session .rollback _ => 0 < depth before
  | .session .. => True

/-- Every call is legal, and every transaction is closed. -/
structure WellBracketed (scope : Int) (t : Trace) : Prop where
  balanced : depth t = 0
  legal : Everywhere (Legal scope) t

theorem ClosedBy.append {answer : Except StoreError Key} (h : ClosedBy answer after)
    (more : Trace) : ClosedBy answer (after ++ more) := by
  obtain ⟨close, rest, rfl, hclose⟩ := h
  exact ⟨close, rest ++ more, rfl, hclose⟩

theorem AfterConflict.prepend (h : AfterConflict before) (earlier : Trace) :
    AfterConflict (earlier ++ before) := by
  obtain ⟨first, table, row, e, lookups, rfl, hconflict⟩ := h
  exact ⟨earlier ++ first, table, row, e, lookups, by rw [List.append_assoc], hconflict⟩

/-- A legal call stays legal among more calls, in the scope that those before it have opened. -/
theorem Legal.among (h : Legal scope before e after) {earlier : Trace} (hd : 0 ≤ depth earlier)
    (more : Trace) : Legal (depth earlier + scope) (earlier ++ before) e (after ++ more) := by
  unfold Legal at h ⊢
  rw [depth_append]
  split at h
  · obtain ⟨hdepth, hclosed⟩ := h
    exact ⟨by omega, hclosed.append more⟩
  · obtain ⟨hdepth, hconflict⟩ := h
    exact ⟨by omega, hconflict.prepend earlier⟩
  · omega
  · omega
  · trivial

theorem legal_of_closes (he : e.Closes) : Legal scope before e after ↔ 0 < depth before := by
  obtain ⟨answer, rfl | rfl⟩ := he.cases <;> rfl

theorem wellBracketed_nil : WellBracketed scope [] := ⟨rfl, everywhere_nil⟩

theorem WellBracketed.append (hs : WellBracketed scope s) (ht : WellBracketed scope t) :
    WellBracketed scope (s ++ t) := by
  refine ⟨by rw [depth_append, hs.balanced, ht.balanced, Int.add_zero], everywhere_append ?_ ?_⟩
  · intro before e after h
    have hlegal := (hs.legal before e after h).among (Int.le_refl (depth [])) t
    simpa using hlegal
  · intro before e after h
    have hlegal := (ht.legal before e after h).among (Int.le_of_eq hs.balanced.symm) []
    simpa [hs.balanced] using hlegal

theorem wellBracketed_singleton (hshift : e.shift = 0) (he : Legal scope [] e []) :
    WellBracketed scope [e] :=
  ⟨by simp [hshift], everywhere_cons he everywhere_nil⟩

/-- The transaction of a record around a trace. -/
theorem WellBracketed.inRecord (ht : WellBracketed 0 t) {close : JournalEntry}
    (hclose : close.Closes) : WellBracketed 1 (.session .begin (.ok ()) :: (t ++ [close])) := by
  have hopen : depth [.session .begin (.ok ())] = 1 := rfl
  refine ⟨?_, everywhere_cons trivial (everywhere_append ?_ (everywhere_cons ?_ everywhere_nil))⟩
  · rw [depth_cons, depth_append, ht.balanced, depth_cons, hclose.shift_eq]
    rfl
  · intro before e after h
    have hlegal := (ht.legal before e after h).among (Int.le_of_lt (by rw [hopen]; decide)) [close]
    exact hopen ▸ hlegal
  · rw [legal_of_closes hclose]
    simp only [List.append_nil]
    rw [depth_cons, ht.balanced]
    decide

/-- After the call that follows an insertion, only the transaction of the scope is open, and if it
has none, the next call closes nothing. -/
theorem WellBracketed.closed_once {table : String} {row : Row} {answer : Except StoreError Key}
    {close : JournalEntry} (h : WellBracketed scope t)
    (ht : t = before ++ .insert table row answer :: close :: after) :
    depth (before ++ [.insert table row answer, close]) = scope ∧
      (scope = 0 → ∀ next ∈ after.head?, ¬ next.Closes) := by
  obtain ⟨hdepth, _, _, hafter, hclose, -⟩ := h.legal _ _ _ ht
  obtain ⟨rfl, -⟩ := List.cons.inj hafter
  have hshift : (JournalEntry.insert table row answer).shift = 0 := rfl
  have hscope : depth (before ++ [.insert table row answer, close]) = scope := by
    rw [depth_append, depth_cons, depth_cons, hclose.shift_eq, depth_nil, hdepth, hshift]
    omega
  refine ⟨hscope, fun hzero next hnext hcloses => ?_⟩
  obtain ⟨rest, rfl⟩ := List.head?_eq_some_iff.1 hnext
  have hlegal := h.legal (before ++ [.insert table row answer, close]) next rest (by simp [ht])
  rw [legal_of_closes hcloses, hscope, hzero] at hlegal
  exact absurd hlegal (Int.lt_irrefl 0)

end Trace

/-! ### What steps record -/

/-- The calls so far, in order. -/
def Probed.trace {σ : Type} (p : Probed σ) : Trace := p.journal.reverse

/-- The store over the backend with a journal. -/
def Store.watched {σ : Type} (store : Store σ) : Store (Probed σ) :=
  ⟨store.backend.probed [], store.schemas, store.textMatch⟩

namespace Step

variable {σ ε α β : Type} {L : Except ε α → Trace → Prop} {step : Step (Probed σ) ε α}

/-- From every state, the step adds calls to the trace that go with its answer. -/
def Records (L : Except ε α → Trace → Prop) (step : Step (Probed σ) ε α) : Prop :=
  ∀ p, ∃ calls, (step p).2.trace = p.trace ++ calls ∧ L (step p).1 calls

theorem Records.pure {a : α} (h : L (.ok a) []) : Records (σ := σ) L (pure a) :=
  fun p => ⟨[], (List.append_nil p.trace).symm, h⟩

theorem Records.throw {e : ε} (h : L (.error e) []) : Records (σ := σ) L (throw e) :=
  fun p => ⟨[], (List.append_nil p.trace).symm, h⟩

theorem Records.bind {L' : Except ε β → Trace → Prop} {next : α → Step (Probed σ) ε β}
    (h : Records L step) (herror : ∀ e calls, L (.error e) calls → L' (.error e) calls)
    (hnext : ∀ a calls, L (.ok a) calls →
      Records (fun answer more => L' answer (calls ++ more)) (next a)) :
    Records L' (step >>= next) := by
  intro p
  obtain ⟨calls, htrace, hcalls⟩ := h p
  rw [bind_apply]
  generalize step p = reached at htrace hcalls ⊢
  obtain ⟨e | a, p'⟩ := reached
  · exact ⟨calls, htrace, herror e calls hcalls⟩
  · obtain ⟨more, hmore, hall⟩ := hnext a calls hcalls p'
    refine ⟨calls ++ more, ?_, hall⟩
    rw [← List.append_assoc, ← htrace]
    exact hmore

theorem Records.mono {L' : Except ε α → Trace → Prop} (h : Records L step)
    (hL : ∀ answer calls, L answer calls → L' answer calls) : Records L' step := fun p =>
  let ⟨calls, htrace, hcalls⟩ := h p
  ⟨calls, htrace, hL _ calls hcalls⟩

theorem Records.ofStore {L : Except StoreError α → Trace → Prop}
    {step : Step (Probed σ) StoreError α} (h : Records L step) :
    Records (fun answer calls => ∃ reply, answer = reply.mapError .store ∧ L reply calls)
      (ofStore step) := by
  intro p
  obtain ⟨calls, htrace, hcalls⟩ := h p
  exact ⟨calls, htrace, _, rfl, hcalls⟩

/-- An attempt has no failure of its own, so what comes next always comes. -/
theorem Records.bind_attempt {L' : Except LoadError β → Trace → Prop}
    {next : Except ε α → Step (Probed σ) LoadError β} (h : Records L step)
    (hnext : ∀ answer calls, L answer calls →
      Records (fun answer' more => L' answer' (calls ++ more)) (next answer)) :
    Records L' (Step.attempt step >>= next) := by
  intro p
  obtain ⟨calls, htrace, hcalls⟩ := h p
  obtain ⟨more, hmore, hall⟩ := hnext _ calls hcalls (step p).2
  rw [bind_ok (attempt_apply step p)]
  refine ⟨calls ++ more, ?_, hall⟩
  rw [← List.append_assoc, ← htrace]
  exact hmore

/-- A call that is made is one more call in the trace. -/
theorem probe_records (call : CallKind) (table : String) (noRow : Except StoreError α)
    (enter : Except StoreError α → JournalEntry) (step : Step σ StoreError α) :
    Records (fun answer calls => calls = [enter answer])
      (Backend.probe [] call table noRow enter step) :=
  fun _ => ⟨[enter _], List.reverse_cons, rfl⟩

section Makes

variable {P : JournalEntry → Prop} {step : Step (Probed σ) ε α}

/-- Every call that the step makes has a property. -/
def Makes (P : JournalEntry → Prop) (step : Step (Probed σ) ε α) : Prop :=
  Records (fun _ calls => ∀ c ∈ calls, P c) step

theorem Makes.pure (a : α) : Makes (σ := σ) (ε := ε) P (pure a) := Records.pure (by simp)

theorem Makes.throw (e : ε) : Makes (σ := σ) (ε := ε) (α := α) P (throw e) :=
  Records.throw (by simp)

theorem Makes.bind {next : α → Step (Probed σ) ε β} (h : Makes P step)
    (hnext : ∀ a, Makes P (next a)) : Makes P (step >>= next) :=
  Records.bind h (fun _ _ hcalls => hcalls) fun a _ hcalls =>
    (hnext a).mono fun _ _ hmore => List.forall_mem_append.2 ⟨hcalls, hmore⟩

theorem Makes.attempt (h : Makes P step) : Makes P (Step.attempt step) := h

theorem Makes.ofStore {step : Step (Probed σ) StoreError α} (h : Makes P step) :
    Makes P (Step.ofStore step) := h

/-- A step that is one call. -/
theorem Records.makes {enter : Except ε α → JournalEntry}
    (h : Records (fun answer calls => calls = [enter answer]) step)
    (hP : ∀ answer, P (enter answer)) : Makes P step :=
  h.mono fun answer _ hcalls => hcalls ▸ List.forall_mem_singleton.2 (hP answer)

end Makes

end Step

namespace Store

variable {σ : Type} (store : Store σ)

theorem insert_records (t : TableSchema) (row : Row) :
    Step.Records (fun answer calls => calls = [.insert t.name row answer])
      (store.watched.backend.insert t row) :=
  Step.probe_records .insert t.name Backend.unnamedFailure (.insert t.name row) _

theorem find_records (t : TableSchema) (filter : Filter) :
    Step.Records (fun answer calls => calls = [.find t.name filter answer])
      (store.watched.backend.find t filter) :=
  Step.probe_records .find t.name (.ok none) (.find t.name filter) _

theorem begin_records : Step.Records (fun answer calls => calls = [.session .begin answer])
    store.watched.backend.begin :=
  Step.probe_records .begin "" Backend.unnamedFailure (.session .begin) _

theorem commit_records : Step.Records (fun answer calls => calls = [.session .commit answer])
    store.watched.backend.commit :=
  Step.probe_records .commit "" Backend.unnamedFailure (.session .commit) _

theorem rollback_records : Step.Records (fun answer calls => calls = [.session .rollback answer])
    store.watched.backend.rollback :=
  Step.probe_records .rollback "" Backend.unnamedFailure (.session .rollback) _

/-- The calls by which a row in the way is looked for are lookups by the constraints that the row
fills. -/
theorem findExisting_makes {P : JournalEntry → Prop} (t : TableSchema) (row : Row)
    {constraints : List (List String)}
    (h : ∀ columns ∈ constraints, ∀ filter ∈ constraintFilter? store.textMatch t row columns,
      ∀ answer, P (.find t.name filter answer)) :
    Step.Makes P (store.watched.findExisting t row constraints) := by
  induction constraints with
  | nil => exact .throw _
  | cons columns rest ih =>
    obtain ⟨hcolumns, hrest⟩ := List.forall_mem_cons.1 h
    have hmode : store.watched.textMatch = store.textMatch := rfl
    rw [findExisting, hmode]
    cases hfilter : constraintFilter? store.textMatch t row columns with
    | none => exact ih hrest
    | some filter =>
      have hfind := (store.find_records t filter).makes (hcolumns filter hfilter)
      refine hfind.ofStore.bind fun found => ?_
      cases found with
      | none => exact ih hrest
      | some key => exact .pure key

end Store

end Accession
