import Accession.Proofs.Load.Dialogue
import Accession.Proofs.Load.Frames

/-!
# The plan of a load

A walk keeps the keys of the rows around in stacks, which it changes on its way down and up the
tree.  The *plan* of a record tells the same load without a state: a node is given the list of the
nodes around it (`Frames`), and passes the longer list on to the nodes below.  A key that is not in
the list, of a finished node or of another record, cannot be seen.

* `visit` : the dialogue of a node and those below it at a place; `plan` : that of a record.
* `walk_enacts` : a walk does what the plan says, and leaves the stacks as they were, also when an
  upsert fails.
* `loadRecord_follows_plan` : what a record asks of a store is what its plan asks.
-/

namespace Accession.Load

open Mapping (Node Source)

/-- The value of a source at a place. -/
def valueAt (frames : Frames) (place : Place) : Source → Option Value
  | .literal value => some value
  | .tag t => (place.resolve t).map .text
  | .foreignKey table _ => (frames.key? table).map .integer
  | .deferred => none

/-- The columns of a node that have a value at a place, in the order of the bindings. -/
def rowAt (frames : Frames) (n : Node) (place : Place) : Row :=
  n.bindings.filterMap fun (column, source) => (valueAt frames place source).map (column, ·)

/-- The text that a list repeats, if it has one and no other. -/
def sole? : List String → Option String
  | [] => none
  | c :: rest => if rest.all (· = c) then some c else none

/-- The places that a node is applied to: of a record, each field of the only code that its tags
name, in document order. -/
def reach (n : Node) : Place → List Place
  | .field f => [.field f]
  | .record r =>
    match sole? (n.bindings.values.filterMap Source.fieldCode?) with
    | some code => (r.fields.filter (·.tag = code)).map .field
    | none => [.record r]

/-- Makes the row of a node at a place, and answers the frames for the nodes below. -/
def settleRow (frames : Frames) (n : Node) (place : Place) : Dialogue (Frames × Stats) :=
  match n.table with
  | none => .done (frames, .zero)
  | some table =>
    match rowAt frames n place with
    | [] => .done ((table, none) :: frames, Stats.zero.skip)
    | row => .ask table row fun u => .done ((table, some u.key) :: frames, Stats.zero.count u)

/-- The same at each of some places, one after another. -/
def forPlaces (f : Place → Dialogue Stats) : List Place → Dialogue Stats
  | [] => .done .zero
  | place :: rest => do
    let first ← f place
    let others ← forPlaces f rest
    pure (first.add others)

mutual

/-- The rows of a node and of those below it, with the nodes around. -/
def visit (frames : Frames) : Node → Place → Dialogue Stats
  | ⟨name, table, bindings, children, conflicts⟩, place =>
    let n : Node := ⟨name, table, bindings, children, conflicts⟩
    forPlaces (fun spot => do
      let (inner, own) ← settleRow frames n spot
      let below ← visitAll inner children spot
      pure (own.add below)) (reach n place)

/-- The rows of some nodes and of those below them, in order. -/
def visitAll (frames : Frames) : List (String × Node) → Place → Dialogue Stats
  | [], _ => .done .zero
  | (_, n) :: rest, place => do
    let first ← visit frames n place
    let others ← visitAll frames rest place
    pure (first.add others)

end

/-- What the load of a record wants of a store. -/
def plan (m : Mapping) (r : Record) : Dialogue Stats := visit [] m.root (.record r)

/-! ### The places of a node -/

theorem sole?_eq_some {codes : List String} {code : String} :
    sole? codes = some code ↔ code ∈ codes ∧ ∀ c ∈ codes, c = code := by
  cases codes with
  | nil => simp [sole?]
  | cons c codes =>
    rw [sole?]
    split
    · next h =>
      simp only [List.all_eq_true, decide_eq_true_eq] at h
      constructor
      · intro hc
        cases hc
        exact ⟨List.mem_cons_self, List.forall_mem_cons.2 ⟨rfl, h⟩⟩
      · rintro ⟨-, hall⟩
        rw [hall c List.mem_cons_self]
    · next h =>
      simp only [List.all_eq_true, decide_eq_true_eq] at h
      refine iff_of_false (by simp) fun hc => h fun d hd => ?_
      rw [hc.2 d (List.mem_cons_of_mem _ hd), hc.2 c List.mem_cons_self]

theorem fanOutField?_eq_sole? (n : Node) :
    n.fanOutField? = sole? (n.bindings.values.filterMap Source.fieldCode?) :=
  Option.ext fun _ => Node.fanOutField?_eq_some.trans sole?_eq_some.symm

theorem fanOut_eq_reach (n : Node) (place : Place) : n.fanOut place = reach n place := by
  rw [Node.fanOut, fanOutField?_eq_sole?]
  cases place with
  | field f => split <;> rfl
  | record r =>
    rw [reach]
    cases sole? (n.bindings.values.filterMap Source.fieldCode?) <;> rfl

variable {σ : Type} {upsert : Upsert σ} {keys : KeyStacks} {frames : Frames} {n : Node}
  {place : Place}

theorem evaluate_eq_valueAt (hk : keys.Represents frames) (source : Source) :
    source.evaluate place keys = valueAt frames place source := by
  cases source with
  | foreignKey table column => rw [Source.evaluate, hk.peek, valueAt]
  | _ => rfl

theorem values_eq_rowAt (hk : keys.Represents frames) :
    n.values place keys = rowAt frames n place := by
  simp only [Node.values, rowAt, evaluate_eq_valueAt hk]

/-! ### A walk follows the plan -/

/-- How a walk ends when a dialogue ends in some way: with the same answer and store, with the
stacks as they were, and with the rows of the dialogue added to those before. -/
structure Ends (keys : KeyStacks) (stats : Stats) (held : Except LoadError Stats × σ)
    (walked : Except LoadError Unit × State σ) : Prop where
  store : walked.2.store = held.2
  keys : walked.2.keys = keys
  answer : walked.1 = held.1.map fun _ => ()
  stats : ∀ own, held.1 = .ok own → walked.2.stats = stats.add own

/-- With some keys around, and whatever was loaded before, the step does what the dialogue says. -/
def Enacts (upsert : Upsert σ) (keys : KeyStacks) (step : Step (State σ) LoadError Unit)
    (d : Dialogue Stats) : Prop :=
  ∀ s stats, Ends keys stats (d.run upsert s) (step ⟨s, keys, stats⟩)

theorem Ends.eq_of_ok {stats own : Stats} {s : σ} {walked : Except LoadError Unit × State σ}
    (h : Ends keys stats (.ok own, s) walked) : walked = (.ok (), ⟨s, keys, stats.add own⟩) := by
  obtain ⟨answer, store, keys', stats'⟩ := walked
  have hanswer : answer = .ok () := h.answer
  have hstore : store = s := h.store
  have hkeys : keys' = keys := h.keys
  have hstats : stats' = stats.add own := h.stats own rfl
  rw [hanswer, hstore, hkeys, hstats]

theorem Enacts.done : Enacts upsert keys (pure ()) (.done .zero) := fun _ _ =>
  ⟨rfl, rfl, rfl, fun _ h => by cases h; rfl⟩

theorem Enacts.seq {step step' : Step (State σ) LoadError Unit} {d d' : Dialogue Stats}
    (h : Enacts upsert keys step d) (h' : Enacts upsert keys step' d') :
    Enacts upsert keys (step >>= fun _ => step') (do
      let first ← d
      let others ← d'
      pure (first.add others)) := by
  intro s stats
  have he := h s stats
  rw [Dialogue.run_bind]
  rcases hd : d.run upsert s with ⟨e | first, s'⟩
  -- an error of the first step is the error of both
  · rw [hd] at he
    have hs : step ⟨s, keys, stats⟩ = (.error e, (step ⟨s, keys, stats⟩).2) :=
      Prod.ext he.answer rfl
    rw [Step.bind_error hd, Step.bind_error hs]
    exact ⟨he.store, he.keys, rfl, fun _ h => by cases h⟩
  · rw [hd] at he
    have he' := h' s' (stats.add first)
    rw [Step.bind_ok hd, Step.bind_ok he.eq_of_ok, Dialogue.run_bind]
    rcases hd' : d'.run upsert s' with ⟨e | others, s''⟩
    · rw [hd'] at he'
      rw [Step.bind_error hd']
      exact ⟨he'.store, he'.keys, he'.answer, fun _ h => by cases h⟩
    · rw [hd'] at he'
      rw [Step.bind_ok hd']
      refine ⟨he'.store, he'.keys, he'.answer, fun own hown => ?_⟩
      cases hown
      rw [he'.stats others rfl, Stats.add_assoc]

theorem Enacts.forPlaces {step : Place → Step (State σ) LoadError Unit}
    {f : Place → Dialogue Stats} (h : ∀ place, Enacts upsert keys (step place) (f place))
    (places : List Place) : Enacts upsert keys (places.forM step) (forPlaces f places) := by
  induction places with
  | nil => exact Enacts.done
  | cons place rest ih => exact (h place).seq ih

/-- The key that is entered is left again, whatever happens in between. -/
theorem Enacts.within {step : Step (State σ) LoadError Unit} {d : Dialogue Stats}
    {table : Option String} {key : Option Key}
    (h : Enacts upsert (keys.enter table key) step d) :
    Enacts upsert keys (within table key step) d := by
  intro s stats
  obtain ⟨hstore, hkeys, hanswer, hstats⟩ := h s stats
  refine ⟨hstore, ?_, hanswer, hstats⟩
  change (step ⟨s, keys.enter table key, stats⟩).2.keys.leave table = keys
  rw [hkeys, KeyStacks.leave_enter]

/-- Rows that were counted before the step count for the dialogue as well. -/
theorem Enacts.counted {step : Step (State σ) LoadError Unit} {d : Dialogue Stats}
    (h : Enacts upsert keys step d) (own : Stats) (s : σ) (stats : Stats) :
    Ends keys stats ((do let rest ← d; pure (own.add rest) : Dialogue Stats).run upsert s)
      (step ⟨s, keys, stats.add own⟩) := by
  have he := h s (stats.add own)
  rw [Dialogue.run_bind]
  rcases hd : d.run upsert s with ⟨e | rest, s'⟩
  · rw [hd] at he
    rw [Step.bind_error hd]
    exact ⟨he.store, he.keys, he.answer, fun _ h => by cases h⟩
  · rw [hd] at he
    rw [Step.bind_ok hd]
    refine ⟨he.store, he.keys, he.answer, fun all hall => ?_⟩
    cases hall
    rw [he.stats rest rfl, Stats.add_assoc]

theorem row?_eq_rowAt {table : String} (hk : keys.Represents frames) (ht : n.table = some table)
    (place : Place) : n.row? place keys =
      if rowAt frames n place = [] then none else some (rowAt frames n place) := by
  rw [Node.row?, ht, values_eq_rowAt hk]
  cases rowAt frames n place <;> rfl

/-- What the load of a row has to do with a row that the plan settles: they fail alike, or the key
of the row is that of the new frame. -/
def Loads (upsert : Upsert σ) (keys : KeyStacks) (stats : Stats) (n : Node) (place : Place)
    (s : σ) : Except LoadError (Frames × Stats) × σ → Prop
  | (.ok (inner, own), s') =>
    ∃ key, loadRow upsert n place ⟨s, keys, stats⟩ = (.ok key, ⟨s', keys, stats.add own⟩) ∧
      (keys.enter n.table key).Represents inner
  | (.error e, s') => loadRow upsert n place ⟨s, keys, stats⟩ = (.error e, ⟨s', keys, stats⟩)

theorem loadRow_loads (upsert : Upsert σ) (hk : keys.Represents frames) (n : Node)
    (place : Place) (s : σ) (stats : Stats) :
    Loads upsert keys stats n place s ((settleRow frames n place).run upsert s) := by
  cases ht : n.table with
  | none =>
    rw [settleRow, ht]
    exact ⟨none, loadRow_of_no_table ht, by rw [ht]; exact hk⟩
  | some table =>
    have hrow := row?_eq_rowAt hk ht place
    simp only [settleRow, ht]
    split
    · next hnone =>
      rw [if_pos hnone] at hrow
      exact ⟨none, loadRow_of_no_row ht hrow, by rw [ht]; exact hk.push table none⟩
    · next hsome =>
      rw [if_neg hsome] at hrow
      rcases hu : upsert table (rowAt frames n place) s with ⟨e | u, store⟩
      · rw [Dialogue.run_ask_error hu]
        exact loadRow_of_error ht hrow hu
      · rw [Dialogue.run_ask_ok hu]
        refine ⟨some u.key, ?_, by rw [ht]; exact hk.push table (some u.key)⟩
        rw [Stats.add_count]
        exact loadRow_of_ok ht hrow hu

/-- The row of a node and then the nodes below, which see the frame of the row. -/
theorem Enacts.row {below : Step (State σ) LoadError Unit} {inside : Frames → Dialogue Stats}
    (hk : keys.Represents frames)
    (h : ∀ {keys' frames'}, keys'.Represents frames' →
      Enacts upsert keys' below (inside frames')) :
    Enacts upsert keys (do
        let key ← loadRow upsert n place
        Load.within n.table key below) (do
        let (inner, own) ← settleRow frames n place
        let rest ← inside inner
        pure (own.add rest)) := by
  intro s stats
  have hloads := loadRow_loads upsert hk n place s stats
  rw [Dialogue.run_bind]
  -- the row is settled with the nodes around, and those below see its frame as well
  rcases hd : (settleRow frames n place).run upsert s with ⟨e | ⟨inner, own⟩, s'⟩
  · rw [hd] at hloads
    rw [Step.bind_error hd, Step.bind_error hloads]
    exact ⟨rfl, rfl, rfl, fun _ h => by cases h⟩
  · rw [hd] at hloads
    obtain ⟨key, hload, hinner⟩ := hloads
    rw [Step.bind_ok hd, Step.bind_ok hload]
    exact (h hinner).within.counted own s' stats

mutual

/-- **A walk enacts the plan**, and leaves the stacks as they were. -/
theorem walk_enacts (upsert : Upsert σ) {keys : KeyStacks} {frames : Frames}
    (hk : keys.Represents frames) :
    (n : Node) → (place : Place) → Enacts upsert keys (walk upsert n place) (visit frames n place)
  | ⟨name, table, bindings, children, conflicts⟩, place => by
    rw [walk, visit, fanOut_eq_reach]
    exact Enacts.forPlaces (fun spot => Enacts.row hk fun hk' =>
      walkChildren_enacts upsert hk' children spot) _

theorem walkChildren_enacts (upsert : Upsert σ) {keys : KeyStacks} {frames : Frames}
    (hk : keys.Represents frames) :
    (children : List (String × Node)) → (place : Place) →
      Enacts upsert keys (walkChildren upsert children place) (visitAll frames children place)
  | [], _ => by
    rw [walkChildren, visitAll]
    exact Enacts.done
  | (_, n) :: rest, place => by
    rw [walkChildren, visitAll]
    exact (walk_enacts upsert hk n place).seq (walkChildren_enacts upsert hk rest place)

end

theorem loadRecordBy_eq_run (upsert : Upsert σ) (m : Mapping) (r : Record) (s : σ) :
    loadRecordBy upsert m r s = (plan m r).run upsert s := by
  have he := walk_enacts upsert KeyStacks.represents_empty m.root (.record r) s .zero
  change ((walk upsert m.root (.record r) ⟨s, .empty, .zero⟩).1.map fun _ =>
    (walk upsert m.root (.record r) ⟨s, .empty, .zero⟩).2.stats,
    (walk upsert m.root (.record r) ⟨s, .empty, .zero⟩).2.store) = _
  rw [he.answer, he.store, plan]
  rcases hd : (visit [] m.root (.record r)).run upsert s with ⟨e | own, s'⟩
  · rfl
  · rw [he.stats own (by rw [hd]), Stats.zero_add]
    rfl

theorem walk_keys (upsert : Upsert σ) (n : Node) (place : Place) (s : State σ) :
    (walk upsert n place s).2.keys = s.keys := by
  -- the stacks need not come from a walk: any stacks represent some nodes around
  obtain ⟨frames, hk⟩ := s.keys.exists_represents
  exact (walk_enacts upsert hk n place s.store s.stats).keys

/-- What the load of a record asks of a store, in order. -/
def asked (store : Store σ) (m : Mapping) (r : Record) (s : σ) : List Asked :=
  (loadRecordBy (journaled store.upsert) m r (s, [])).2.2

theorem asked_eq_calls (store : Store σ) (m : Mapping) (r : Record) (s : σ) :
    asked store m r s = (plan m r).calls store.upsert s := by
  rw [asked, loadRecordBy_eq_run, Dialogue.run_journaled]
  rfl

theorem loadRecord_eq_run (store : Store σ) (m : Mapping) (r : Record) (s : σ) :
    loadRecord store m r s = (plan m r).run store.upsert s :=
  loadRecordBy_eq_run _ _ _ _

/-- **The load of a record follows its plan.**  Whatever the backend, keeping a journal changes
nothing about a load, and the journal holds what the plan asks when it is given the answers that
the store gives; the load ends as the plan does, at the first error if there is one.  Any walk,
from any stacks and however it ends, leaves the stacks as they were. -/
theorem loadRecord_follows_plan (store : Store σ) (m : Mapping) (r : Record) (s : σ) :
    loadRecordBy (journaled store.upsert) m r (s, []) =
        ((loadRecord store m r s).1, ((loadRecord store m r s).2, asked store m r s)) ∧
      asked store m r s = (plan m r).calls store.upsert s ∧
      loadRecord store m r s = (plan m r).run store.upsert s ∧
      Dialogue.Stops (asked store m r s) (loadRecord store m r s).1 ∧
      ∀ n place s', (walk store.upsert n place s').2.keys = s'.keys := by
  have hrun := loadRecord_eq_run store m r s
  have hasked := asked_eq_calls store m r s
  refine ⟨?_, hasked, hrun, ?_, fun n place s' => walk_keys _ n place s'⟩
  · rw [loadRecordBy_eq_run, Dialogue.run_journaled, hrun, hasked]
    rfl
  · rw [hrun, hasked]
    exact Dialogue.calls_stop _ _

end Accession.Load
