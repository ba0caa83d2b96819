import Accession.Proofs.Load.Alike
import Accession.Proofs.Load.Tour

/-!
# Visits

A walk that notes where it comes.  At each place that a node is applied to, before the row of the
node, it notes the node and the place, the keys that the node sees, and the nodes around with the
keys of their rows.

* `walkNoting` : the walk of `Load.walk` with notes; `walkNoting_alike` : apart from the notes it is
  the same.
* `Visit.Sound` : the stacks hold the keys of the nodes around, and a node around has no key exactly
  if it made no row.
* `walkNoting_tours` : the visits are sound, and go along the tour of the mapping, which an error
  only cuts short.
-/

namespace Accession.Load

open Mapping (Node Trail)

/-- A node around: where it was applied, with the keys that it saw and the key of its row. -/
structure Level where
  key : String
  node : Node
  place : Place
  keys : KeyStacks
  row : Option Key

/-- A node is applied to a place, with the keys that it sees and the nodes around, the nearest
first. -/
structure Visit where
  key : String
  node : Node
  place : Place
  keys : KeyStacks
  outer : List Level

namespace Level

/-- There is no key exactly if the node made no row. -/
def Settled (l : Level) : Prop := l.row = none ↔ l.node.row? l.place l.keys = none

/-- The nodes around that have a table, with the keys of their rows. -/
def frames (outer : List Level) : Frames := outer.filterMap fun l => l.node.table.map (·, l.row)

end Level

namespace Visit

/-- The way to the node. -/
def trail (v : Visit) : Trail := ⟨v.key, v.node, v.outer.map fun l => (l.key, l.node)⟩

/-- The node and the place. -/
def spot (v : Visit) : Trail × Place := (v.trail, v.place)

/-- The keys are those of the nodes around. -/
structure Sound (v : Visit) : Prop where
  keys : v.keys.Represents (Level.frames v.outer)
  settled : ∀ l ∈ v.outer, l.Settled

end Visit

variable {σ : Type}

/-- The upsert of a store with notes beside it. -/
def beside (upsert : Upsert σ) : Upsert (σ × List Visit) := fun table row =>
  ExceptT.mk fun s =>
    let (answer, store) := upsert table row s.1
    (answer, (store, s.2))

/-- Notes that a node is applied to a place, and answers the keys that it sees. -/
def note (outer : List Level) (key : String) (n : Node) (place : Place) :
    Step (State (σ × List Visit)) LoadError KeyStacks :=
  ExceptT.mk fun s =>
    (.ok s.keys, { s with store := (s.store.1, s.store.2 ++ [⟨key, n, place, s.keys, outer⟩]) })

mutual

/-- Loads the rows of a node and of those below it, at a place, and notes the visits. -/
def walkNoting (upsert : Upsert σ) (outer : List Level) (key : String) :
    Node → Place → Step (State (σ × List Visit)) LoadError Unit
  | ⟨name, table, bindings, children, conflicts⟩, place =>
    let n : Node := ⟨name, table, bindings, children, conflicts⟩
    (n.fanOut place).forM fun occurrence => do
      let keys ← note outer key n occurrence
      let row ← loadRow (beside upsert) n occurrence
      within table row
        (walkNotingBelow upsert (⟨key, n, occurrence, keys, row⟩ :: outer) children occurrence)

/-- The same for the nodes below a node, in order. -/
def walkNotingBelow (upsert : Upsert σ) (outer : List Level) :
    List (String × Node) → Place → Step (State (σ × List Visit)) LoadError Unit
  | [], _ => pure ()
  | (key, n) :: rest, place => do
    walkNoting upsert outer key n place
    walkNotingBelow upsert outer rest place

end

/-! ### Notes change nothing -/

/-- The state without the notes. -/
def State.plain (s : State (σ × List Visit)) : State σ := ⟨s.store.1, s.keys, s.stats⟩

/-- A step with notes does what the other does. -/
abbrev Plainly {α : Type} (step : Step (State (σ × List Visit)) LoadError α)
    (step' : Step (State σ) LoadError α) : Prop :=
  Step.Alike (fun s s' => s.plain = s') step step'

section Plain

variable {α : Type} {upsert : Upsert σ} {n : Node} {place : Place}

theorem around_plainly : Plainly (around (σ := σ × List Visit)) around := by
  rintro s _ rfl
  exact ⟨rfl, rfl⟩

theorem tally_plainly (f : Stats → Stats) : Plainly (σ := σ) (tally f) (tally f) := by
  rintro s _ rfl
  exact ⟨rfl, rfl⟩

theorem beside_plainly (table : String) (row : Row) :
    Plainly (onStore (beside upsert table row)) (onStore (upsert table row)) := by
  rintro s _ rfl
  exact ⟨rfl, rfl⟩

theorem loadRow_plainly (n : Node) (place : Place) :
    Plainly (loadRow (beside upsert) n place) (loadRow upsert n place) := by
  unfold loadRow
  cases n.table with
  | none => exact .pure none
  | some table =>
    refine around_plainly.bind fun keys => ?_
    cases n.row? place keys with
    | none => exact (tally_plainly _).bind fun _ => .pure none
    | some row =>
      exact (beside_plainly table row).bind fun u => (tally_plainly _).bind fun _ => .pure _

theorem within_plainly {step : Step (State (σ × List Visit)) LoadError Unit}
    {step' : Step (State σ) LoadError Unit} (h : Plainly step step') (table : Option String)
    (key : Option Key) : Plainly (within table key step) (within table key step') := by
  rintro s _ rfl
  obtain ⟨hanswer, hstate⟩ := h { s with keys := s.keys.enter table key } _ rfl
  refine ⟨hanswer, ?_⟩
  exact congrArg (fun s : State σ => { s with keys := s.keys.leave table }) hstate

/-- A note is of no account for what follows. -/
theorem note_plainly {outer : List Level} {key : String}
    {next : KeyStacks → Step (State (σ × List Visit)) LoadError α}
    {next' : Step (State σ) LoadError α} (h : ∀ keys, Plainly (next keys) next') :
    Plainly (note outer key n place >>= next) next' := by
  rintro s _ rfl
  rw [Step.bind_apply]
  exact h s.keys _ _ rfl

theorem forM_plainly {places : List Place}
    {step : Place → Step (State (σ × List Visit)) LoadError Unit}
    {step' : Place → Step (State σ) LoadError Unit}
    (h : ∀ place, Plainly (step place) (step' place)) :
    Plainly (places.forM step) (places.forM step') := by
  induction places with
  | nil => exact .pure ()
  | cons place rest ih => exact (h place).bind fun _ => ih

end Plain

mutual

/-- **Notes change nothing** about a walk. -/
theorem walkNoting_plainly (upsert : Upsert σ) (outer : List Level) (key : String) :
    (n : Node) → (place : Place) →
      Plainly (walkNoting upsert outer key n place) (walk upsert n place)
  | ⟨name, table, bindings, children, conflicts⟩, place => by
    rw [walkNoting, walk]
    exact forM_plainly fun spot => note_plainly fun keys => (loadRow_plainly _ spot).bind fun row =>
      within_plainly (walkNotingBelow_plainly upsert _ children spot) table row

theorem walkNotingBelow_plainly (upsert : Upsert σ) (outer : List Level) :
    (children : List (String × Node)) → (place : Place) →
      Plainly (walkNotingBelow upsert outer children place) (walkChildren upsert children place)
  | [], _ => by
    rw [walkNotingBelow, walkChildren]
    exact .pure ()
  | (_, n) :: rest, place => by
    rw [walkNotingBelow, walkChildren]
    exact (walkNoting_plainly upsert outer _ n place).bind fun _ =>
      walkNotingBelow_plainly upsert outer rest place

end

/-! ### Where a walk comes -/

section Tours

variable {upsert : Upsert σ} {keys : KeyStacks} {spots spots' : List (Trail × Place)}

/-- How a walk ends: with the keys that it began with, and with new notes, which are sound and go
along a tour, to its end unless the walk failed. -/
structure Ended (keys : KeyStacks) (before : List Visit) (spots : List (Trail × Place))
    (reached : Except LoadError Unit × State (σ × List Visit)) : Prop where
  keys : reached.2.keys = keys
  visits : ∃ seen, reached.2.store.2 = before ++ seen ∧ (∀ v ∈ seen, v.Sound) ∧
    seen.map Visit.spot <+: spots ∧ (reached.1 = .ok () → seen.map Visit.spot = spots)

/-- With these keys around, the step goes along the tour. -/
def Tours (keys : KeyStacks) (step : Step (State (σ × List Visit)) LoadError Unit)
    (spots : List (Trail × Place)) : Prop :=
  ∀ s, s.keys = keys → Ended keys s.store.2 spots (step s)

theorem Tours.done : Tours (σ := σ) keys (pure ()) [] := fun s hs =>
  ⟨hs, [], (List.append_nil _).symm, by simp, List.prefix_rfl, fun _ => rfl⟩

theorem Tours.seq {step step' : Step (State (σ × List Visit)) LoadError Unit}
    (h : Tours keys step spots) (h' : Tours keys step' spots') :
    Tours keys (step >>= fun _ => step') (spots ++ spots') := by
  intro s hs
  obtain ⟨hkeys, seen, hseen, hsound, halong, hall⟩ := h s hs
  rw [Step.bind_apply]
  rcases hreached : step s with ⟨e | _, s'⟩
  · rw [hreached] at hkeys hseen
    refine ⟨hkeys, seen, hseen, hsound, halong.trans (List.prefix_append _ _), fun hok => ?_⟩
    cases hok
  · rw [hreached] at hkeys hseen hall
    obtain ⟨hkeys', seen', hseen', hsound', halong', hall'⟩ := h' s' hkeys
    have hfirst := hall rfl
    refine ⟨hkeys', seen ++ seen', ?_, List.forall_mem_append.2 ⟨hsound, hsound'⟩, ?_,
      fun hok => ?_⟩
    · rw [hseen', hseen, List.append_assoc]
    · rw [List.map_append, hfirst]
      exact (List.prefix_append_right_inj spots).2 halong'
    · rw [List.map_append, hfirst, hall' hok]

theorem Tours.forPlaces {step : Place → Step (State (σ × List Visit)) LoadError Unit}
    {f : Place → List (Trail × Place)} (h : ∀ place, Tours keys (step place) (f place))
    (places : List Place) : Tours keys (places.forM step) (places.flatMap f) := by
  induction places with
  | nil => exact Tours.done
  | cons place rest ih => exact (h place).seq ih

theorem Tours.within {step : Step (State (σ × List Visit)) LoadError Unit} {table : Option String}
    {key : Option Key} (h : Tours (keys.enter table key) step spots) :
    Tours keys (within table key step) spots := by
  intro s hs
  obtain ⟨hkeys, hvisits⟩ := h { s with keys := s.keys.enter table key } (by rw [hs])
  refine ⟨?_, hvisits⟩
  change (step _).2.keys.leave table = keys
  rw [hkeys, KeyStacks.leave_enter]

theorem beside_apply (table : String) (row : Row) (s : σ × List Visit) :
    beside upsert table row s =
      ((upsert table row s.1).1, ((upsert table row s.1).2, s.2)) := rfl

/-- All that the load of a row can do: it notes nothing and leaves the keys, and if it answers,
there is no key exactly if there is no row. -/
theorem loadRow_beside (upsert : Upsert σ) (n : Node) (place : Place)
    (s : State (σ × List Visit)) :
    ∃ answer s', loadRow (beside upsert) n place s = (answer, s') ∧ s'.keys = s.keys ∧
      s'.store.2 = s.store.2 ∧
      ∀ row, answer = .ok row → (row = none ↔ n.row? place s.keys = none) := by
  cases ht : n.table with
  | none =>
    refine ⟨_, _, loadRow_of_no_table ht, rfl, rfl, fun row hrow => ?_⟩
    cases hrow
    simp [Node.row?, ht]
  | some table =>
    cases hr : n.row? place s.keys with
    | none =>
      refine ⟨_, _, loadRow_of_no_row ht hr, rfl, rfl, fun row hrow => ?_⟩
      cases hrow
      simp
    | some row =>
      rcases hu : upsert table row s.store.1 with ⟨e | u, store⟩
      · have hbeside : beside upsert table row s.store = (.error e, (store, s.store.2)) := by
          rw [beside_apply, hu]
        refine ⟨_, _, loadRow_of_error ht hr hbeside, rfl, rfl, fun row hrow => ?_⟩
        cases hrow
      · have hbeside : beside upsert table row s.store = (.ok u, (store, s.store.2)) := by
          rw [beside_apply, hu]
        refine ⟨_, _, loadRow_of_ok ht hr hbeside, rfl, rfl, fun row hrow => ?_⟩
        cases hrow
        simp

variable {outer : List Level} {key : String} {n : Node} {place : Place}

/-- A node notes a sound visit, and goes on to the nodes below it with the key of its row. -/
theorem Tours.node {below : KeyStacks → Option Key → Step (State (σ × List Visit)) LoadError Unit}
    (hk : keys.Represents (Level.frames outer)) (hsettled : ∀ l ∈ outer, l.Settled)
    (h : ∀ row, Level.Settled ⟨key, n, place, keys, row⟩ →
      Tours (keys.enter n.table row) (below keys row) spots) :
    Tours keys (do
        let keys ← note outer key n place
        let row ← loadRow (beside upsert) n place
        Load.within n.table row (below keys row))
      ((⟨key, n, outer.map fun l => (l.key, l.node)⟩, place) :: spots) := by
  rintro s rfl
  have hnote : note outer key n place s = (.ok s.keys,
      { s with store := (s.store.1, s.store.2 ++ [⟨key, n, place, s.keys, outer⟩]) }) := rfl
  rw [Step.bind_ok hnote]
  obtain ⟨answer, s', hload, hkeys, hnotes, hrow⟩ := loadRow_beside upsert n place
    { s with store := (s.store.1, s.store.2 ++ [⟨key, n, place, s.keys, outer⟩]) }
  have hvisit : Visit.Sound ⟨key, n, place, s.keys, outer⟩ := ⟨hk, hsettled⟩
  cases answer with
  | error e =>
    rw [Step.bind_error hload]
    refine ⟨hkeys, [⟨key, n, place, s.keys, outer⟩], hnotes, List.forall_mem_singleton.2 hvisit, ?_,
      fun hok => ?_⟩
    · exact List.cons_prefix_cons.2 ⟨rfl, List.nil_prefix⟩
    · cases hok
  | ok row =>
    rw [Step.bind_ok hload]
    obtain ⟨hkeys', seen, hseen, hsound, halong, hall⟩ := (h row (hrow row rfl)).within s' hkeys
    refine ⟨hkeys', ⟨key, n, place, s.keys, outer⟩ :: seen, ?_,
      List.forall_mem_cons.2 ⟨hvisit, hsound⟩, List.cons_prefix_cons.2 ⟨rfl, halong⟩,
      fun hok => ?_⟩
    · rw [hseen, hnotes, List.append_assoc]
      rfl
    · exact congrArg (_ :: ·) (hall hok)

theorem represents_level (hk : keys.Represents (Level.frames outer)) (key : String) (n : Node)
    (place : Place) (row : Option Key) :
    (keys.enter n.table row).Represents (Level.frames (⟨key, n, place, keys, row⟩ :: outer)) := by
  rw [Level.frames, List.filterMap_cons]
  dsimp only
  cases n.table with
  | none => exact hk
  | some table => exact hk.push table row

end Tours

mutual

/-- **A walk goes along the tour of its tree**, and notes sound visits. -/
theorem walkNoting_tours (upsert : Upsert σ) {keys : KeyStacks} {outer : List Level} (key : String)
    (hk : keys.Represents (Level.frames outer)) (hsettled : ∀ l ∈ outer, l.Settled) :
    (n : Node) → (place : Place) → Tours keys (walkNoting upsert outer key n place)
      (tour (outer.map fun l => (l.key, l.node)) key n place)
  | ⟨name, table, bindings, children, conflicts⟩, place => by
    rw [walkNoting, tour]
    refine Tours.forPlaces (fun spot => Tours.node hk hsettled fun row hrow => ?_) _
    exact walkNotingBelow_tours upsert (represents_level hk key _ spot row)
      (List.forall_mem_cons.2 ⟨hrow, hsettled⟩) children spot

theorem walkNotingBelow_tours (upsert : Upsert σ) {keys : KeyStacks} {outer : List Level}
    (hk : keys.Represents (Level.frames outer)) (hsettled : ∀ l ∈ outer, l.Settled) :
    (children : List (String × Node)) → (place : Place) →
      Tours keys (walkNotingBelow upsert outer children place)
        (tourBelow (outer.map fun l => (l.key, l.node)) children place)
  | [], _ => by
    rw [walkNotingBelow, tourBelow]
    exact Tours.done
  | (key, n) :: rest, place => by
    rw [walkNotingBelow, tourBelow]
    exact (walkNoting_tours upsert key hk hsettled n place).seq
      (walkNotingBelow_tours upsert hk hsettled rest place)

end

end Accession.Load
