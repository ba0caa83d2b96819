import Accession.Load.Row
import Accession.Mapping.Scope
import Accession.Store.Upsert

/-!
# Loading a record

The nodes of a mapping are walked together with a record.  A node is applied to each of its places
in turn: its row is merged or inserted, the key is entered for the nodes below, these are walked in
order, and the key is left again, also when a node below fails.

All that a walk needs of a store is an `Upsert`, and it is given nothing else.

* `Load.walk` : a node and those below it, at a place.
* `Load.loadRecord` : a record, from the root of a mapping and with no rows around.
-/

namespace Accession.Load

open Mapping (Node)

/-- What became of the rows of a load. -/
structure Stats where
  /-- Rows that were inserted. -/
  created : Nat
  /-- Rows that were already there. -/
  reused : Nat
  /-- Places where a node with a table made no row. -/
  skipped : Nat
  deriving DecidableEq, Repr

namespace Stats

/-- No rows. -/
def zero : Stats := ⟨0, 0, 0⟩

/-- The rows of two loads. -/
def add (s t : Stats) : Stats :=
  ⟨s.created + t.created, s.reused + t.reused, s.skipped + t.skipped⟩

/-- One more row, new or not. -/
def count (s : Stats) (u : Upserted) : Stats :=
  if u.created then { s with created := s.created + 1 } else { s with reused := s.reused + 1 }

/-- One more place without a row. -/
def skip (s : Stats) : Stats := { s with skipped := s.skipped + 1 }

@[simp] theorem zero_add (s : Stats) : zero.add s = s := by simp [add, zero]

theorem add_assoc (s t u : Stats) : (s.add t).add u = s.add (t.add u) := by
  simp [add, Nat.add_assoc]

theorem add_count (s : Stats) (u : Upserted) : s.add (zero.count u) = s.count u := by
  unfold count
  split <;> simp [add, zero]

end Stats

/-- The state of a walk: that of the backend, the keys of the rows around, and what became of the
rows so far. -/
structure State (σ : Type) where
  store : σ
  keys : KeyStacks
  stats : Stats

variable {σ : Type}

/-- A way to make sure that a table holds a row. -/
abbrev Upsert (σ : Type) := String → Row → Step σ LoadError Upserted

/-- A step of the store as a step of a walk. -/
def onStore {α : Type} (step : Step σ LoadError α) : Step (State σ) LoadError α :=
  ExceptT.mk fun s =>
    let (answer, store) := step s.store
    (answer, { s with store := store })

/-- Changes what is known of the rows. -/
def tally (f : Stats → Stats) : Step (State σ) LoadError Unit :=
  ExceptT.mk fun s => (.ok (), { s with stats := f s.stats })

/-- The keys of the rows around. -/
def around : Step (State σ) LoadError KeyStacks := ExceptT.mk fun s => (.ok s.keys, s)

/-- Runs a step with an entry for a node, and removes the entry afterwards, also if the step
fails. -/
def within (table : Option String) (key : Option Key) (step : Step (State σ) LoadError Unit) :
    Step (State σ) LoadError Unit :=
  ExceptT.mk fun s =>
    let (answer, s) := step { s with keys := s.keys.enter table key }
    (answer, { s with keys := s.keys.leave table })

/-- Merges or inserts the row of a node at a place, and answers its key, if there is a row. -/
def loadRow (upsert : Upsert σ) (n : Node) (place : Place) :
    Step (State σ) LoadError (Option Key) :=
  match n.table with
  | none => pure none
  | some table => do
    match n.row? place (← around) with
    | none => do
      tally Stats.skip
      pure none
    | some row => do
      let u ← onStore (upsert table row)
      tally (·.count u)
      pure (some u.key)

section LoadRow

variable {upsert : Upsert σ} {n : Node} {place : Place} {table : String} {row : Row} {s : State σ}
  {store : σ}

theorem around_apply (s : State σ) : around s = (.ok s.keys, s) := rfl

theorem onStore_apply {α : Type} (step : Step σ LoadError α) (s : State σ) :
    onStore step s = ((step s.store).1, { s with store := (step s.store).2 }) := rfl

theorem loadRow_of_no_table (ht : n.table = none) : loadRow upsert n place s = (.ok none, s) := by
  rw [loadRow, ht]
  rfl

theorem loadRow_of_no_row (ht : n.table = some table) (hr : n.row? place s.keys = none) :
    loadRow upsert n place s = (.ok none, { s with stats := s.stats.skip }) := by
  simp only [loadRow, ht]
  rw [Step.bind_ok (around_apply s), hr]
  rfl

theorem loadRow_of_ok {u : Upserted} (ht : n.table = some table)
    (hr : n.row? place s.keys = some row) (hu : upsert table row s.store = (.ok u, store)) :
    loadRow upsert n place s =
      (.ok (some u.key), { s with store := store, stats := s.stats.count u }) := by
  have hs : onStore (upsert table row) s = (.ok u, { s with store := store }) := by
    rw [onStore_apply, hu]
  simp only [loadRow, ht]
  rw [Step.bind_ok (around_apply s), hr]
  dsimp only
  rw [Step.bind_ok hs]
  rfl

theorem loadRow_of_error {e : LoadError} (ht : n.table = some table)
    (hr : n.row? place s.keys = some row) (hu : upsert table row s.store = (.error e, store)) :
    loadRow upsert n place s = (.error e, { s with store := store }) := by
  have hs : onStore (upsert table row) s = (.error e, { s with store := store }) := by
    rw [onStore_apply, hu]
  simp only [loadRow, ht]
  rw [Step.bind_ok (around_apply s), hr]
  dsimp only
  rw [Step.bind_error hs]

end LoadRow

mutual

/-- Loads the rows of a node and of those below it, at a place. -/
def walk (upsert : Upsert σ) : Node → Place → Step (State σ) LoadError Unit
  | ⟨name, table, bindings, children, conflicts⟩, place =>
    let n : Node := ⟨name, table, bindings, children, conflicts⟩
    -- an occurrence is finished, with all nodes below, before the next one
    (n.fanOut place).forM fun occurrence => do
      let key ← loadRow upsert n occurrence
      within table key (walkChildren upsert children occurrence)

/-- Loads the rows of the nodes below a node, in order. -/
def walkChildren (upsert : Upsert σ) :
    List (String × Node) → Place → Step (State σ) LoadError Unit
  | [], _ => pure ()
  | (_, n) :: rest, place => do
    walk upsert n place
    walkChildren upsert rest place

end

/-- Loads a record by an upsert, and tells what became of its rows. -/
def loadRecordBy (upsert : Upsert σ) (m : Mapping) (r : Record) : Step σ LoadError Stats :=
  ExceptT.mk fun s =>
    let (answer, s) := walk upsert m.root (.record r) ⟨s, .empty, .zero⟩
    (answer.map fun _ => s.stats, s.store)

/-- Loads a record into a store. -/
def loadRecord (store : Store σ) (m : Mapping) (r : Record) : Step σ LoadError Stats :=
  loadRecordBy store.upsert m r

end Accession.Load
