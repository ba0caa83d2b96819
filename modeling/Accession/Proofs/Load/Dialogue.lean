import Accession.Load.Walk

/-!
# Dialogues with a store

What a load wants of a store can be told without a store: a `Dialogue` ends with a value, or asks
that a table hold a row and goes on with what became of the row.  It is finite, and all it learns
are the keys that it is given.

* `Dialogue.run` : the dialogue held with an upsert.  The first error ends it.
* `Dialogue.calls` : what is asked on the way, each with its answer.
* `journaled` : an upsert that notes what it is asked.  The journal of a dialogue is `calls`
  (`Dialogue.run_journaled`).
* `Dialogue.calls_stop` : only the last answer can be an error, and it is one exactly when the
  dialogue ends in that error.
-/

namespace Accession.Load

/-- What is wanted of a store, and what is made of its answers. -/
inductive Dialogue (α : Type) where
  /-- Nothing more is wanted. -/
  | done (value : α)
  /-- A table is to hold a row; the rest depends on what becomes of it. -/
  | ask (table : String) (row : Row) (next : Upserted → Dialogue α)

/-- A table was asked to hold a row, and what came of it. -/
structure Asked where
  table : String
  row : Row
  answer : Except LoadError Upserted

/-- The upsert with a journal of what it is asked, in order. -/
def journaled {σ : Type} (upsert : Upsert σ) : Upsert (σ × List Asked) := fun table row =>
  ExceptT.mk fun s =>
    let (answer, store) := upsert table row s.1
    (answer, (store, s.2 ++ [⟨table, row, answer⟩]))

namespace Dialogue

variable {σ α β : Type}

/-- One dialogue after another. -/
def bind : Dialogue α → (α → Dialogue β) → Dialogue β
  | done value, f => f value
  | ask table row next, f => ask table row fun u => (next u).bind f

instance : Monad Dialogue where
  pure := done
  bind := bind

/-- The dialogue held with an upsert. -/
def run (upsert : Upsert σ) : Dialogue α → Step σ LoadError α
  | done value => pure value
  | ask table row next => do
    let u ← upsert table row
    (next u).run upsert

/-- What an upsert is asked when the dialogue is held from a state on. -/
def calls (upsert : Upsert σ) : Dialogue α → σ → List Asked
  | done _, _ => []
  | ask table row next, s =>
    match upsert table row s with
    | (.ok u, s') => ⟨table, row, .ok u⟩ :: (next u).calls upsert s'
    | (.error e, _) => [⟨table, row, .error e⟩]

@[simp] theorem done_bind (value : α) (f : α → Dialogue β) : done value >>= f = f value := rfl

@[simp] theorem ask_bind (table : String) (row : Row) (next : Upserted → Dialogue α)
    (f : α → Dialogue β) : ask table row next >>= f = ask table row fun u => next u >>= f := rfl

variable {upsert : Upsert σ} {table : String} {row : Row} {next : Upserted → Dialogue α}
  {s s' : σ} {u : Upserted} {e : LoadError}

theorem run_done (value : α) (s : σ) : (done value).run upsert s = (.ok value, s) := rfl

theorem run_ask_ok (h : upsert table row s = (.ok u, s')) :
    (ask table row next).run upsert s = (next u).run upsert s' :=
  Step.bind_ok h

theorem run_ask_error (h : upsert table row s = (.error e, s')) :
    (ask table row next).run upsert s = (.error e, s') :=
  Step.bind_error h

theorem calls_ask_ok (h : upsert table row s = (.ok u, s')) :
    (ask table row next).calls upsert s = ⟨table, row, .ok u⟩ :: (next u).calls upsert s' := by
  rw [calls, h]

theorem calls_ask_error (h : upsert table row s = (.error e, s')) :
    (ask table row next).calls upsert s = [⟨table, row, .error e⟩] := by
  rw [calls, h]

theorem run_bind (d : Dialogue α) (f : α → Dialogue β) (s : σ) :
    (d >>= f).run upsert s = (d.run upsert >>= fun a => (f a).run upsert) s := by
  induction d generalizing s with
  | done value => rw [done_bind, Step.bind_ok (run_done value s)]
  | ask table row next ih =>
    rw [ask_bind]
    rcases h : upsert table row s with ⟨e | u, s'⟩
    · rw [run_ask_error h, Step.bind_error (run_ask_error h)]
    · rw [run_ask_ok h, ih, Step.bind_apply, Step.bind_apply, run_ask_ok h]

/-- **The journal of a dialogue** holds its calls, and keeping it changes nothing else. -/
theorem run_journaled (d : Dialogue α) (s : σ) (log : List Asked) :
    d.run (journaled upsert) (s, log) =
      ((d.run upsert s).1, ((d.run upsert s).2, log ++ d.calls upsert s)) := by
  -- by what is asked; the journal so far is carried along
  induction d generalizing s log with
  | done value => simp [run_done, calls]
  | ask table row next ih =>
    have hj : journaled upsert table row (s, log) =
        ((upsert table row s).1,
          ((upsert table row s).2, log ++ [⟨table, row, (upsert table row s).1⟩])) := rfl
    rcases h : upsert table row s with ⟨e | u, s'⟩
    · rw [h] at hj
      rw [run_ask_error hj, run_ask_error h, calls_ask_error h]
    · rw [h] at hj
      rw [run_ask_ok hj, run_ask_ok h, calls_ask_ok h, ih]
      simp

/-- What the answers to some calls have to do with the end of the dialogue: all of them are rows,
or the last one is the error that ended it. -/
def Stops (calls : List Asked) : Except LoadError α → Prop
  | .ok _ => ∀ a ∈ calls, a.answer.isOk
  | .error e => ∃ before last, calls = before ++ [last] ∧ last.answer = .error e ∧
      ∀ a ∈ before, a.answer.isOk

theorem Stops.cons {calls : List Asked} {end_ : Except LoadError α} {a : Asked}
    (ha : a.answer.isOk) (h : Stops calls end_) : Stops (a :: calls) end_ := by
  cases end_ with
  | ok value => exact List.forall_mem_cons.2 ⟨ha, h⟩
  | error e =>
    obtain ⟨before, last, rfl, hlast, hbefore⟩ := h
    exact ⟨a :: before, last, rfl, hlast, List.forall_mem_cons.2 ⟨ha, hbefore⟩⟩

/-- **A dialogue stops at the first error.** -/
theorem calls_stop (d : Dialogue α) (s : σ) : Stops (d.calls upsert s) (d.run upsert s).1 := by
  induction d generalizing s with
  | done value => exact fun _ h => absurd h List.not_mem_nil
  | ask table row next ih =>
    rcases h : upsert table row s with ⟨e | u, s'⟩
    · rw [calls_ask_error h, run_ask_error h]
      exact ⟨[], _, rfl, rfl, fun _ h => absurd h List.not_mem_nil⟩
    · rw [calls_ask_ok h, run_ask_ok h]
      exact (ih u s').cons rfl

end Dialogue

end Accession.Load
