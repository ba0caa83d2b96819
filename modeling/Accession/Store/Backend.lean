import Accession.Store.Filter
import Accession.Store.Schema

/-!
# Backends

A `Backend` keeps rows.  It inserts a row, finds a row by a filter, and opens and closes
transactions, which may be nested: `rollback` undoes the work since the matching `begin`.

A call may fail, and leaves the backend in some state whether it fails or not; nothing else is
said about a backend here, so what is proved of every `Backend` holds whatever its calls answer.
-/

namespace Accession

/-- The key that a store gives a row. -/
abbrev Key := Int

/-- A step of a computation over a state: it ends in a value or a failure, and in a state. -/
abbrev Step (σ ε α : Type) := ExceptT ε (StateM σ) α

namespace Step

variable {σ ε α β : Type}

theorem bind_apply (step : Step σ ε α) (next : α → Step σ ε β) (s : σ) :
    (step >>= next) s =
      match step s with
      | (.ok a, s') => next a s'
      | (.error e, s') => (.error e, s') := by
  simp only [bind, ExceptT.bind, ExceptT.mk, StateT.bind]
  rcases step s with ⟨_ | _, _⟩ <;> rfl

theorem bind_ok {step : Step σ ε α} {next : α → Step σ ε β} {s s' : σ} {a : α}
    (h : step s = (.ok a, s')) : (step >>= next) s = next a s' := by
  rw [bind_apply, h]

theorem bind_error {step : Step σ ε α} {next : α → Step σ ε β} {s s' : σ} {e : ε}
    (h : step s = (.error e, s')) : (step >>= next) s = (.error e, s') := by
  rw [bind_apply, h]

end Step

/-- A transactional store of rows, with states `σ`. -/
structure Backend (σ : Type) where
  /-- Stores a row and answers its key. -/
  insert : TableSchema → Row → Step σ StoreError Key
  /-- The least key of a row that meets the filter. -/
  find : TableSchema → Filter → Step σ StoreError (Option Key)
  /-- Opens a transaction. -/
  begin : Step σ StoreError Unit
  /-- Closes the innermost transaction and keeps its work. -/
  commit : Step σ StoreError Unit
  /-- Closes the innermost transaction and undoes its work. -/
  rollback : Step σ StoreError Unit

end Accession
