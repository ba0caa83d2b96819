import Accession.Store.Probe
import Accession.Store.Upsert

/-!
# Backends that fail at will

`Faults` decides, before a call reaches a backend, whether it fails instead.  It is told the kind of
the call and keeps a state of its own, in which it may count the calls, so any choice of calls and
of errors can be made.  A call that fails has no effect.

* `Faults.among` : the faults of calls of some kinds; the others are not put to them, and so are
  spared (`Faults.Spares`).
* `Backend.faulty`, `Store.faulty` : a backend, and a store, whose calls fail so.
-/

namespace Accession

/-- Before a call of a kind, the error that it ends in, if it is to fail. -/
abbrev Faults (ν : Type) := CallKind → ν → Option StoreError × ν

/-- The faults of calls of some kinds.  A call of another kind does not fail, and is not counted. -/
def Faults.among {ν : Type} (faults : Faults ν) (kinds : List CallKind) : Faults ν :=
  fun kind n => if kind ∈ kinds then faults kind n else (none, n)

/-- The step, or the fault that takes its place. -/
def Step.orFault {σ ν α : Type} (fault : ν → Option StoreError × ν) (step : Step σ StoreError α) :
    Step (σ × ν) StoreError α :=
  ExceptT.mk fun s =>
    match fault s.2 with
    | (some e, n) => (.error e, (s.1, n))
    | (none, n) => ((step s.1).1, ((step s.1).2, n))

/-- The backend, each of whose calls may fail. -/
def Backend.faulty {σ ν : Type} (faults : Faults ν) (b : Backend σ) : Backend (σ × ν) where
  insert t row := (b.insert t row).orFault (faults .insert)
  find t filter := (b.find t filter).orFault (faults .find)
  begin := b.begin.orFault (faults .begin)
  commit := b.commit.orFault (faults .commit)
  rollback := b.rollback.orFault (faults .rollback)

/-- The store, over the backend whose calls may fail. -/
def Store.faulty {σ ν : Type} (store : Store σ) (faults : Faults ν) : Store (σ × ν) :=
  ⟨store.backend.faulty faults, store.schemas, store.textMatch⟩

namespace Faults

variable {ν : Type} {faults : Faults ν} {kinds : List CallKind} {kind : CallKind}

/-- Calls of a kind do not fail. -/
def Spares (faults : Faults ν) (kind : CallKind) : Prop := ∀ n, (faults kind n).1 = none

theorem Spares.next (h : faults.Spares kind) (n : ν) : ∃ n', faults kind n = (none, n') :=
  ⟨(faults kind n).2, Prod.ext (h n) rfl⟩

theorem among_of_notMem (h : kind ∉ kinds) (n : ν) : faults.among kinds kind n = (none, n) :=
  if_neg h

theorem spares_among (h : kind ∉ kinds) : (faults.among kinds).Spares kind :=
  fun n => congrArg Prod.fst (among_of_notMem h n)

end Faults

namespace Step

variable {σ ν α : Type} {fault : ν → Option StoreError × ν} {n n' : ν}

theorem orFault_of_some {e : StoreError} (h : fault n = (some e, n')) (step : Step σ StoreError α)
    (s : σ) : step.orFault fault (s, n) = (.error e, (s, n')) := by
  simp only [orFault, ExceptT.mk, h]

theorem orFault_of_none {step : Step σ StoreError α} {s s' : σ} {answer : Except StoreError α}
    (h : fault n = (none, n')) (hstep : step s = (answer, s')) :
    step.orFault fault (s, n) = (answer, (s', n')) := by
  simp only [orFault, ExceptT.mk, h, hstep]

end Step

end Accession
