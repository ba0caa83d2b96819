import Accession.Load.Walk

/-!
# Loading records

* `Load.loadInScope` : one record, in a transaction of its own if so wanted.
* `Load.loadRecords` : records in order; after one that fails the batch ends, or goes on with the
  next.
-/

namespace Accession.Load

/-- What is done about a record that fails. -/
inductive ErrorPolicy where
  /-- The batch ends. -/
  | abort
  /-- The failure is noted, and the batch goes on. -/
  | skip
  deriving DecidableEq, Repr

/-- What is kept or undone together. -/
inductive TransactionScope where
  /-- Each row on its own. -/
  | perRow
  /-- All rows of a record. -/
  | perRecord
  deriving DecidableEq, Repr

/-- How records are loaded. -/
structure Options where
  onError : ErrorPolicy
  scope : TransactionScope
  deriving DecidableEq, Repr

/-- The options where none are given. -/
def Options.default : Options := ⟨.abort, .perRow⟩

/-- A record that failed: its position in the batch, and why. -/
structure Failure where
  index : Nat
  message : String
  deriving DecidableEq, Repr

/-- What became of a batch. -/
structure Report where
  /-- Records of the batch. -/
  total : Nat
  /-- Records that were loaded. -/
  loaded : Nat
  /-- Records that failed, in order. -/
  failures : List Failure
  /-- Rows of the records that were loaded. -/
  stats : Stats
  deriving DecidableEq, Repr

namespace Report

/-- The report of a batch of which no record is loaded yet. -/
def start (total : Nat) : Report := ⟨total, 0, [], .zero⟩

/-- The report after a record that was loaded. -/
def success (r : Report) (stats : Stats) : Report :=
  { r with loaded := r.loaded + 1, stats := r.stats.add stats }

/-- The report after a record that failed. -/
def failure (r : Report) (index : Nat) (e : LoadError) : Report :=
  { r with failures := r.failures ++ [⟨index, (LoadError.record index e).message⟩] }

end Report

variable {σ : Type}

/-- What follows the load of a record within a transaction: it is committed or rolled back, and a
rollback that fails changes nothing about the error. -/
def settle (store : Store σ) : Except LoadError Stats → Step σ LoadError Stats
  | .ok stats => do
    Step.ofStore store.backend.commit
    pure stats
  | .error e => do
    -- the first error is the one to tell of
    let _ ← Step.attempt store.backend.rollback
    throw e

/-- Loads a record, in the transaction that the scope asks for. -/
def loadInScope (store : Store σ) (m : Mapping) (scope : TransactionScope) (r : Record) :
    Step σ LoadError Stats :=
  match scope with
  | .perRow => loadRecord store m r
  | .perRecord => do
    Step.ofStore store.backend.begin
    let answer ← Step.attempt (loadRecord store m r)
    settle store answer

/-- The report, or the error that ends the batch, after the load of a record. -/
def Report.after (policy : ErrorPolicy) (index : Nat) (report : Report) :
    Except LoadError Stats → Except LoadError Report
  | .ok stats => .ok (report.success stats)
  | .error e =>
    match policy with
    | .abort => .error (.record index e)
    | .skip => .ok (report.failure index e)

/-- Loads the records of a batch from a position on. -/
def loadFrom (store : Store σ) (m : Mapping) (options : Options) :
    (index : Nat) → List Record → Report → Step σ LoadError Report
  | _, [], report => pure report
  | index, r :: rest, report => do
    let answer ← Step.attempt (loadInScope store m options.scope r)
    let report ← liftExcept (report.after options.onError index answer)
    loadFrom store m options (index + 1) rest report
where
  /-- A result as a step. -/
  liftExcept (result : Except LoadError Report) : Step σ LoadError Report :=
    ExceptT.mk (pure result)

/-- Loads the records of a batch in order. -/
def loadRecords (store : Store σ) (m : Mapping) (options : Options) (records : List Record) :
    Step σ LoadError Report :=
  loadFrom store m options 0 records (Report.start records.length)

end Accession.Load
