import Accession.Store.Backend

/-!
# Probing a backend

`Backend.probed` wraps a backend: it keeps a journal of the calls with their answers, and lets
chosen calls fail without reaching the backend inside.  A call is chosen by its kind and its
number among the calls of that kind.
-/

namespace Accession

/-- The five calls of a backend. -/
inductive CallKind where
  | insert
  | find
  | begin
  | commit
  | rollback
  deriving DecidableEq, Repr

/-- What a chosen call answers. -/
inductive FaultAnswer where
  /-- A lookup finds no row. -/
  | noRow
  /-- The call fails, with an error that may name its table. -/
  | failure (error : String → StoreError)

/-- The call of a kind and a number, counted from one, and what it answers. -/
structure Fault where
  call : CallKind
  number : Nat
  answer : FaultAnswer

/-- A call and its answer. -/
inductive JournalEntry where
  | insert (table : String) (row : Row) (answer : Except StoreError Key)
  | find (table : String) (filter : Filter) (answer : Except StoreError (Option Key))
  | session (call : CallKind) (answer : Except StoreError Unit)

/-- The kind of a call in the journal. -/
def JournalEntry.call : JournalEntry → CallKind
  | insert .. => .insert
  | find .. => .find
  | session call _ => call

/-- The state of a probed backend: that of the backend inside, and the journal, latest first. -/
structure Probed (σ : Type) where
  inner : σ
  journal : List JournalEntry

namespace Backend

variable {σ : Type}

/-- What the next call of a kind is to answer, if it is chosen. -/
def chosen? (faults : List Fault) (journal : List JournalEntry) (call : CallKind) :
    Option FaultAnswer :=
  let number := (journal.filter (·.call = call)).length + 1
  (faults.find? fun f => f.call = call ∧ f.number = number).map Fault.answer

/-- Makes a call, or gives the answer chosen for it, and enters it into the journal. -/
def probe {α : Type} (faults : List Fault) (call : CallKind) (table : String)
    (noRow : Except StoreError α) (enter : Except StoreError α → JournalEntry)
    (step : Step σ StoreError α) : Step (Probed σ) StoreError α :=
  ExceptT.mk fun p =>
    match chosen? faults p.journal call with
    | some .noRow => (noRow, ⟨p.inner, enter noRow :: p.journal⟩)
    | some (.failure error) =>
      (.error (error table), ⟨p.inner, enter (.error (error table)) :: p.journal⟩)
    | none =>
      let (answer, inner) := step p.inner
      (answer, ⟨inner, enter answer :: p.journal⟩)

/-- A failure that says nothing of the call. -/
def unnamedFailure {α : Type} : Except StoreError α := .error (.query none "")

/-- The backend with a journal, and with the chosen calls failing. -/
def probed (faults : List Fault) (b : Backend σ) : Backend (Probed σ) where
  insert t row := probe faults .insert t.name unnamedFailure (.insert t.name row) (b.insert t row)
  find t filter := probe faults .find t.name (.ok none) (.find t.name filter) (b.find t filter)
  begin := probe faults .begin "" unnamedFailure (.session .begin) b.begin
  commit := probe faults .commit "" unnamedFailure (.session .commit) b.commit
  rollback := probe faults .rollback "" unnamedFailure (.session .rollback) b.rollback

end Backend

end Accession
