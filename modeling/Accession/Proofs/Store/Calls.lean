import Accession.Store.Backend

/-!
# Sessions of a backend

A `Call` is one call of a backend with what it is given.  A list of calls is a session, whose
transactions may be nested in any way and need not be balanced.

* `Backend.call`, `Backend.calls` : what a call and a session answer, and the state after them.
* `Call.On` : the table that a call is given is one of a registry.
* `Backend.calls_preserve` : what every call of a session preserves, the session preserves.
* `Backend.calls_simulate` : two backends that answer alike, call by call, answer a session alike.
-/

namespace Accession

/-- A call of a backend. -/
inductive Call where
  | insert (t : TableSchema) (row : Row)
  | find (t : TableSchema) (filter : Filter)
  | begin
  | commit
  | rollback

namespace Call

/-- What a backend answers to a call. -/
inductive Answer where
  | key (answer : Except StoreError Key)
  | found (answer : Except StoreError (Option Key))
  | closed (answer : Except StoreError Unit)

/-- The table of the call is the one that the registry keeps under its name. -/
def On (r : Registry) : Call → Prop
  | insert t _ => r.get? t.name = some t
  | find t _ => r.get? t.name = some t
  | _ => True

instance (r : Registry) : (c : Call) → Decidable (c.On r)
  | insert t _ | find t _ => inferInstanceAs (Decidable (r.get? t.name = some t))
  | begin | commit | rollback => .isTrue trivial

end Call

namespace Backend

variable {σ τ : Type}

/-- The answer to a call and the state after it. -/
def call (b : Backend σ) (c : Call) (s : σ) : Call.Answer × σ :=
  match c with
  | .insert t row => (b.insert t row s).map .key id
  | .find t filter => (b.find t filter s).map .found id
  | .begin => (b.begin s).map .closed id
  | .commit => (b.commit s).map .closed id
  | .rollback => (b.rollback s).map .closed id

/-- The answers to the calls of a session, and the state after the last. -/
def calls (b : Backend σ) : List Call → σ → List Call.Answer × σ
  | [], s => ([], s)
  | c :: rest, s =>
    let (answer, s) := b.call c s
    let (answers, s) := b.calls rest s
    (answer :: answers, s)

variable {b : Backend σ} {b' : Backend τ}

theorem calls_cons (c : Call) (rest : List Call) (s : σ) :
    b.calls (c :: rest) s =
      ((b.call c s).1 :: (b.calls rest (b.call c s).2).1, (b.calls rest (b.call c s).2).2) := rfl

theorem calls_preserve {Inv : σ → Prop} {session : List Call}
    (hstep : ∀ c ∈ session, ∀ s, Inv s → Inv (b.call c s).2) {s : σ} (hs : Inv s) :
    Inv (b.calls session s).2 := by
  induction session generalizing s with
  | nil => exact hs
  | cons c rest ih =>
    obtain ⟨hc, hrest⟩ := List.forall_mem_cons.1 hstep
    rw [calls_cons]
    exact ih hrest (hc s hs)

theorem calls_simulate {Rel : σ → τ → Prop}
    (hstep : ∀ c s s', Rel s s' →
      (b.call c s).1 = (b'.call c s').1 ∧ Rel (b.call c s).2 (b'.call c s').2)
    (session : List Call) {s : σ} {s' : τ} (hs : Rel s s') :
    (b.calls session s).1 = (b'.calls session s').1 ∧
      Rel (b.calls session s).2 (b'.calls session s').2 := by
  induction session generalizing s s' with
  | nil => exact ⟨rfl, hs⟩
  | cons c rest ih =>
    obtain ⟨hanswer, hnext⟩ := hstep c s s' hs
    obtain ⟨hanswers, hlast⟩ := ih hnext
    rw [calls_cons, calls_cons, hanswer, hanswers]
    exact ⟨rfl, hlast⟩

end Backend

end Accession
