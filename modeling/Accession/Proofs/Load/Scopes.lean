import Accession.Proofs.Load.Alike
import Accession.Proofs.Memory.Nested

/-!
# The scopes of transactions agree

A record is loaded row by row, or as a whole in one more transaction.  Insertions and lookups may
fail, at the same calls in both.  The loads then go the same way: the whole one only writes into a
transaction what the other one writes outside.

* `Load.upsert_nested` : an upsert cannot tell whether a transaction is around it.
* `Load.scopes_agree` : the loads end alike, with the same store if they succeed, and otherwise the
  load of the whole record leaves no row.
-/

namespace Accession.Load

open Memory (Nested Restored)

variable {ν : Type}

/-- The store in memory, whose insertions and lookups may fail. -/
abbrev failingRows (r : Registry) (mode : TextMatch) (faults : Faults ν) : Store (Memory × ν) :=
  Memory.failing r mode (faults.among [.insert, .find])

/-- The same faults are to come, and the second store is in a transaction whose commit leads to the
first. -/
def InTransaction (base : Memory) (s s' : Memory × ν) : Prop := s.2 = s'.2 ∧ Nested base s.1 s'.1

theorem upsert_nested (r : Registry) (mode : TextMatch) (faults : Faults ν) (base : Memory)
    (table : String) (row : Row) :
    Step.Alike (InTransaction base) ((failingRows r mode faults).upsert table row)
      ((failingRows r mode faults).upsert table row) := by
  rintro ⟨m, n⟩ ⟨m', _⟩ ⟨rfl, hnested⟩
  have hnested : Nested base m m' := hnested
  have hrollback : (faults.among [.insert, .find]).Spares .rollback :=
    Faults.spares_among (by decide)
  obtain ⟨answer, effect, n', heffect, hupsert⟩ :=
    Memory.upsert_effect r mode hrollback m' table row n
  have hm : (failingRows r mode faults).upsert table row (m, n) = (answer, (effect m, n')) := by
    have hupsert := hupsert m.undo
    rwa [← hnested.eq_under] at hupsert
  have hm' : (failingRows r mode faults).upsert table row (m', n) = (answer, (effect m', n')) :=
    hupsert m'.undo
  rw [hm, hm']
  refine ⟨rfl, rfl, ?_⟩
  cases heffect with
  | kept => exact hnested
  | stored key table values => exact hnested.store table values
  | left failed =>
    -- no commit fails here
    rw [Faults.among_of_notMem (by decide)] at failed
    cases failed

theorem loadRecord_nested (r : Registry) (mode : TextMatch) (faults : Faults ν) (base : Memory)
    (mapping : Mapping) (record : Record) :
    Step.Alike (InTransaction base) (loadRecord (failingRows r mode faults) mapping record)
      (loadRecord (failingRows r mode faults) mapping record) := by
  intro s s' hs
  rw [loadRecord_eq_run, loadRecord_eq_run]
  exact Dialogue.run_alike (upsert_nested r mode faults base) (plan mapping record) s s' hs

/-- The transaction around a record hands its rows on, or takes them back. -/
theorem settle_nested (r : Registry) (mode : TextMatch) (faults : Faults ν) {base s s' : Memory}
    (hnested : Nested base s s') (answer : Except LoadError Stats) (k : ν) :
    let (answer', whole) := settle (failingRows r mode faults) answer (s', k)
    answer' = answer ∧ whole.2 = k ∧
      match answer with
      | .ok _ => whole.1 = s
      | .error _ => Restored base whole.1 ∧ whole.1.sequences = s.sequences := by
  have hfree : ∀ kind, kind ∉ [.insert, .find] → faults.among [.insert, .find] kind k =
      (none, k) := fun _ hkind => Faults.among_of_notMem hkind k
  cases answer with
  | ok stats =>
    have hcommit : Step.ofStore (failingRows r mode faults).backend.commit (s', k) =
        (.ok (), (s, k)) :=
      Step.ofStore_of_ok (Step.orFault_of_none (hfree .commit (by decide)) hnested.commit)
    rw [settle, Step.bind_ok hcommit]
    exact ⟨rfl, rfl, rfl⟩
  | error e =>
    obtain ⟨restored, hroll, hrestored, hsequences⟩ := hnested.inside.rollback
    have hrollback : (failingRows r mode faults).backend.rollback (s', k) =
        (.ok (), (restored, k)) :=
      Step.orFault_of_none (hfree .rollback (by decide)) hroll
    rw [settle, Step.bind_ok (Step.attempt_of_eq hrollback)]
    exact ⟨rfl, rfl, hrestored, hsequences.trans hnested.sequences⟩

/-- **The scopes agree, and a record is loaded as a whole or not at all.**  Whatever insertions and
lookups fail, the load row by row and the load of the whole record give the same answer.  If it is
no error, they leave the same store; if it is one, the load of the whole record restores all rows
and open transactions, and has used up the keys that the other one used up. -/
theorem scopes_agree (faults : Faults ν) (r : Registry) (mode : TextMatch) (mapping : Mapping)
    (record : Record) (m : Memory) (n : ν) :
    let (answer, rowwise) :=
      loadInScope (failingRows r mode faults) mapping .perRow record (m, n)
    let (answer', whole) :=
      loadInScope (failingRows r mode faults) mapping .perRecord record (m, n)
    answer' = answer ∧ whole.2 = rowwise.2 ∧
      match answer with
      | .ok _ => whole.1 = rowwise.1
      | .error _ => Restored m whole.1 ∧ whole.1.sequences = rowwise.1.sequences := by
  have hfree : faults.among [.insert, .find] .begin n = (none, n) :=
    Faults.among_of_notMem (by decide) n
  have hbegin : Step.ofStore (failingRows r mode faults).backend.begin (m, n) =
      (.ok (), (m.begin, n)) := Step.ofStore_of_ok (Step.orFault_of_none hfree rfl)
  have hloads := loadRecord_nested r mode faults m mapping record (m, n) (m.begin, n)
    ⟨rfl, Memory.nested_begin m⟩
  rcases hrow : loadRecord (failingRows r mode faults) mapping record (m, n) with ⟨answer, s, k⟩
  rcases hwhole : loadRecord (failingRows r mode faults) mapping record (m.begin, n) with
    ⟨answer', s', k'⟩
  rw [hrow, hwhole] at hloads
  obtain ⟨rfl, rfl, hnested⟩ := hloads
  rw [loadInScope, loadInScope, hrow, Step.bind_ok hbegin,
    Step.bind_ok (Step.attempt_of_eq hwhole)]
  exact settle_nested r mode faults hnested answer k

end Accession.Load
