import Accession.Proofs.Memory.Conflicts

/-!
# Keys are given once

A table counts the keys that it gives.  A rollback takes rows out and leaves the count as it is, so
no key is given again, and the rows of a table stand in the order of their keys, whatever was taken
out between them.

* `keysGiven` : the keys that the insertions of a session into a table are answered.
* `Memory.keyIn?_call` : a call gives no key, or the next one; `Memory.keysGiven_calls` : a session
  gives keys that follow each other.
* `Memory.Ascending.call` : every call keeps the rows in the order of their keys.
* `Memory.keys_in_order` : the keys that sessions give, and those that lookups find.
-/

namespace Accession

/-- The key that an answer gives to a row of the table. -/
def Call.keyIn? (table : String) : Call → Answer → Option Key
  | insert t _, .key (.ok key) => if t.name = table then some key else none
  | _, _ => none

/-- The keys that the rows of a table are given in a session, in order. -/
def keysGiven (table : String) (session : List Call) (answers : List Call.Answer) : List Key :=
  (session.zip answers).filterMap fun ca => ca.1.keyIn? table ca.2

theorem keysGiven_cons (table : String) (c : Call) (session : List Call) (a : Call.Answer)
    (answers : List Call.Answer) : keysGiven table (c :: session) (a :: answers) =
      (c.keyIn? table a).toList ++ keysGiven table session answers := by
  rw [keysGiven, List.zip_cons_cons, List.filterMap_cons]
  cases c.keyIn? table a <;> rfl

namespace Memory

variable {m : Memory} {t : TableSchema} {filter : Filter}

theorem sequence_commit (m : Memory) (table : String) :
    m.commit.2.sequence table = m.sequence table := by
  obtain ⟨tables, sequences, undo⟩ := m
  match undo with
  | [] | [_] | _ :: _ :: _ => rfl

theorem sequence_rollback (m : Memory) (table : String) :
    m.rollback.2.sequence table = m.sequence table := by
  obtain ⟨tables, sequences, undo⟩ := m
  match undo with
  | [] | _ :: _ => rfl

/-- **A call gives no key, or the next one**, and counts it. -/
theorem keyIn?_call (c : Call) (m : Memory) (table : String) :
    (c.keyIn? table (backend.call c m).1 = none ∧
        (backend.call c m).2.sequence table = m.sequence table) ∨
      (c.keyIn? table (backend.call c m).1 = some (m.sequence table + 1) ∧
        (backend.call c m).2.sequence table = m.sequence table + 1) := by
  cases c with
  | insert t row =>
    change (Call.keyIn? table _ (.key (m.insert t row).1) = none ∧
        (m.insert t row).2.sequence table = _) ∨
      Call.keyIn? table _ (.key (m.insert t row).1) = _ ∧ (m.insert t row).2.sequence table = _
    rcases insert_cases m t row with ⟨e, hi⟩ | ⟨values, -, -, hi⟩
    · rw [hi]
      exact .inl ⟨rfl, rfl⟩
    · rw [hi, Call.keyIn?]
      by_cases htable : t.name = table
      · subst htable
        exact .inr ⟨if_pos rfl, sequence_store_self⟩
      · exact .inl ⟨if_neg htable, sequence_store_of_ne (Ne.symm htable)⟩
  | find | begin => exact .inl ⟨rfl, rfl⟩
  | commit => exact .inl ⟨rfl, sequence_commit m table⟩
  | rollback => exact .inl ⟨rfl, sequence_rollback m table⟩

/-- The keys that a session gives follow on the last one given before. -/
theorem keysGiven_calls (session : List Call) (m : Memory) (table : String) :
    ∃ count, keysGiven table session (backend.calls session m).1 =
      (List.range count).map fun i : Nat => m.sequence table + 1 + i := by
  induction session generalizing m with
  | nil => exact ⟨0, rfl⟩
  | cons c rest ih =>
    rw [Backend.calls_cons, keysGiven_cons]
    obtain ⟨count, hcount⟩ := ih (backend.call c m).2
    rcases keyIn?_call c m table with ⟨hkey, hsequence⟩ | ⟨hkey, hsequence⟩
    · rw [hkey, hcount, hsequence]
      exact ⟨count, rfl⟩
    · refine ⟨count + 1, ?_⟩
      rw [hkey, hcount, hsequence, List.range_succ_eq_map, List.map_cons, List.map_map]
      -- the key that follows on the new one by `i` follows on the last one before by `i + 1`
      have hnext (i : Nat) :
          m.sequence table + 1 + 1 + i = m.sequence table + 1 + (i.succ : Nat) := by
        rw [Int.natCast_succ, Int.add_assoc _ 1, Int.add_comm 1]
      exact congrArg₂ List.cons (Int.add_zero _).symm (List.map_congr_left fun i _ => hnext i)

/-- Every call keeps the rows in the order of their keys. -/
theorem Ascending.call (h : Ascending m) (c : Call) : Ascending (backend.call c m).2 := by
  cases c with
  | insert t row =>
    change Ascending (m.insert t row).2
    rcases insert_cases m t row with ⟨e, hi⟩ | ⟨values, -, -, hi⟩
    · rw [hi]
      exact h
    · rw [hi]
      exact h.store t.name values
  | find => exact h
  | begin => exact ⟨h.sorted, h.given⟩
  | commit => exact h.change (r := .empty) (change_of_commit m)
  | rollback => exact h.change (r := .empty) (change_of_rollback m)

theorem ascending_calls (session : List Call) : Ascending (backend.calls session empty).2 :=
  Backend.calls_preserve (fun c _ _ h => h.call c) ascending_empty

theorem call_find_eq_iff {answer : Option Key} :
    backend.call (.find t filter) m = (.found (.ok answer), m) ↔ m.find t filter = answer := by
  change (Call.Answer.found (.ok (m.find t filter)), m) = _ ↔ _
  simp

/-- **Keys are given once, and lookups find the least.**  After every session, whatever it undid and
whatever was refused in it, the rows of each table were given the keys from one on, in order and
without a gap, and those that are stored stand in the order of their keys.  A lookup is answered a
key just if it is the least of the rows that meet the filter, and none just if no row meets it; the
store stays as it is. -/
theorem keys_in_order (session : List Call) :
    let answers := (backend.calls session empty).1
    let m := (backend.calls session empty).2
    (∀ table, ∃ count, keysGiven table session answers =
        (List.range count).map fun i : Nat => (i : Key) + 1) ∧
      (∀ table, (m.rows table).Pairwise fun a b => a.key < b.key) ∧
      ∀ t filter,
        (∀ key, backend.call (.find t filter) m = (.found (.ok (some key)), m) ↔
          IsLeast {k | ∃ row ∈ m.rows t.name, filter.holds row.values ∧ row.key = k} key) ∧
        (backend.call (.find t filter) m = (.found (.ok none), m) ↔
          ∀ row ∈ m.rows t.name, ¬ filter.holds row.values) := by
  intro answers m
  have hascending : Ascending m := ascending_calls session
  refine ⟨fun table => ?_, hascending.sorted, fun t filter => ⟨fun key => ?_, ?_⟩⟩
  · obtain ⟨count, hcount⟩ := keysGiven_calls session empty table
    refine ⟨count, hcount.trans (List.map_congr_left fun i _ => ?_)⟩
    change (0 : Key) + 1 + i = i + 1
    rw [Int.zero_add, Int.add_comm]
  · rw [call_find_eq_iff]
    exact find_eq_some_iff hascending
  · rw [call_find_eq_iff, find, Option.map_eq_none_iff, List.find?_eq_none]

end Memory

end Accession
