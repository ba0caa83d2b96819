import Accession.Proofs.Memory.Upsert
import Accession.Proofs.Store.Calls

/-!
# Requests to the store in memory

A user of the store in memory makes calls of its backend and upserts, in any order and with any
nesting of transactions.  All that this does to the rows of a table is to take some out, or to add
one behind them that no check refuses.

* `Request` : a call or an upsert; `Memory.run` : the state after some requests.
* `Memory.Change` : all that a request can do to the rows (`Memory.change_of_request`).
* `Memory.run_preserves` : what holds of a store without rows and is kept by every change holds
  after all requests.
* `Memory.Ascending` : the keys of a table ascend, up to the last one given.
-/

namespace Accession

/-- A call of a backend, or an upsert that looks up texts in some way. -/
inductive Request where
  | call (c : Call)
  | upsert (mode : TextMatch) (table : String) (row : Row)

/-- The request is about tables of the registry.  An upsert looks its table up by itself. -/
def Request.On (r : Registry) : Request → Prop
  | call c => c.On r
  | upsert .. => True

instance (r : Registry) : (q : Request) → Decidable (q.On r)
  | .call c => inferInstanceAs (Decidable (c.On r))
  | .upsert .. => .isTrue trivial

namespace Memory

/-- The state after a request. -/
def after (r : Registry) (m : Memory) : Request → Memory
  | .call c => (backend.call c m).2
  | .upsert mode table row => ((Store.inMemory r mode).upsert table row m).2

/-- The state after some requests. -/
def run (r : Registry) (requests : List Request) (m : Memory) : Memory := requests.foldl (after r) m

variable {r : Registry} {m m' : Memory} {t : TableSchema} {table : String} {row values : Row}
  {requests : List Request}

/-! ### Changes -/

/-- All that a request can do to the rows. -/
inductive Change (r : Registry) (m m' : Memory) : Prop
  /-- Some rows are taken out, or none. -/
  | thinned (rows : ∀ table, (m'.rows table).Sublist (m.rows table))
      (sequences : m'.sequences = m.sequences)
  /-- A row is stored that no check refuses. -/
  | stored {t : TableSchema} {row values : Row} (ht : r.get? t.name = some t)
      (hc : t.coerceRow row = .ok values) (hr : m.refusal? t values = none)
      (h : m' = m.store t.name values)

theorem Change.same (hrows : m'.rows = m.rows) (hsequences : m'.sequences = m.sequences) :
    Change r m m' :=
  .thinned (fun table => hrows ▸ List.Sublist.refl (m'.rows table)) hsequences

theorem withoutKey_sublist (rows : List StoredRow) (key : Key) :
    (withoutKey rows key).Sublist rows := by
  have h : (rows.reverse.eraseP (·.key == key)).reverse.Sublist rows.reverse.reverse :=
    (List.eraseP_sublist).reverse
  rwa [List.reverse_reverse] at h

theorem rows_erase_sublist (tables : Tables) (entry : String × Key) (table : String) :
    ((erase tables entry).rows table).Sublist (tables.rows table) := by
  by_cases h : table = entry.1
  · subst h
    rw [rows_erase_self]
    exact withoutKey_sublist _ _
  · simp [rows_erase_of_ne tables h]

theorem rows_undo_sublist (log : UndoLog) (tables : Tables) (table : String) :
    ((log.foldl erase tables).rows table).Sublist (tables.rows table) := by
  induction log generalizing tables with
  | nil => exact List.Sublist.refl _
  | cons entry log ih => exact (ih (erase tables entry)).trans (rows_erase_sublist _ _ _)

theorem change_of_commit (m : Memory) : Change r m m.commit.2 := by
  obtain ⟨tables, sequences, undo⟩ := m
  match undo with
  | [] | [_] | _ :: _ :: _ => exact .same rfl rfl

theorem change_of_rollback (m : Memory) : Change r m m.rollback.2 := by
  obtain ⟨tables, sequences, undo⟩ := m
  match undo with
  | [] => exact .same rfl rfl
  | log :: outer => exact .thinned (rows_undo_sublist log tables) rfl

theorem change_of_call {c : Call} (hc : c.On r) (m : Memory) :
    Change r m (backend.call c m).2 := by
  cases c with
  | insert t row =>
    change Change r m (m.insert t row).2
    rcases insert_cases m t row with ⟨e, h⟩ | ⟨values, hcoerce, hr, h⟩
    · rw [h]
      exact .same rfl rfl
    · rw [h]
      exact .stored hc hcoerce hr rfl
  | find | begin => exact .same rfl rfl
  | commit => exact change_of_commit m
  | rollback => exact change_of_rollback m

theorem change_of_upsert (mode : TextMatch) (table : String) (row : Row) (m : Memory) :
    Change r m ((Store.inMemory r mode).upsert table row m).2 := by
  rcases upsert_cases r mode m table row with
    ⟨t, values, ht, hc, -, ⟨hr, hu⟩ | ⟨-, _, -, hu⟩⟩ | ⟨_, hu⟩
  all_goals rw [hu]
  · exact .stored (Registry.name_of_get? ht ▸ ht) hc hr rfl
  · exact .same rfl rfl
  · exact .same rfl rfl

/-- **A request takes rows out, or stores one** that no check refuses. -/
theorem change_of_request {q : Request} (hq : q.On r) (m : Memory) :
    Change r m (after r m q) := by
  cases q with
  | call c => exact change_of_call hq m
  | upsert mode table row => exact change_of_upsert mode table row m

theorem run_preserves {Inv : Memory → Prop} (hempty : Inv empty)
    (hchange : ∀ m m', Change r m m' → Inv m → Inv m') (hs : ∀ q ∈ requests, q.On r) :
    Inv (run r requests empty) := by
  have hrun : ∀ m, Inv m → Inv (run r requests m) := by
    induction requests with
    | nil => exact fun _ h => h
    | cons q rest ih =>
      obtain ⟨hq, hrest⟩ := List.forall_mem_cons.1 hs
      exact fun m h => ih hrest _ (hchange m _ (change_of_request hq m) h)
  exact hrun empty hempty

/-! ### Keys -/

/-- The keys of each table ascend, and none is greater than the last one given. -/
structure Ascending (m : Memory) : Prop where
  sorted : ∀ table, (m.rows table).Pairwise fun a b => a.key < b.key
  given : ∀ table, ∀ row ∈ m.rows table, row.key ≤ m.sequence table

theorem ascending_empty : Ascending empty :=
  ⟨fun _ => List.Pairwise.nil, fun _ _ h => by cases h⟩

theorem sequence_store_self : (m.store table values).sequence table = m.sequence table + 1 := by
  simp [store, sequence]

theorem sequence_store_of_ne {other : String} (h : other ≠ table) :
    (m.store table values).sequence other = m.sequence other := by
  simp [store, sequence, Dict.get?_insert_of_ne h]

theorem Ascending.store (h : Ascending m) (table : String) (values : Row) :
    Ascending (m.store table values) := by
  constructor
  · intro other
    by_cases ho : other = table
    · subst ho
      rw [rows_store_self, List.pairwise_append]
      refine ⟨h.sorted other, List.pairwise_singleton _ _, fun a ha b hb => ?_⟩
      -- the new key is the next one after all that were given
      have hgiven := h.given other a ha
      rw [List.mem_singleton.1 hb]
      exact Int.lt_add_one_of_le hgiven
    · rw [rows_store_of_ne ho]
      exact h.sorted other
  · intro other row hrow
    rcases mem_rows_store hrow with hold | ⟨rfl, rfl⟩
    · have hgiven := h.given other row hold
      by_cases ho : other = table
      · subst ho
        rw [sequence_store_self]
        exact Int.le_add_one hgiven
      · rw [sequence_store_of_ne ho]
        exact hgiven
    · exact Int.le_of_eq sequence_store_self.symm

theorem Ascending.change (h : Ascending m) (hc : Change r m m') : Ascending m' := by
  cases hc with
  | thinned rows sequences =>
    refine ⟨fun table => (h.sorted table).sublist (rows table), fun table row hrow => ?_⟩
    rw [sequence, sequences]
    exact h.given table row ((rows table).subset hrow)
  | @stored t row values ht hc hr hm =>
    rw [hm]
    exact h.store t.name values

theorem ascending_run (hs : ∀ q ∈ requests, q.On r) : Ascending (run r requests empty) :=
  run_preserves ascending_empty (fun _ _ hc h => h.change hc) hs

/-- Where keys ascend, the first row of a kind has the least key of its kind. -/
theorem key_le_of_find? {rows : List StoredRow} {p : StoredRow → Bool} {first other : StoredRow}
    (hsorted : rows.Pairwise fun a b => a.key < b.key) (hfirst : rows.find? p = some first)
    (hother : other ∈ rows) (hp : p other) : first.key ≤ other.key := by
  obtain ⟨-, earlier, later, rfl, hearlier⟩ := List.find?_eq_some_iff_append.1 hfirst
  rcases List.mem_append.1 hother with hbefore | hafter
  · exact absurd hp (by simpa using hearlier other hbefore)
  · rcases List.mem_cons.1 hafter with rfl | hafter
    · exact Int.le_refl _
    · have hlater := (List.pairwise_append.1 hsorted).2.1
      exact Int.le_of_lt (List.rel_of_pairwise_cons hlater hafter)

end Memory

end Accession
