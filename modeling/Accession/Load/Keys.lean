import Accession.Store.Backend

/-!
# Keys of the rows around

While a record is loaded, `KeyStacks` holds for each table the keys of the rows on the way down to
the present node, the nearest on top.  An entry without a key stands for a node that made no row,
and hides the keys below it.

* `KeyStacks.push`, `KeyStacks.pop` : add and remove the top entry of a table.  A stack that
  becomes empty is removed.
* `KeyStacks.peek` : the key that a reference to a table stands for.
* `KeyStacks.enter`, `KeyStacks.leave` : what a node does on its way down and up; the way up
  undoes the way down (`KeyStacks.leave_enter`).
-/

namespace Accession

/-- The keys of the rows around, by table, the nearest first. -/
structure KeyStacks where
  byTable : Dict String (List (Option Key))
  /-- A stack is kept while it has an entry. -/
  filled : ∀ e ∈ byTable, e.2 ≠ []
  /-- A table has one stack. -/
  distinct : byTable.keys.Nodup
  deriving DecidableEq, Repr

namespace KeyStacks

/-- No rows around. -/
def empty : KeyStacks := ⟨[], by simp, List.nodup_nil⟩

theorem filled_insert {d : Dict String (List (Option Key))} (h : ∀ e ∈ d, e.2 ≠ [])
    (table : String) (key : Option Key) (rest : List (Option Key)) :
    ∀ e ∈ d.insert table (key :: rest), e.2 ≠ [] := by
  intro e he
  rcases Dict.mem_insert he with rfl | he
  · exact List.cons_ne_nil _ _
  · exact h e he

/-- The entries of a table, the nearest first. -/
def stack (s : KeyStacks) (table : String) : List (Option Key) :=
  (s.byTable.get? table).getD []

/-- Adds an entry on top of those of a table. -/
def push (s : KeyStacks) (table : String) (key : Option Key) : KeyStacks :=
  ⟨s.byTable.insert table (key :: s.stack table), filled_insert s.filled table key _,
    Dict.nodup_keys_insert s.distinct⟩

/-- Removes the top entry of a table, and answers it. -/
def pop (s : KeyStacks) (table : String) : Option (Option Key) × KeyStacks :=
  match s.stack table with
  | [] => (none, s)
  | [key] =>
    (some key, ⟨s.byTable.erase table, fun e he => s.filled e (Dict.mem_erase he),
      Dict.nodup_keys_erase s.distinct⟩)
  | key :: next :: rest =>
    (some key, ⟨s.byTable.insert table (next :: rest), filled_insert s.filled table next rest,
      Dict.nodup_keys_insert s.distinct⟩)

/-- The key of the nearest row of a table, if the nearest node of the table made one. -/
def peek (s : KeyStacks) (table : String) : Option Key := (s.stack table).head?.join

/-- The number of entries of a table. -/
def depth (s : KeyStacks) (table : String) : Nat := (s.stack table).length

/-- There is no entry for any table. -/
def isEmpty (s : KeyStacks) : Bool := s.byTable.isEmpty

/-- Adds the entry of a node, if the node has a table. -/
def enter (s : KeyStacks) (table : Option String) (key : Option Key) : KeyStacks :=
  match table with
  | some table => s.push table key
  | none => s

/-- Removes the entry of a node, if the node has a table. -/
def leave (s : KeyStacks) (table : Option String) : KeyStacks :=
  match table with
  | some table => (s.pop table).2
  | none => s

/-! ### Laws of the stacks -/

variable {s : KeyStacks} {table other : String} {key : Option Key}

@[ext] theorem ext {s t : KeyStacks} (h : s.byTable = t.byTable) : s = t := by
  cases s; cases t; cases h; rfl

@[simp] theorem stack_push_self : (s.push table key).stack table = key :: s.stack table := by
  simp [push, stack]

theorem stack_push_of_ne (h : other ≠ table) : (s.push table key).stack other = s.stack other := by
  simp [push, stack, Dict.get?_insert_of_ne h]

theorem get?_byTable (h : s.stack table ≠ []) : s.byTable.get? table = some (s.stack table) := by
  unfold stack at h ⊢
  cases hd : s.byTable.get? table with
  | none => simp [hd] at h
  | some keys => rfl

theorem get?_byTable_eq_none (h : s.stack table = []) : s.byTable.get? table = none := by
  unfold stack at h
  cases hd : s.byTable.get? table with
  | none => rfl
  | some keys =>
    rw [hd] at h
    exact absurd h (s.filled _ (Dict.mem_of_get? hd))

theorem stack_eq_nil_iff : s.stack table = [] ↔ table ∉ s.byTable.keys := by
  rw [← Dict.get?_eq_none_iff]
  constructor
  · exact get?_byTable_eq_none
  · intro h
    rw [stack, h]
    rfl

/-- The stacks are known by the order of the tables and by what is on them. -/
theorem eq_of_stack {t : KeyStacks} (hkeys : s.byTable.keys = t.byTable.keys)
    (h : ∀ table, s.stack table = t.stack table) : s = t := by
  refine ext (Dict.eq_of_keys hkeys s.distinct fun table => ?_)
  by_cases hs : s.stack table = []
  · rw [get?_byTable_eq_none hs, get?_byTable_eq_none (h table ▸ hs)]
  · rw [get?_byTable hs, get?_byTable (h table ▸ hs), h table]

theorem isEmpty_iff : s.isEmpty ↔ ∀ table, s.stack table = [] := by
  rw [isEmpty, List.isEmpty_iff]
  constructor
  · intro h table
    rw [stack, h]
    rfl
  · intro h
    have hkeys : s.byTable.keys = [] :=
      List.eq_nil_iff_forall_not_mem.2 fun table => stack_eq_nil_iff.1 (h table)
    exact List.map_eq_nil_iff.1 hkeys

theorem pop_of_stack_eq_nil (h : s.stack table = []) : s.pop table = (none, s) := by
  rw [pop]
  split
  · rfl
  · next hs =>
    rw [h] at hs
    cases hs
  · next hs =>
    rw [h] at hs
    cases hs

theorem fst_pop : (s.pop table).1 = (s.stack table).head? := by
  rw [pop]
  split <;> next hs => rw [hs]; rfl

theorem keys_push : (s.push table key).byTable.keys =
    if table ∈ s.byTable.keys then s.byTable.keys else s.byTable.keys ++ [table] :=
  Dict.keys_insert

theorem keys_pop : (s.pop table).2.byTable.keys =
    if (s.stack table).tail = [] then s.byTable.keys.erase table else s.byTable.keys := by
  rw [pop]
  split
  · next hs => rw [hs, List.tail_nil, if_pos rfl, List.erase_of_not_mem (stack_eq_nil_iff.1 hs)]
  · next hs =>
    rw [hs, List.tail_cons, if_pos rfl]
    exact Dict.keys_erase
  · next hs =>
    -- the table stays where it is
    have hmem : table ∈ s.byTable.keys := Decidable.byContradiction fun h => by
      rw [stack_eq_nil_iff.2 h] at hs
      cases hs
    rw [hs, List.tail_cons, if_neg (List.cons_ne_nil _ _)]
    exact Dict.keys_insert.trans (if_pos hmem)

theorem stack_pop_self : (s.pop table).2.stack table = (s.stack table).tail := by
  rw [pop]
  split
  · next hs => rw [hs, List.tail_nil]
  · next hs =>
    rw [hs, List.tail_cons, stack, Dict.get?_erase_self s.distinct]
    rfl
  · next hs =>
    rw [hs, List.tail_cons, stack, Dict.get?_insert_self]
    rfl

theorem stack_pop_of_ne (h : other ≠ table) : (s.pop table).2.stack other = s.stack other := by
  rw [pop]
  split
  · rfl
  · rw [stack, Dict.get?_erase_of_ne h]
    rfl
  · rw [stack, Dict.get?_insert_of_ne h]
    rfl

/-- **Popping undoes pushing**, whatever was on the stack before. -/
theorem pop_push : (s.push table key).pop table = (some key, s) := by
  have hp : (s.push table key).stack table = key :: s.stack table := stack_push_self
  unfold pop
  split
  · next h => rw [hp] at h; cases h
  · next k h =>
    rw [hp] at h
    obtain ⟨rfl, hs⟩ := List.cons.inj h
    refine Prod.ext rfl (ext ?_)
    -- the table had no stack, and its place is taken out again
    exact Dict.erase_insert (get?_byTable_eq_none hs)
  · next k next rest h =>
    rw [hp] at h
    obtain ⟨rfl, hs⟩ := List.cons.inj h
    refine Prod.ext rfl (ext ?_)
    have hne : s.stack table ≠ [] := by rw [hs]; exact List.cons_ne_nil _ _
    have hd := get?_byTable hne
    change (s.byTable.insert table _).insert table (next :: rest) = s.byTable
    rw [Dict.insert_insert, ← hs, Dict.insert_of_get? hd]

theorem leave_enter (s : KeyStacks) (table : Option String) (key : Option Key) :
    (s.enter table key).leave table = s := by
  cases table with
  | none => rfl
  | some table => exact congrArg Prod.snd pop_push

end KeyStacks

end Accession
