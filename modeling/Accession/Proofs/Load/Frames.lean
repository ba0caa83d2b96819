import Accession.Load.Keys

/-!
# Frames

The stacks of a walk, seen as one list: `Frames` holds the nodes around, the nearest first, each
with its table and with the key of its row if it made one.

* `Frames.key?` : the key of the nearest node of a table.  A node without a row hides those
  further out.
* `KeyStacks.Represents` : the stacks hold, for each table, the keys of its frames in order.  All
  stacks represent some frames (`KeyStacks.exists_represents`), and what they let a node see is what
  the frames let it see (`KeyStacks.Represents.peek`).
-/

namespace Accession

/-- The nodes around, the nearest first: their tables, and the keys of those that made a row. -/
abbrev Frames := List (String × Option Key)

/-- The key of the nearest node of a table, if it made a row. -/
def Frames.key? (frames : Frames) (table : String) : Option Key :=
  match frames with
  | [] => none
  | (t, key) :: outer => if t = table then key else key? outer table

namespace KeyStacks

/-- For each table, the stack holds the keys of its frames in order. -/
def Represents (keys : KeyStacks) (frames : Frames) : Prop :=
  ∀ table, keys.stack table = (frames.filter (·.1 = table)).map Prod.snd

theorem represents_empty : Represents empty [] := fun _ => rfl

/-- The entries of one stack, as frames. -/
def framesOf (table : String) (stack : List (Option Key)) : Frames := stack.map (table, ·)

theorem filter_framesOf_self (table : String) (stack : List (Option Key)) :
    (framesOf table stack).filter (·.1 = table) = framesOf table stack := by
  rw [List.filter_eq_self]
  simp [framesOf]

theorem filter_framesOf_of_ne {table other : String} (h : other ≠ table)
    (stack : List (Option Key)) : (framesOf other stack).filter (·.1 = table) = [] := by
  rw [List.filter_eq_nil_iff]
  simp [framesOf, h]

theorem filter_framesOf_eq_nil {d : Dict String (List (Option Key))} {table : String}
    (h : table ∉ d.keys) :
    (d.flatMap fun e => framesOf e.1 e.2).filter (·.1 = table) = [] := by
  induction d with
  | nil => rfl
  | cons e d ih =>
    obtain ⟨hne, h⟩ := not_or.1 (mt List.mem_cons.2 h)
    rw [List.flatMap_cons, List.filter_append, filter_framesOf_of_ne (Ne.symm hne), ih h]
    rfl

theorem exists_represents (keys : KeyStacks) : ∃ frames, keys.Represents frames := by
  -- the stacks one after another; what matters is the order within each
  refine ⟨keys.byTable.flatMap fun e => framesOf e.1 e.2, fun table => ?_⟩
  have hdistinct := keys.distinct
  unfold stack
  generalize keys.byTable = d at hdistinct ⊢
  induction d with
  | nil => rfl
  | cons e d ih =>
    obtain ⟨hnew, hdistinct⟩ := List.nodup_cons.1 hdistinct
    rw [List.flatMap_cons, List.filter_append, Dict.get?_cons]
    split
    · next he =>
      subst he
      rw [filter_framesOf_self, filter_framesOf_eq_nil hnew]
      simp [framesOf, Function.comp_def]
    · next he => rw [filter_framesOf_of_ne he, ih hdistinct, List.nil_append]

variable {keys : KeyStacks} {frames : Frames}

theorem Represents.push (h : keys.Represents frames) (table : String) (key : Option Key) :
    (keys.push table key).Represents ((table, key) :: frames) := by
  intro other
  by_cases ho : other = table
  · subst ho
    simp [h other]
  · rw [stack_push_of_ne ho, h other, List.filter_cons_of_neg (by simpa using Ne.symm ho)]

theorem Represents.peek (h : keys.Represents frames) (table : String) :
    keys.peek table = frames.key? table := by
  rw [KeyStacks.peek, h table]
  clear h
  induction frames with
  | nil => rfl
  | cons frame frames ih =>
    obtain ⟨t, key⟩ := frame
    rw [Frames.key?]
    split
    · next ht => simp [ht]
    · next ht => rw [List.filter_cons_of_neg (by simpa using ht), ih]

end KeyStacks

end Accession
