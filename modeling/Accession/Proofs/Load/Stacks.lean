import Mathlib.Data.List.Infix
import Mathlib.Logic.Function.Basic
import Accession.Load.Keys

/-!
# One stack for each table

The stacks of a walk are kept together, and a table has a place among them only while it has
entries.  What can be seen of them is still what one list for each table would show, and a scope
that is left in good order leaves no trace, not even in the order of the tables.

* `Move` : a push, a pop, or the way into or out of a scope.  Scopes may be nested and mixed with
  the rest in any way: `leave` removes an entry of its table, whoever pushed it.
* `Lists` : one list of entries for each table.
* `move_agrees` : a move does to the stack of a table what it does to its list.
* `Balanced` : moves that take no stack below where it was, and leave each as high as it was.
  `Paired` moves are balanced; those of different tables may also overlap.
* `Beneath.move` : as long as no stack goes below where it was, what was there is still there.
* `stacks_as_lists` : the stacks against the lists, and scopes with balanced moves inside.

What this does **not** say: a scope whose moves end at the same height, but went below it on the
way, may leave other keys on the stacks than it found.
-/

namespace Accession.KeyStacks

/-! ### Moves -/

/-- What is done to the stacks. -/
inductive Move where
  | push (table : String) (key : Option Key)
  | pop (table : String)
  /-- The way into a scope. -/
  | enter (table : Option String) (key : Option Key)
  /-- The way out of a scope with this table. -/
  | leave (table : Option String)
  deriving DecidableEq, Repr

/-- What pops have answered. -/
abbrev Popped := List (Option (Option Key))

/-- What a move answers, and the stacks after it. -/
def move (s : KeyStacks) : Move → Popped × KeyStacks
  | .push table key => ([], s.push table key)
  | .pop table => ([(s.pop table).1], (s.pop table).2)
  | .enter table key => ([], s.enter table key)
  | .leave table => ([], s.leave table)

/-- One list of entries for each table, the latest first. -/
abbrev Lists := String → List (Option Key)

namespace Lists

/-- No entries. -/
def empty : Lists := fun _ => []

/-- Adds an entry to the list of a table. -/
def push (l : Lists) (table : String) (key : Option Key) : Lists :=
  Function.update l table (key :: l table)

/-- Drops the latest entry of a table. -/
def drop (l : Lists) (table : String) : Lists := Function.update l table (l table).tail

/-- The key of the latest entry of a table: none if the entry has none, whatever is before it. -/
def peek (l : Lists) (table : String) : Option Key :=
  match l table with
  | [] => none
  | key :: _ => key

/-- What a move answers, and the lists after it. -/
def move (l : Lists) : Move → Popped × Lists
  | .push table key => ([], push l table key)
  | .pop table => ([(l table).head?], drop l table)
  | .enter (some table) key => ([], push l table key)
  | .leave (some table) => ([], drop l table)
  | .enter none _ | .leave none => ([], l)

end Lists

/-- What a sequence of moves answers, and the state after it, if `step` says so of one move. -/
def follow {σ : Type} (step : σ → Move → Popped × σ) : List Move → σ → Popped × σ
  | [], s => ([], s)
  | m :: moves, s =>
    let (first, s) := step s m
    let (later, s) := follow step moves s
    (first ++ later, s)

/-- The stacks after a sequence of moves. -/
def after (s : KeyStacks) (moves : List Move) : KeyStacks := (follow move moves s).2

variable {s t base : KeyStacks} {table : String} {key : Option Key} {moves inner : List Move}

theorem after_cons (s : KeyStacks) (m : Move) (moves : List Move) :
    s.after (m :: moves) = (s.move m).2.after moves := rfl

theorem after_append (s : KeyStacks) (moves later : List Move) :
    s.after (moves ++ later) = (s.after moves).after later := by
  induction moves generalizing s with
  | nil => rfl
  | cons m moves ih => exact ih (s.move m).2

/-! ### Stacks and lists -/

/-- The stack of each table is its list. -/
def Agrees (s : KeyStacks) (l : Lists) : Prop := ∀ table, s.stack table = l table

section Agrees

variable {l : Lists}

theorem Agrees.push (h : s.Agrees l) (table : String) (key : Option Key) :
    (s.push table key).Agrees (Lists.push l table key) := by
  intro other
  by_cases ho : other = table
  · subst ho
    rw [stack_push_self, Lists.push, Function.update_self, h]
  · rw [stack_push_of_ne ho, Lists.push, Function.update_of_ne ho, h]

theorem Agrees.pop (h : s.Agrees l) (table : String) :
    (s.pop table).2.Agrees (Lists.drop l table) := by
  intro other
  by_cases ho : other = table
  · subst ho
    rw [stack_pop_self, Lists.drop, Function.update_self, h]
  · rw [stack_pop_of_ne ho, Lists.drop, Function.update_of_ne ho, h]

/-- **A move is answered alike** by stacks and lists that agree, and they still agree after it. -/
theorem move_agrees (h : s.Agrees l) (m : Move) :
    (s.move m).1 = (Lists.move l m).1 ∧ (s.move m).2.Agrees (Lists.move l m).2 := by
  cases m with
  | push table key => exact ⟨rfl, h.push table key⟩
  | pop table =>
    refine ⟨?_, h.pop table⟩
    change [(s.pop table).1] = [(l table).head?]
    rw [fst_pop, h]
  | enter table key => cases table with
    | none => exact ⟨rfl, h⟩
    | some table => exact ⟨rfl, h.push table key⟩
  | leave table => cases table with
    | none => exact ⟨rfl, h⟩
    | some table => exact ⟨rfl, h.pop table⟩

theorem follow_agrees (h : s.Agrees l) (moves : List Move) :
    (follow move moves s).1 = (follow Lists.move moves l).1 ∧
      (follow move moves s).2.Agrees (follow Lists.move moves l).2 := by
  induction moves generalizing s l with
  | nil => exact ⟨rfl, h⟩
  | cons m moves ih =>
    obtain ⟨hfirst, hnext⟩ := move_agrees h m
    obtain ⟨hlater, hlast⟩ := ih hnext
    exact ⟨congrArg₂ List.append hfirst hlater, hlast⟩

theorem Agrees.peek (h : s.Agrees l) (table : String) : s.peek table = Lists.peek l table := by
  rw [KeyStacks.peek, Lists.peek, h]
  cases l table <;> rfl

end Agrees

/-! ### What stays beneath -/

/-- All that was on the stacks is still there, with the tables in their order, and beneath what has
come since. -/
structure Beneath (base s : KeyStacks) : Prop where
  entries : ∀ table, base.stack table <:+ s.stack table
  places : base.byTable.keys <+: s.byTable.keys

theorem Beneath.refl (s : KeyStacks) : Beneath s s :=
  ⟨fun _ => List.suffix_refl _, List.prefix_refl _⟩

theorem Beneath.push (h : Beneath base s) (table : String) (key : Option Key) :
    Beneath base (s.push table key) := by
  constructor
  · intro other
    by_cases ho : other = table
    · subst ho
      rw [stack_push_self]
      exact (h.entries other).trans (List.suffix_cons _ _)
    · rw [stack_push_of_ne ho]
      exact h.entries other
  · rw [keys_push]
    split
    · exact h.places
    · exact h.places.trans (List.prefix_append _ _)

/-- An entry may be popped if the stack does not go below where it was. -/
theorem Beneath.pop (h : Beneath base s)
    (hdepth : base.depth table ≤ (s.pop table).2.depth table) : Beneath base (s.pop table).2 := by
  rw [depth, depth, stack_pop_self] at hdepth
  constructor
  · intro other
    by_cases ho : other = table
    · subst ho
      rw [stack_pop_self]
      exact List.suffix_of_suffix_length_le (h.entries other) (List.tail_suffix _) hdepth
    · rw [stack_pop_of_ne ho]
      exact h.entries other
  · rw [keys_pop]
    split
    · next htail =>
      -- the table had no entries, so its place is not one of those there were
      have hempty : base.stack table = [] := by simpa [htail] using hdepth
      obtain ⟨later, hlater⟩ := h.places
      rw [← hlater, List.erase_append_right _ (stack_eq_nil_iff.1 hempty)]
      exact List.prefix_append _ _
    · exact h.places

theorem Beneath.move (h : Beneath base s) {m : Move}
    (hdepth : ∀ table, base.depth table ≤ (s.move m).2.depth table) :
    Beneath base (s.move m).2 := by
  cases m with
  | push table key => exact h.push table key
  | pop table => exact h.pop (hdepth table)
  | enter table key => cases table with
    | none => exact h
    | some table => exact h.push table key
  | leave table => cases table with
    | none => exact h
    | some table => exact h.pop (hdepth table)

theorem Beneath.after (h : Beneath base s)
    (hdepth : ∀ before, before <+: moves →
      ∀ table, base.depth table ≤ (s.after before).depth table) :
    Beneath base (s.after moves) := by
  -- what comes before a move is a state on the way, so each move meets the condition of its step
  induction moves generalizing s with
  | nil => exact h
  | cons m moves ih =>
    refine ih (h.move (hdepth [m] ⟨moves, rfl⟩)) fun before hbefore => ?_
    exact hdepth (m :: before) (List.cons_prefix_cons.2 ⟨rfl, hbefore⟩)

/-- Stacks that are as high as they were are what they were. -/
theorem Beneath.eq_of_level (h : Beneath base s)
    (hlevel : ∀ table, s.depth table = base.depth table) : s = base := by
  have hstack : ∀ table, base.stack table = s.stack table := fun table =>
    (h.entries table).eq_of_length (hlevel table).symm
  obtain ⟨later, hlater⟩ := h.places
  have hnone : later = [] := by
    refine List.eq_nil_iff_forall_not_mem.2 fun table htable => ?_
    -- a table with a new place would have entries, and so have had a place before
    have hdistinct : (base.byTable.keys ++ later).Nodup := hlater ▸ s.distinct
    have hnew : table ∉ base.byTable.keys := fun hold =>
      (List.nodup_append.1 hdistinct).2.2 table hold table htable rfl
    have hnotnew : table ∉ s.byTable.keys := by
      rw [← stack_eq_nil_iff, ← hstack]
      exact stack_eq_nil_iff.2 hnew
    exact hnotnew (hlater ▸ List.mem_append_right _ htable)
  rw [hnone, List.append_nil] at hlater
  exact eq_of_stack hlater.symm fun table => (hstack table).symm

/-! ### Balanced moves -/

/-- Moves that take no stack below where it was at the start, and leave each as high as it was. -/
structure Balanced (s : KeyStacks) (moves : List Move) : Prop where
  above : ∀ before, before <+: moves → ∀ table, s.depth table ≤ (s.after before).depth table
  level : ∀ table, (s.after moves).depth table = s.depth table

/-- **Balanced moves leave no trace.** -/
theorem Balanced.after_eq (h : Balanced s moves) : s.after moves = s :=
  ((Beneath.refl s).after h.above).eq_of_level h.level

/-- Moves that end where they began may still have gone below it and put something else there. -/
example : (empty.push "topic" (some 1)).after [.pop "topic", .push "topic" (some 2)] ≠
    empty.push "topic" (some 1) := by decide

theorem balanced_nil (s : KeyStacks) : Balanced s [] := by
  refine ⟨fun before hbefore table => ?_, fun _ => rfl⟩
  rw [List.prefix_nil.1 hbefore]
  exact le_rfl

theorem Balanced.append {later : List Move} (h : Balanced s moves) (hlater : Balanced s later) :
    Balanced s (moves ++ later) := by
  constructor
  · intro before hbefore table
    rcases List.prefix_or_prefix_of_prefix hbefore (List.prefix_append moves later) with hb | hb
    · exact h.above before hb table
    · obtain ⟨rest, rfl⟩ := hb
      rw [after_append, h.after_eq]
      exact hlater.above rest ((List.prefix_append_right_inj moves).1 hbefore) table
  · intro table
    rw [after_append, h.after_eq, hlater.after_eq]

/-- Moves between one that adds and one that takes that back. -/
theorem Balanced.around {first last : Move} (h : Balanced (s.move first).2 inner)
    (hfirst : ∀ table, s.depth table ≤ (s.move first).2.depth table)
    (hlast : ((s.move first).2.move last).2 = s) : Balanced s (first :: inner ++ [last]) := by
  have hend : s.after (first :: inner ++ [last]) = s := by
    rw [after_append, after_cons s first inner, h.after_eq]
    exact hlast
  constructor
  · intro before hbefore table
    rcases List.prefix_concat_iff.1 hbefore with rfl | hbefore
    · rw [hend]
    · rcases List.prefix_cons_iff.1 hbefore with rfl | ⟨rest, rfl, hrest⟩
      · exact le_rfl
      · exact (hfirst table).trans (h.above rest hrest table)
  · intro table
    rw [hend]

theorem depth_le_push (s : KeyStacks) (table : String) (key : Option Key) (other : String) :
    s.depth other ≤ (s.push table key).depth other :=
  (((Beneath.refl s).push table key).entries other).length_le

theorem depth_le_enter (s : KeyStacks) (table : Option String) (key : Option Key)
    (other : String) : s.depth other ≤ (s.enter table key).depth other := by
  cases table with
  | none => exact le_rfl
  | some table => exact depth_le_push s table key other

/-- Each push has its pop, and each scope is left, with nothing unfinished in between. -/
inductive Paired : List Move → Prop
  | nil : Paired []
  | append {moves later : List Move} (h : Paired moves) (hlater : Paired later) :
      Paired (moves ++ later)
  | push (table : String) (key : Option Key) {inner : List Move} (h : Paired inner) :
      Paired (.push table key :: inner ++ [.pop table])
  | scope (table : Option String) (key : Option Key) {inner : List Move} (h : Paired inner) :
      Paired (.enter table key :: inner ++ [.leave table])

theorem Paired.balanced (h : Paired moves) (s : KeyStacks) : Balanced s moves := by
  induction h generalizing s with
  | nil => exact balanced_nil s
  | append _ _ ih ihlater => exact (ih s).append (ihlater s)
  | push table key _ ih =>
    exact (ih _).around (depth_le_push s table key) (congrArg Prod.snd pop_push)
  | scope table key _ ih =>
    exact (ih _).around (depth_le_enter s table key) (leave_enter s table key)

/-! ### The stacks as a whole -/

/-- **The stacks are one list for each table.**  After any moves, all pops have answered what the
lists answer, and so does what can be seen of a table: its top key, its depth, and the next pop,
which changes nothing if the table has no entries.  The stacks are empty just if no table has an
entry, and a scope with balanced moves inside leaves them as they were. -/
theorem stacks_as_lists (moves : List Move) :
    let keys := (follow move moves empty).2
    let lists := (follow Lists.move moves Lists.empty).2
    (follow move moves empty).1 = (follow Lists.move moves Lists.empty).1 ∧
    (∀ table, keys.peek table = Lists.peek lists table ∧
      keys.depth table = (lists table).length ∧
      (keys.pop table).1 = (lists table).head? ∧
      (lists table = [] → keys.pop table = (none, keys))) ∧
    (keys.isEmpty ↔ ∀ table, keys.depth table = 0) ∧
    ∀ table key inner, Balanced (keys.enter table key) inner →
      keys.after (.enter table key :: inner ++ [.leave table]) = keys := by
  intro keys lists
  obtain ⟨hanswers, hagrees⟩ : _ ∧ keys.Agrees lists :=
    follow_agrees (fun _ => rfl : empty.Agrees Lists.empty) moves
  refine ⟨hanswers, fun table => ⟨hagrees.peek table, ?_, ?_, fun hnone => ?_⟩, ?_, ?_⟩
  · rw [depth, hagrees]
  · rw [fst_pop, hagrees]
  · exact pop_of_stack_eq_nil ((hagrees table).trans hnone)
  · simp only [isEmpty_iff, depth, List.length_eq_zero_iff]
  · intro table key inner hinner
    rw [after_append]
    change ((keys.enter table key).after inner).leave table = keys
    rw [hinner.after_eq, leave_enter]

/-- A node without a row, and in it one of the same table and one of another. -/
theorem scopes_left :
    let outer : List Move := [.push "record" (some 7), .push "topic" none]
    let inner : List Move := [.enter (some "record") (some 9), .push "topic" (some 2),
      .pop "topic", .leave (some "record")]
    let keys := (follow move outer empty).2
    Balanced (keys.enter (some "record") none) inner ∧
      (keys.enter (some "record") none).peek "record" = none ∧
      keys.after (.enter (some "record") none :: inner ++ [.leave (some "record")]) = keys ∧
      keys.peek "record" = some 7 ∧ keys.pop "author" = (none, keys) := by
  intro outer inner keys
  have hinner : Balanced (keys.enter (some "record") none) inner :=
    (Paired.scope (some "record") (some 9) (.push "topic" (some 2) .nil)).balanced _
  obtain ⟨-, hseen, -, hscope⟩ := stacks_as_lists outer
  obtain ⟨-, -, -, hnothing⟩ := hseen "author"
  exact ⟨hinner, rfl, hscope (some "record") none inner hinner, rfl, hnothing rfl⟩

end Accession.KeyStacks
