import Accession.Proofs.Load.Plan
import Accession.Proofs.Memory.Again

/-!
# Loading a record again

The second load of a record need not see the keys that the first one saw: where texts are matched
loosely, a row may be found that is not the one from before.  What the two loads share is the shape
of what they ask, and the keys of the second are those of stored rows.

* `Mapping.Node.KeysSuit` : the columns that a node fills with keys may hold any of them.
* `FrameAlike` : the same node around, in the two loads.
* `Repeats` : a dialogue asks again what another one asked, up to keys.
* `visit_repeats` : the second load repeats the first.
* `loadRecord_again` : it reuses all rows, and changes nothing.
-/

namespace Accession

namespace Mapping

/-- A column that is filled from a source may hold any key that the source stands for: it holds
integers and refers to no other table, and no constraint speaks of it. -/
def Source.KeySuits (t : TableSchema) (column : String) : Source → Prop
  | foreignKey target _ =>
    t.columnType? column = some .integer ∧
      (∀ fk ∈ t.foreignKeys, fk.1 = column → fk.2 = target) ∧
      ∀ columns ∈ t.unique, column ∉ columns
  | _ => True

instance (t : TableSchema) (column : String) : (s : Source) → Decidable (s.KeySuits t column)
  | .foreignKey target _ =>
    inferInstanceAs (Decidable (t.columnType? column = some .integer ∧
      (∀ fk ∈ t.foreignKeys, fk.1 = column → fk.2 = target) ∧
      ∀ columns ∈ t.unique, column ∉ columns))
  | .literal _ | .tag _ | .deferred => .isTrue trivial

/-- The keys that a node binds suit the columns of its table. -/
def Node.KeysSuit (r : Registry) (n : Node) : Prop :=
  ∀ table ∈ n.table, ∀ t ∈ r.get? table, ∀ b ∈ n.bindings, b.2.KeySuits t b.1

instance (r : Registry) (n : Node) : Decidable (n.KeysSuit r) :=
  inferInstanceAs (Decidable (∀ table, table ∈ n.table → ∀ t, t ∈ r.get? table →
    ∀ b ∈ n.bindings, b.2.KeySuits t b.1))

end Mapping

namespace Load

open Mapping (Node Source)
open Memory (HasKey Rekeyed Grows)

/-- What became of the rows when they are loaded again: all are reused. -/
def Stats.again (s : Stats) : Stats := ⟨0, s.created + s.reused, s.skipped⟩

variable {r : Registry} {mode : TextMatch} {m : Memory} {frames frames' : Frames} {n : Node}
  {place : Place} {α β γ δ : Type}

theorem Stats.again_add (s t : Stats) : (s.add t).again = s.again.add t.again := by
  simp only [again, add, Stats.mk.injEq, true_and, and_true]
  omega

theorem Stats.again_count (u : Upserted) (key : Key) :
    (Stats.zero.count u).again = Stats.zero.count ⟨key, false⟩ := by
  obtain ⟨_, _ | _⟩ := u <;> rfl

/-! ### The nodes around -/

/-- The same node around in two loads: it made a row in both of them or in none, and the key in the
second is that of a stored row. -/
inductive FrameAlike (m : Memory) : String × Option Key → String × Option Key → Prop
  | unkeyed (table : String) : FrameAlike m (table, none) (table, none)
  | keyed {table : String} {old new : Key} (stored : m.HasKey table new) :
      FrameAlike m (table, some old) (table, some new)

theorem key?_alike (h : List.Forall₂ (FrameAlike m) frames frames') (table : String) :
    Option.Rel (fun _ new => m.HasKey table new) (frames.key? table) (frames'.key? table) := by
  induction h with
  | nil => exact .none
  | cons hframe _ ih =>
    cases hframe with
    | unkeyed t =>
      rw [Frames.key?, Frames.key?]
      split
      · exact .none
      · exact ih
    | keyed stored =>
      rw [Frames.key?, Frames.key?]
      split
      · next ht => exact .some (ht ▸ stored)
      · exact ih

/-- The entries that a node makes in two loads: they are the same, or keys for the same binding. -/
inductive EntryAlike (m : Memory) (n : Node) : String × Value → String × Value → Prop
  | same (entry : String × Value) : EntryAlike m n entry entry
  | key {column target : String} {name : Option String} {old new : Key}
      (bound : (column, Source.foreignKey target name) ∈ n.bindings)
      (stored : m.HasKey target new) :
      EntryAlike m n (column, .integer old) (column, .integer new)

theorem valueAt_alike (h : List.Forall₂ (FrameAlike m) frames frames') {column : String}
    {source : Source} (hb : (column, source) ∈ n.bindings) (place : Place) :
    Option.Rel (fun v v' => EntryAlike m n (column, v) (column, v'))
      (valueAt frames place source) (valueAt frames' place source) := by
  cases source with
  | literal value => exact .some (.same _)
  | tag t =>
    rw [valueAt, valueAt]
    cases place.resolve t with
    | none => exact .none
    | some text => exact .some (.same _)
  | foreignKey target name =>
    have hkeys := key?_alike h target
    rw [valueAt, valueAt]
    generalize frames.key? target = old at hkeys ⊢
    generalize frames'.key? target = new at hkeys ⊢
    cases hkeys with
    | none => exact .none
    | some stored => exact .some (.key hb stored)
  | deferred => exact .none

theorem rowAt_alike (h : List.Forall₂ (FrameAlike m) frames frames') (n : Node) (place : Place) :
    List.Forall₂ (EntryAlike m n) (rowAt frames n place) (rowAt frames' n place) := by
  have hbindings : List.Forall₂ (fun b b' => b = b' ∧ b ∈ n.bindings) n.bindings n.bindings :=
    List.forall₂_same.2 fun b hb => ⟨rfl, hb⟩
  refine List.rel_filterMap ?_ hbindings
  rintro ⟨column, source⟩ _ ⟨rfl, hb⟩
  have hvalues := valueAt_alike h hb place
  dsimp only
  generalize valueAt frames place source = v at hvalues ⊢
  generalize valueAt frames' place source = v' at hvalues ⊢
  cases hvalues with
  | none => exact .none
  | some halike => exact .some halike

theorem EntryAlike.rekeyed {table : String} {t : TableSchema} (hn : n.KeysSuit r)
    (htable : n.table = some table) (ht : r.get? table = some t) {entry entry' : String × Value}
    (h : EntryAlike m n entry entry') : Rekeyed m t entry entry' := by
  cases h with
  | same entry => exact .same entry
  | key bound stored =>
    obtain ⟨hinteger, hrefers, hfree⟩ := hn table htable t ht _ bound
    refine .key hinteger (fun other hother => ?_) hfree
    have hother : other = _ := hrefers _ hother rfl
    rw [hother]
    exact stored

/-! ### Dialogues -/

/-- A dialogue asks again what another one asked, up to keys, provided that it is told keys of
stored rows; the results are related. -/
inductive Repeats (r : Registry) (m : Memory) (Rel : α → β → Prop) :
    Dialogue α → Dialogue β → Prop
  | done {a : α} {b : β} (h : Rel a b) : Repeats r m Rel (.done a) (.done b)
  | ask {table : String} {row row' : Row} {next : Upserted → Dialogue α}
      {next' : Upserted → Dialogue β}
      (hrow : ∀ t, r.get? table = some t → List.Forall₂ (Rekeyed m t) row row')
      (hnext : ∀ u key, m.HasKey table key → Repeats r m Rel (next u) (next' ⟨key, false⟩)) :
      Repeats r m Rel (.ask table row next) (.ask table row' next')

theorem Repeats.bind {Rel : α → β → Prop} {Rel' : γ → δ → Prop} {d : Dialogue α} {d' : Dialogue β}
    {f : α → Dialogue γ} {f' : β → Dialogue δ} (h : Repeats r m Rel d d')
    (hf : ∀ a b, Rel a b → Repeats r m Rel' (f a) (f' b)) :
    Repeats r m Rel' (d >>= f) (d' >>= f') := by
  induction h with
  | done hab => exact hf _ _ hab
  | ask hrow _ ih => exact .ask hrow ih

theorem run_grows {d : Dialogue α} {s s' : Memory} {a : α}
    (h : d.run (Store.inMemory r mode).upsert s = (.ok a, s')) : Grows s s' := by
  induction d generalizing s with
  | done value =>
    cases h
    exact Grows.refl _
  | ask table row next ih =>
    rcases hu : (Store.inMemory r mode).upsert table row s with ⟨e | u, s₁⟩
    · rw [Dialogue.run_ask_error hu] at h
      cases h
    · rw [Dialogue.run_ask_ok hu] at h
      exact (Memory.upsert_grows hu).trans (ih u h)

/-- What repeats a dialogue that was held to its end changes nothing, if every row that was asked
for can be told from others. -/
theorem Repeats.run {Rel : α → β → Prop} {d : Dialogue α} {d' : Dialogue β} {s : Memory} {a : α}
    (h : Repeats r m Rel d d') (hrun : d.run (Store.inMemory r mode).upsert s = (.ok a, m))
    (hrows : ∀ c ∈ d.calls (Store.inMemory r mode).upsert s, r.Identifies c.table c.row) :
    ∃ b, Rel a b ∧ d'.run (Store.inMemory r mode).upsert m = (.ok b, m) := by
  induction h generalizing s with
  | done hab =>
    cases hrun
    exact ⟨_, hab, rfl⟩
  | @ask table row row' next next' hrow hnext ih =>
    rcases hu : (Store.inMemory r mode).upsert table row s with ⟨e | u, s₁⟩
    · rw [Dialogue.run_ask_error hu] at hrun
      cases hrun
    · rw [Dialogue.run_ask_ok hu] at hrun
      rw [Dialogue.calls_ask_ok hu] at hrows
      obtain ⟨hi, hrows⟩ := List.forall_mem_cons.1 hrows
      -- the store only grew since this row was upserted
      obtain ⟨key, hkey, hagain⟩ := Memory.upsert_again hu hi (run_grows hrun) hrow
      rw [Dialogue.run_ask_ok hagain]
      exact ih u key hkey hrun hrows

/-! ### The second load -/

/-- The rows of two visits, the second of which reuses them all. -/
def Again (s s' : Stats) : Prop := s' = s.again

theorem Again.add {s s' t t' : Stats} (hs : Again s s') (ht : Again t t') :
    Again (s.add t) (s'.add t') := by
  rw [Again, hs, ht, Stats.again_add]

theorem Repeats.counted {d d' : Dialogue Stats} {own own' : Stats} (hown : Again own own')
    (h : Repeats r m Again d d') :
    Repeats r m Again (do let rest ← d; pure (own.add rest))
      (do let rest ← d'; pure (own'.add rest)) :=
  h.bind fun _ _ hrest => .done (hown.add hrest)

theorem settleRow_repeats (hn : n.KeysSuit r) (h : List.Forall₂ (FrameAlike m) frames frames')
    (place : Place) :
    Repeats r m (fun p p' => List.Forall₂ (FrameAlike m) p.1 p'.1 ∧ Again p.2 p'.2)
      (settleRow frames n place) (settleRow frames' n place) := by
  cases htable : n.table with
  | none =>
    rw [settleRow, settleRow, htable]
    exact .done ⟨h, rfl⟩
  | some table =>
    have hrow := rowAt_alike h n place
    simp only [settleRow, htable]
    -- alike rows are empty together, so the second load asks where the first one did
    generalize rowAt frames n place = row at hrow ⊢
    generalize rowAt frames' n place = row' at hrow ⊢
    cases hrow with
    | nil => exact .done ⟨.cons (.unkeyed table) h, rfl⟩
    | cons hentry hrest =>
      refine .ask (fun t ht => ?_) fun u key hkey => .done ⟨.cons (.keyed hkey) h, ?_⟩
      · exact (List.Forall₂.cons hentry hrest).imp fun _ _ => EntryAlike.rekeyed hn htable ht
      · exact (Stats.again_count u key).symm

theorem forPlaces_repeats {f f' : Place → Dialogue Stats}
    (h : ∀ place, Repeats r m Again (f place) (f' place)) (places : List Place) :
    Repeats r m Again (forPlaces f places) (forPlaces f' places) := by
  induction places with
  | nil => exact .done rfl
  | cons place rest ih => exact (h place).bind fun _ _ hfirst => ih.counted hfirst

mutual

/-- **The second load repeats the first**, at every node and with the same nodes around. -/
theorem visit_repeats {frames frames' : Frames} (h : List.Forall₂ (FrameAlike m) frames frames') :
    (n : Node) → (∀ n' ∈ n.nodes, n'.KeysSuit r) → (place : Place) →
      Repeats r m Again (visit frames n place) (visit frames' n place)
  | ⟨name, table, bindings, children, conflicts⟩, hn, place => by
    rw [Node.nodes] at hn
    obtain ⟨hself, hbelow⟩ := List.forall_mem_cons.1 hn
    rw [visit, visit]
    refine forPlaces_repeats (fun spot => ?_) _
    exact (settleRow_repeats hself h spot).bind fun _ _ ⟨hinner, hown⟩ =>
      (visitAll_repeats hinner children hbelow spot).counted hown

theorem visitAll_repeats {frames frames' : Frames}
    (h : List.Forall₂ (FrameAlike m) frames frames') :
    (children : List (String × Node)) → (∀ n' ∈ Node.nodesOf children, n'.KeysSuit r) →
      (place : Place) →
        Repeats r m Again (visitAll frames children place) (visitAll frames' children place)
  | [], _, _ => by
    rw [visitAll, visitAll]
    exact .done rfl
  | (_, n) :: rest, hn, place => by
    rw [Node.nodesOf] at hn
    obtain ⟨hfirst, hrest⟩ := List.forall_mem_append.1 hn
    rw [visitAll, visitAll]
    exact (visit_repeats h n hfirst place).bind fun _ _ hown =>
      (visitAll_repeats h rest hrest place).counted hown

end

/-- **Loading a record again reuses its rows.**  If a load succeeded, and every row that it upserted
had a value in all columns of some constraint, none of them a double that is not a number, then a
second load makes no row: it reuses as many as the first created and reused, skips as many, and
leaves the store exactly as it was. -/
theorem loadRecord_again {mapping : Mapping} {record : Record} {before after : Memory}
    {stats : Stats} (hkeys : ∀ n ∈ mapping.root.nodes, n.KeysSuit r)
    (hload : loadRecord (Store.inMemory r mode) mapping record before = (.ok stats, after))
    (hrows : ∀ a ∈ asked (Store.inMemory r mode) mapping record before,
      r.Identifies a.table a.row) :
    loadRecord (Store.inMemory r mode) mapping record after =
      (.ok ⟨0, stats.created + stats.reused, stats.skipped⟩, after) := by
  rw [loadRecord_eq_run] at hload ⊢
  rw [asked_eq_calls] at hrows
  have hrepeats : Repeats r after Again (plan mapping record) (plan mapping record) :=
    visit_repeats .nil mapping.root hkeys (.record record)
  obtain ⟨stats', rfl, hagain⟩ := hrepeats.run hload hrows
  exact hagain

namespace Library

/-- Works, by title. -/
def works : TableSchema :=
  (((TableSchema.new "work").withColumn "number" .integer false).withColumn
    "title" .text false).withUnique ["title"]

/-- Copies, by mark, each of a work. -/
def copies : TableSchema :=
  ((((TableSchema.new "copy").withColumn "work_id" .integer false).withColumn
    "mark" .text false).withForeignKey "work_id" "work").withUnique ["mark"]

/-- The works and the copies. -/
def registry : Registry := (Registry.empty.withTable works).withTable copies

/-- The copies of a work, one for each mark. -/
def copyNode : Node :=
  ((Node.new "copy").withBinding "copy" "work_id" (.foreignKey "work" none)).withBinding
    "copy" "mark" (.tag ⟨"850", some 'a'⟩)

/-- A work with its number and title, and its copies. -/
def workNode : Node :=
  (((Node.new "work").withBinding "work" "number" (.tag ⟨"001", none⟩)).withBinding
    "work" "title" (.tag ⟨"245", some 'a'⟩)).withChild "copy" copyNode

/-- Works and their copies. -/
def mapping : Mapping := ⟨.default, workNode⟩

/-- The fields of a work and of its copies. -/
def entry (number title : String) (marks : List String) : Record where
  fields := .control "001" number :: (Field.data "245").addSubfield 'a' title ::
    marks.map ((Field.data "850").addSubfield 'a' ·)

/-- The store of the library. -/
def store : Store Memory := .inMemory registry .contains

/-- The library with one work. -/
def before : Memory := (loadRecord store mapping (entry "6" "History" []) .empty).2

/-- A work with two copies, whose title is a part of that of the first. -/
def record : Record := entry "7" "Story" ["x", "y"]

/-- The library with both works. -/
def after : Memory := (loadRecord store mapping record before).2

/-- The second load finds the wrong work, and reuses the copies of the right one all the same. -/
theorem reload_reuses :
    (∀ n ∈ mapping.root.nodes, n.KeysSuit registry) ∧
      loadRecord store mapping record before = (.ok ⟨3, 0, 0⟩, after) ∧
      (∀ a ∈ asked store mapping record before, registry.Identifies a.table a.row) ∧
      loadRecord store mapping record after = (.ok ⟨0, 3, 0⟩, after) := by
  have hkeys : ∀ n ∈ mapping.root.nodes, n.KeysSuit registry := by decide +kernel
  have hanswer : (loadRecord store mapping record before).1 = .ok ⟨3, 0, 0⟩ := by decide +kernel
  have hload : loadRecord store mapping record before = (.ok ⟨3, 0, 0⟩, after) := by
    rw [after, ← hanswer, Prod.eta]
  have hrows : ∀ a ∈ asked store mapping record before, registry.Identifies a.table a.row := by
    decide +kernel
  exact ⟨hkeys, hload, hrows, loadRecord_again hkeys hload hrows⟩

end Library

end Load

end Accession
