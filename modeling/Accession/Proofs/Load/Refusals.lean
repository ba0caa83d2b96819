import Accession.Proofs.Load.Reload
import Accession.Proofs.Memory.Refusals
import Accession.Mapping.Fit

/-!
# Why a load fails

A mapping that fits the tables asks only for rows whose columns are declared, so what can be wrong
with a record are its values.  If moreover every column that refers to a table is bound to the key
of the nearest row of that table, or left empty, then no reference is ever wrong: all keys around a
node are keys of stored rows.

* `Mapping.Node.BindsReferences` : the columns of a node that refer to a table are bound to the keys
  of that table.
* `Load.Safe` : all that a dialogue asks has a property, provided that it is told keys of stored
  rows.
* `Load.visit_safe` : what a visit asks for is declared, and its references are good.
* `Load.loadRecord_error` : the reasons for which the load of a record can fail.
-/

namespace Accession

namespace Mapping

/-- A source from which a column can be filled that refers to a table: the key of a row of that
table, or nothing. -/
def Source.RefersTo (target : String) : Source → Prop
  | foreignKey table _ => table = target
  | deferred => True
  | _ => False

instance (target : String) : (s : Source) → Decidable (s.RefersTo target)
  | .foreignKey table _ => inferInstanceAs (Decidable (table = target))
  | .deferred => .isTrue trivial
  | .literal _ | .tag _ => .isFalse id

/-- The columns of the node that refer to a table hold integers, and are bound to keys of that table
or to nothing. -/
def Node.BindsReferences (r : Registry) (n : Node) : Prop :=
  ∀ table ∈ n.table, ∀ t ∈ r.get? table, ∀ b ∈ n.bindings, ∀ fk ∈ t.foreignKeys, fk.1 = b.1 →
    t.columnType? b.1 = some .integer ∧ b.2.RefersTo fk.2

instance (r : Registry) (n : Node) : Decidable (n.BindsReferences r) :=
  inferInstanceAs (Decidable (∀ table, table ∈ n.table → ∀ t, t ∈ r.get? table →
    ∀ b ∈ n.bindings, ∀ fk ∈ t.foreignKeys, fk.1 = b.1 →
      t.columnType? b.1 = some .integer ∧ b.2.RefersTo fk.2))

end Mapping

namespace Load

open Mapping (Node Source)
open Memory (Grows HasKey Refers)

variable {r : Registry} {mode : TextMatch} {m m' : Memory} {frames : Frames} {n : Node}
  {place : Place} {t : TableSchema} {table : String} {α β : Type}

/-! ### Dialogues -/

/-- From a state of the store on, every row that is asked for has a property in its table, and the
result has one as well, whatever becomes of the rows as long as the store only grows. -/
inductive Safe (r : Registry) (P : Memory → TableSchema → Row → Prop) (Post : Memory → α → Prop) :
    Memory → Dialogue α → Prop
  | done {m : Memory} {a : α} (h : Post m a) : Safe r P Post m (.done a)
  | ask {m : Memory} {table : String} {t : TableSchema} {row : Row}
      {next : Upserted → Dialogue α} (ht : r.get? table = some t) (hrow : P m t row)
      (hnext : ∀ u m', Grows m m' → m'.HasKey table u.key → Safe r P Post m' (next u)) :
      Safe r P Post m (.ask table row next)

section Safe

variable {P : Memory → TableSchema → Row → Prop} {Post : Memory → α → Prop}
  {Post' : Memory → β → Prop} {d : Dialogue α}

theorem Safe.bind {f : α → Dialogue β} (h : Safe r P Post m d)
    (hf : ∀ m' a, Grows m m' → Post m' a → Safe r P Post' m' (f a)) :
    Safe r P Post' m (d >>= f) := by
  induction h with
  | done h => exact hf _ _ (Grows.refl _) h
  | ask ht hrow _ ih =>
    exact .ask ht hrow fun u m' hg hkey =>
      ih u m' hg hkey fun m'' a hg' ha => hf m'' a (hg.trans hg') ha

/-- An error of a safe dialogue is that of an upsert of a row with the property. -/
theorem Safe.run_error {e : LoadError} {s : Memory} (h : Safe r P Post m d)
    (hrun : d.run (Store.inMemory r mode).upsert m = (.error e, s)) :
    ∃ before table t row, r.get? table = some t ∧ P before t row ∧
      (Store.inMemory r mode).upsert table row before = (.error e, s) := by
  induction h with
  | done h => cases hrun
  | @ask m table t row next ht hrow _ ih =>
    rcases hu : (Store.inMemory r mode).upsert table row m with ⟨e' | u, m'⟩
    · rw [Dialogue.run_ask_error hu] at hrun
      cases hrun
      exact ⟨m, table, t, row, ht, hrow, hu⟩
    · rw [Dialogue.run_ask_ok hu] at hrun
      obtain ⟨t', _, ht', -, -, hkey, -⟩ := Memory.upsert_ok hu
      rw [Registry.name_of_get? ht'] at hkey
      exact ih u m' (Memory.upsert_grows hu) hkey hrun

end Safe

/-! ### The rows of a visit -/

/-- The keys of the nodes around are keys of stored rows. -/
def Stored (m : Memory) (frames : Frames) : Prop :=
  ∀ table key, (table, some key) ∈ frames → m.HasKey table key

theorem Stored.mono (h : Stored m frames) (hg : Grows m m') : Stored m' frames :=
  fun table key hmem => HasKey.mono (h table key hmem) hg

theorem Stored.key? {key : Key} (h : Stored m frames) (hk : frames.key? table = some key) :
    m.HasKey table key := by
  induction frames with
  | nil => cases hk
  | cons frame frames ih =>
    obtain ⟨t, k⟩ := frame
    rw [Frames.key?] at hk
    split at hk
    · next ht => exact h table key (by rw [ht, hk]; exact List.mem_cons_self)
    · exact ih (fun table key hmem => h table key (List.mem_cons_of_mem _ hmem)) hk

/-- An entry of the row of a node comes from a binding. -/
theorem mem_rowAt {entry : String × Value} (h : entry ∈ rowAt frames n place) :
    ∃ source, (entry.1, source) ∈ n.bindings ∧ valueAt frames place source = some entry.2 := by
  obtain ⟨⟨column, source⟩, hb, hentry⟩ := List.mem_filterMap.1 h
  obtain ⟨v, hv, rfl⟩ := Option.map_eq_some_iff.1 hentry
  exact ⟨source, hb, hv⟩

theorem rowAt_declares (hb : ∀ b ∈ n.bindings, t.hasColumn b.1 ∧ b.1 ≠ t.primaryKey) :
    t.Declares (rowAt frames n place) := by
  intro entry hentry
  obtain ⟨source, hsource, -⟩ := mem_rowAt hentry
  exact hb _ hsource

theorem rowAt_refers (hn : n.BindsReferences r) (htable : n.table = some table)
    (ht : r.get? table = some t) (hframes : Stored m frames) :
    m.Refers t (rowAt frames n place) := by
  intro entry hentry target htarget
  obtain ⟨source, hsource, hvalue⟩ := mem_rowAt hentry
  obtain ⟨hinteger, hrefers⟩ := hn table htable t ht _ hsource _ htarget rfl
  refine ⟨hinteger, ?_⟩
  cases source with
  | literal _ | tag _ => cases hrefers
  | deferred => cases hvalue
  | foreignKey table' column =>
    obtain rfl : table' = target := hrefers
    obtain ⟨key, hkey, hv⟩ := Option.map_eq_some_iff.1 hvalue
    exact ⟨key, hv.symm, hframes.key? hkey⟩

/-- What a load asks for: rows that the table declares, with good references if the mapping binds
them. -/
def Asks (bound : Prop) (m : Memory) (t : TableSchema) (row : Row) : Prop :=
  t.Declares row ∧ (bound → m.Refers t row)

variable {bound : Prop}

theorem settleRow_safe (hfit : n.Fits r) (hbound : bound → n.BindsReferences r)
    (hframes : Stored m frames) (place : Place) :
    Safe r (Asks bound) (fun m' p => Stored m' p.1) m (settleRow frames n place) := by
  cases htable : n.table with
  | none =>
    rw [settleRow, htable]
    exact .done hframes
  | some table =>
    obtain ⟨t, ht, hbindings⟩ := hfit table htable
    simp only [settleRow, htable]
    split
    · refine .done fun t' key hmem => hframes t' key ?_
      exact (List.mem_cons.1 hmem).resolve_left (by simp)
    · have hasks : Asks bound m t (rowAt frames n place) :=
        ⟨rowAt_declares hbindings, fun h => rowAt_refers (hbound h) htable ht hframes⟩
      refine .ask ht hasks fun u m' hg hkey => .done fun t' key hmem => ?_
      rcases List.mem_cons.1 hmem with hframe | hmem
      · cases hframe
        exact hkey
      · exact hframes.mono hg t' key hmem

theorem Safe.counted {P : Memory → TableSchema → Row → Prop} {d : Dialogue Stats}
    (own : Stats) (h : Safe r P (fun _ _ => True) m d) :
    Safe r P (fun _ _ => True) m (do let rest ← d; pure (own.add rest)) :=
  h.bind fun _ _ _ _ => .done trivial

theorem forPlaces_safe {P : Memory → TableSchema → Row → Prop} {f : Place → Dialogue Stats}
    (h : ∀ m', Grows m m' → ∀ place, Safe r P (fun _ _ => True) m' (f place))
    (places : List Place) : Safe r P (fun _ _ => True) m (forPlaces f places) := by
  induction places generalizing m with
  | nil => exact .done trivial
  | cons place rest ih =>
    refine (h m (Grows.refl m) place).bind fun m' first hg _ => ?_
    exact (ih fun m'' hg' => h m'' (hg.trans hg')).counted first

mutual

/-- **What a visit asks for** is declared, and its references are good if the nodes bind them. -/
theorem visit_safe {m : Memory} {frames : Frames} (hframes : Stored m frames) :
    (n : Node) → (∀ n' ∈ n.nodes, n'.Fits r) → (bound → ∀ n' ∈ n.nodes, n'.BindsReferences r) →
      (place : Place) → Safe r (Asks bound) (fun _ _ => True) m (visit frames n place)
  | ⟨name, table, bindings, children, conflicts⟩, hfit, hbound, place => by
    rw [Node.nodes] at hfit hbound
    obtain ⟨hself, hbelow⟩ := List.forall_mem_cons.1 hfit
    rw [visit]
    refine forPlaces_safe (fun m' hg spot => ?_) _
    refine (settleRow_safe hself (fun h => (List.forall_mem_cons.1 (hbound h)).1)
      (hframes.mono hg) spot).bind fun m'' ⟨inner, own⟩ _ hinner => ?_
    exact (visitAll_safe hinner children hbelow
      (fun h => (List.forall_mem_cons.1 (hbound h)).2) spot).counted own

theorem visitAll_safe {m : Memory} {frames : Frames} (hframes : Stored m frames) :
    (children : List (String × Node)) → (∀ n' ∈ Node.nodesOf children, n'.Fits r) →
      (bound → ∀ n' ∈ Node.nodesOf children, n'.BindsReferences r) →
        (place : Place) → Safe r (Asks bound) (fun _ _ => True) m (visitAll frames children place)
  | [], _, _, _ => by
    rw [visitAll]
    exact .done trivial
  | (_, n) :: rest, hfit, hbound, place => by
    rw [Node.nodesOf] at hfit hbound
    obtain ⟨hfirst, hrest⟩ := List.forall_mem_append.1 hfit
    rw [visitAll]
    refine (visit_safe hframes n hfirst
      (fun h => (List.forall_mem_append.1 (hbound h)).1) place).bind fun m' first hg _ => ?_
    exact (visitAll_safe (hframes.mono hg) rest hrest
      (fun h => (List.forall_mem_append.1 (hbound h)).2) place).counted first

end

/-- **Why a load fails.**  If the mapping fits the tables and a record is not loaded, then the
values of a row were at fault: one of the wrong type, one that is missing, or a reference to no row.
It was no reference if every node binds the columns that refer to a table to the keys of that table,
or leaves them empty. -/
theorem loadRecord_error {mapping : Mapping} {record : Record} {e : LoadError} {after : Memory}
    (hfit : mapping.validateAgainst r = .ok ())
    (h : loadRecord (Store.inMemory r mode) mapping record m = (.error e, after)) :
    ∃ reason, e = .store reason ∧ reason.aboutValues ∧
      ((∀ n ∈ mapping.root.nodes, n.BindsReferences r) → reason.isForeignKey = false) := by
  rw [loadRecord_eq_run] at h
  have hnone : Stored m [] := fun _ _ hmem => absurd hmem List.not_mem_nil
  have hsafe : Safe r (Asks (∀ n ∈ mapping.root.nodes, n.BindsReferences r)) (fun _ _ => True) m
      (plan mapping record) :=
    visit_safe hnone mapping.root (Mapping.fits_of_validateAgainst hfit) id (.record record)
  obtain ⟨before, table, t, row, ht, ⟨hdeclares, hrefers⟩, hupsert⟩ := hsafe.run_error h
  obtain ⟨reason, rfl, habout, hforeign⟩ := Memory.upsert_error ht hdeclares hupsert
  exact ⟨reason, rfl, habout, fun hbound => hforeign (hrefers hbound)⟩

namespace Library

/-- A work without a title. -/
def untitled : Record := ⟨[.control "001" "7"]⟩

/-- The title of a work is required, and that is what the load tells. -/
theorem untitled_refused :
    mapping.validateAgainst registry = .ok () ∧
      (∀ n ∈ mapping.root.nodes, n.BindsReferences registry) ∧
      (loadRecord store mapping untitled .empty).1 =
        .error (.store (.notNull "work" (some "title"))) ∧
      ∃ reason, LoadError.store (.notNull "work" (some "title")) = .store reason ∧
        reason.aboutValues ∧ reason.isForeignKey = false := by
  have hfit : mapping.validateAgainst registry = .ok () := by rfl
  have hbound : ∀ n ∈ mapping.root.nodes, n.BindsReferences registry := by decide +kernel
  have hanswer : (loadRecord store mapping untitled .empty).1 =
      .error (.store (.notNull "work" (some "title"))) := by decide +kernel
  obtain ⟨reason, hreason, habout, hforeign⟩ := loadRecord_error hfit (Prod.ext hanswer rfl)
  exact ⟨hfit, hbound, hanswer, reason, hreason, habout, hforeign hbound⟩

end Library

end Load

end Accession
