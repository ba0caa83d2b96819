import Accession.Proofs.Load.Visits
import Accession.Store.Memory

/-!
# What the check of a mapping foresees

The check of a mapping goes down the tree with the tables of the nodes around and with a field; the
walk goes down with stacks of keys and with a place.  For a mapping that passes the check these stay
in step, whatever the record and whatever a store answers.

* `visits` : the visits of the load of a record.
* `Visit.InPlace` : a visit is at one field exactly if some node on its trail reads one field only.
* `Visit.TagsReach`, `Visit.KeysReach` : the tags and references of the node can be resolved there.
* `visits_foreseen` : all of this holds of the visits of a checked mapping, and the warnings are
  about those that read several fields of a whole record.
-/

namespace Accession.Load

open Mapping (Node FirstReader rootName)

namespace Visit

variable {r : Record} {v : Visit}

/-- The place is a field of some code exactly if that is the code of the first node on the trail
that reads one field only; if there is no such node, it is the whole record. -/
def InPlace (r : Record) (v : Visit) : Prop :=
  (∀ code, (∃ f ∈ r.fields, f.tag = code ∧ v.place = .field f) ↔ FirstReader v.trail.path code) ∧
    ((∀ code, ¬ FirstReader v.trail.path code) → v.place = .record r)

/-- At a single field, the tags of the node name that field. -/
def TagsReach (v : Visit) : Prop :=
  ∀ f, v.place = .field f → ∀ b ∈ v.node.bindings, ∀ tag, b.2 = .tag tag → tag.field = f.tag

/-- A reference finds an entry, that of the nearest node of its table, and there is no key there
exactly if that node made no row. -/
def KeysReach (v : Visit) : Prop :=
  ∀ b ∈ v.node.bindings, ∀ table column, b.2 = .foreignKey table column →
    ∃ nearest, v.outer.find? (·.node.table = some table) = some nearest ∧
      (v.keys.stack table).head? = some nearest.row ∧
      (v.keys.peek table = none ↔ nearest.node.row? nearest.place nearest.keys = none)

theorem inPlace_of_inReach (h : InReach r v.trail.field? v.place) : v.InPlace r := by
  constructor
  · intro code
    rw [Mapping.firstReader_iff]
    change _ ↔ v.trail.field? = some code
    constructor
    · rintro ⟨f, -, rfl, hplace⟩
      rw [hplace] at h
      exact h.field_eq
    · intro hcode
      rw [hcode] at h
      exact h
  · intro hnone
    have hfield : v.trail.field? = none := Option.eq_none_iff_forall_ne_some.2 fun code hcode =>
      hnone code (Mapping.firstReader_iff.2 hcode)
    rw [hfield] at h
    exact h

theorem tagsReach_of_inReach {c : Mapping.Config} (h : InReach r v.trail.field? v.place)
    (hown : v.node.ownFault? c v.trail.scope = none) : v.TagsReach := by
  intro f hplace b hb tag htag
  rw [hplace] at h
  have hfield := h.field_eq
  rw [Mapping.Trail.field?_eq] at hfield
  cases hscope : v.trail.scope.field with
  | some code =>
    -- the field is settled by a node around
    rw [hscope] at hfield
    cases hfield
    exact Node.field_of_ownFault? hown hb htag hscope
  | none =>
    rw [hscope] at hfield
    have hsole : v.node.fanOutField? = some f.tag := hfield
    obtain ⟨-, hsole⟩ := Node.fanOutField?_iff_readsOnly.1 hsole
    exact hsole tag.field ⟨b, hb, tag, htag, rfl⟩

/-- The stack of a table has the entries of its nodes around. -/
theorem stack_of_sound (h : v.Sound) (table : String) : v.keys.stack table =
    (v.outer.filter (·.node.table = some table)).map Level.row := by
  rw [h.keys table]
  generalize v.outer = outer
  induction outer with
  | nil => rfl
  | cons l outer ih =>
    rw [Level.frames] at ih ⊢
    rw [List.filterMap_cons, List.filter_cons]
    cases ht : l.node.table with
    | none => exact ih
    | some t =>
      by_cases heq : t = table
      · subst heq
        simpa using ih
      · simpa [heq] using ih

theorem keysReach_of_sound {c : Mapping.Config} (h : v.Sound)
    (hown : v.node.ownFault? c v.trail.scope = none) : v.KeysReach := by
  intro b hb table column hkey
  have henclosing := Node.enclosing_of_ownFault? hown hb hkey
  rw [Mapping.Trail.scope, Mapping.scopeIn_enclosing] at henclosing
  obtain ⟨a, ha, htable⟩ := List.mem_filterMap.1 henclosing
  obtain ⟨l, hl, rfl⟩ := List.mem_map.1 ha
  have hsome : (v.outer.find? (·.node.table = some table)).isSome :=
    List.find?_isSome.2 ⟨l, hl, decide_eq_true htable⟩
  obtain ⟨nearest, hnearest⟩ := Option.isSome_iff_exists.1 hsome
  have hhead : (v.keys.stack table).head? = some nearest.row := by
    rw [stack_of_sound h, List.head?_map, List.head?_filter, hnearest]
    rfl
  refine ⟨nearest, hnearest, hhead, ?_⟩
  rw [KeyStacks.peek, hhead]
  exact h.settled nearest (List.mem_of_find?_eq_some hnearest)

end Visit

/-! ### The load of a record -/

section Loads

variable {σ : Type}

/-- The load of a record with notes. -/
def noted (store : Store σ) (m : Mapping) (r : Record) (s : σ) :
    Except LoadError Unit × State (σ × List Visit) :=
  walkNoting store.upsert [] rootName m.root (.record r) ⟨(s, []), .empty, .zero⟩

/-- The visits of the load of a record, in order. -/
def visits (store : Store σ) (m : Mapping) (r : Record) (s : σ) : List Visit :=
  (noted store m r s).2.store.2

/-- Noting the visits changes nothing about the load. -/
theorem loadRecord_noted (store : Store σ) (m : Mapping) (r : Record) (s : σ) :
    loadRecord store m r s = ((noted store m r s).1.map fun _ => (noted store m r s).2.stats,
      (noted store m r s).2.store.1) := by
  let walked := walk store.upsert m.root (.record r) ⟨s, .empty, .zero⟩
  have hplain := walkNoting_plainly store.upsert [] rootName m.root (.record r)
    ⟨(s, []), .empty, .zero⟩ _ rfl
  have hanswer : (noted store m r s).1 = walked.1 := hplain.1
  have hstate : (noted store m r s).2.plain = walked.2 := hplain.2
  change (walked.1.map fun _ => walked.2.stats, walked.2.store) = _
  rw [← hanswer, ← hstate]
  rfl

theorem noted_ended (store : Store σ) (m : Mapping) (r : Record) (s : σ) :
    (∀ v ∈ visits store m r s, v.Sound) ∧
      (visits store m r s).map Visit.spot <+: tour [] rootName m.root (.record r) ∧
      ((noted store m r s).1 = .ok () →
        (visits store m r s).map Visit.spot = tour [] rootName m.root (.record r)) := by
  obtain ⟨-, seen, hseen, hsound, halong, hall⟩ := walkNoting_tours store.upsert rootName
    KeyStacks.represents_empty (List.forall_mem_nil _) m.root (.record r)
    ⟨(s, []), .empty, .zero⟩ rfl
  have hvisits : visits store m r s = seen := hseen
  rw [hvisits]
  exact ⟨hsound, halong, hall⟩

variable {c : Mapping.Config} {root : Node} {m : Mapping}

/-- A load that succeeds goes along the whole tour. -/
theorem spots_of_ok {store : Store σ} {r : Record} {s : σ} (h : (loadRecord store m r s).1.isOk) :
    (visits store m r s).map Visit.spot = tour [] rootName m.root (.record r) := by
  obtain ⟨-, -, hall⟩ := noted_ended store m r s
  rw [loadRecord_noted] at h
  cases hanswer : (noted store m r s).1 with
  | ok => exact hall hanswer
  | error e =>
    rw [hanswer] at h
    cases h

theorem fault?_of_ofTree (h : Mapping.ofTree c root = .ok m) :
    m.root.fault? m.config (Mapping.scopeIn [] rootName) = none := by
  rw [Mapping.ofTree] at h
  split at h
  · cases h
  · next hfault =>
    cases h
    rw [Mapping.treeFault?] at hfault
    split at hfault
    · cases hfault
    · exact hfault

/-- The trail of a visit is one of the mapping, and its place is one that goes with the trail. -/
theorem inReach_of_mem_visits {store : Store σ} {r : Record} {s : σ} {v : Visit}
    (hv : v ∈ visits store m r s) :
    v.trail ∈ m.root.trails [] rootName ∧ InReach r v.trail.field? v.place := by
  obtain ⟨-, halong, -⟩ := noted_ended store m r s
  have hroot : InReach r (Mapping.scopeIn [] rootName).field (.record r) := rfl
  exact inReach_of_mem_tour m.root (.record r) hroot v.spot
    (halong.subset (List.mem_map_of_mem hv))

/-- **The check of a mapping foresees the load.**  Take any mapping that passes the check, any
record, and any store, whatever its calls answer.  Noting the visits of a load changes nothing about
it.  Every visit follows a trail of the mapping; it is at a single field exactly if some node on the
trail reads one field only, and then the first such node reads that field; the tags of the node name
that field; and a reference finds the entry of the nearest node of its table, which has a key if
that node made a row.  The warnings are about some trails, in order: a visited trail is one of them
exactly if it is not the root, its node reads several fields, and it is visited with the whole
record; and a load that succeeds visits all of them. -/
theorem visits_foreseen (h : Mapping.ofTree c root = .ok m) (store : Store σ) (r : Record) (s : σ) :
    loadRecord store m r s = ((noted store m r s).1.map fun _ => (noted store m r s).2.stats,
        (noted store m r s).2.store.1) ∧
      (∀ v ∈ visits store m r s, v.trail ∈ m.root.trails [] rootName ∧ v.InPlace r ∧
        v.TagsReach ∧ v.KeysReach ∧
        (v.trail ∈ m.root.warned ↔
          v.outer ≠ [] ∧ v.node.ReadsSeveral ∧ v.place = .record r)) ∧
      m.root.warnings = m.root.warned.map (fun t => t.scope.path) ∧
      ((loadRecord store m r s).1.isOk → ∀ t ∈ m.root.warned, ∃ v ∈ visits store m r s,
        v.trail = t ∧ v.place = .record r) := by
  obtain ⟨hsound, -, -⟩ := noted_ended store m r s
  have hown := Node.ownFault?_of_fault? m.root (fault?_of_ofTree h)
  refine ⟨loadRecord_noted store m r s, fun v hv => ?_, Node.warnings_eq_warned m.root,
    fun hok t ht => ?_⟩
  · obtain ⟨htrail, hreach⟩ := inReach_of_mem_visits hv
    refine ⟨htrail, Visit.inPlace_of_inReach hreach,
      Visit.tagsReach_of_inReach hreach (hown _ htrail),
      Visit.keysReach_of_sound (hsound v hv) (hown _ htrail), ?_⟩
    rw [Node.mem_warned htrail, ← hreach.eq_record_iff, and_comm (a := v.place = .record r)]
    exact and_congr_left' (not_congr List.map_eq_nil_iff)
  · have htrail := Node.warned_subset m.root ht
    obtain ⟨-, hfield, -⟩ := (Node.mem_warned htrail).1 ht
    have hspot : (t, .record r) ∈ (visits store m r s).map Visit.spot := by
      rw [spots_of_ok hok]
      exact mem_tour_of_field? hfield m.root htrail
    obtain ⟨v, hv, hvisit⟩ := List.mem_map.1 hspot
    exact ⟨v, hv, congrArg Prod.fst hvisit, congrArg Prod.snd hvisit⟩

end Loads

namespace Headings

/-- Works, their subjects, and the headings of a subject. -/
def registry : Registry :=
  ((Registry.empty.withTable (((TableSchema.new "work").withColumn "number" .text true).withColumn
    "title" .text true)).withTable
    (((TableSchema.new "subject").withColumn "work_id" .integer false).withColumn
      "term" .text false)).withTable
    (((TableSchema.new "heading").withColumn "subject_id" .integer false).withColumn
      "form" .text true)

/-- A heading of a subject, read from the field of the subject. -/
def headingNode : Node :=
  ((Node.new "heading").withBinding "heading" "subject_id" (.foreignKey "subject" none)).withBinding
    "heading" "form" (.tag ⟨"650", some 'v'⟩)

/-- The subjects of a work, one for each field. -/
def subjectNode : Node :=
  (((Node.new "subject").withBinding "subject" "work_id" (.foreignKey "work" none)).withBinding
    "subject" "term" (.tag ⟨"650", some 'a'⟩)).withChild "heading" headingNode

/-- A work, read from two fields. -/
def workNode : Node :=
  (((Node.new "work").withBinding "work" "number" (.tag ⟨"001", none⟩)).withBinding
    "work" "title" (.tag ⟨"245", some 'a'⟩)).withChild "subject" subjectNode

/-- Works stand below a node without a table. -/
def root : Node := (Node.new rootName).withChild "work" workNode

/-- A subject with its term. -/
def rivers : Field := ((Field.data "650").addSubfield 'a' "Rivers").addSubfield 'v' "Maps"

/-- A subject without a term. -/
def maps : Field := (Field.data "650").addSubfield 'v' "Maps"

/-- A work with three subjects. -/
def record : Record := ⟨[(Field.data "245").addSubfield 'a' "Waters", rivers, maps, rivers]⟩

/-- The store of the works. -/
def store : Store Memory := .inMemory registry .exact

/-- The load stops at the subject without a term; up to there it goes where the check says. -/
theorem stopped_load_foreseen : Mapping.ofTree .default root = .ok ⟨.default, root⟩ ∧
    (visits store ⟨.default, root⟩ record .empty).map (fun v => (v.key, v.place)) =
      [("mapping", .record record), ("work", .record record), ("subject", .field rivers),
        ("heading", .field rivers), ("subject", .field maps)] ∧
    root.warnings = ["mapping/work"] ∧
    ∀ v ∈ visits store ⟨.default, root⟩ record .empty,
      v.InPlace record ∧ v.TagsReach ∧ v.KeysReach := by
  have hfault : Mapping.treeFault? .default root = none := by decide +kernel
  have h : Mapping.ofTree .default root = .ok ⟨.default, root⟩ := by rw [Mapping.ofTree, hfault]
  obtain ⟨-, hvisits, -⟩ := visits_foreseen h store record .empty
  refine ⟨h, by decide +kernel, by decide +kernel, fun v hv => ?_⟩
  obtain ⟨-, hplace, htags, hkeys, -⟩ := hvisits v hv
  exact ⟨hplace, htags, hkeys⟩

end Headings

end Accession.Load
