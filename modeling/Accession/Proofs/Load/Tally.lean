import Accession.Proofs.Load.Foresight
import Accession.Proofs.Load.Places
import Accession.Proofs.Load.Plan

/-!
# What is counted

A load counts the rows that are new, those that were there already, and the places that made no row.
Together these are the stops of its tour at nodes with a table, whatever a store answers.

* `Dialogue.Yields` : the value of a dialogue, and the answers that it was given on the way.
* `Tallies` : the counts agree with the answers, and with a number of places.
* `visit_tallies` : the counts of a plan.
* `rows_counted` : the counts of a load, as a sum over the nodes of the mapping, and the places of
  each node one by one.
-/

namespace Accession.Load

open Mapping (FirstReader Node Trail rootName)

namespace Dialogue

variable {σ α β : Type}

/-- Whatever the dialogue is answered, if it ends with a value, this holds of the answers and of
the value. -/
def Yields : Dialogue α → (List Upserted → α → Prop) → Prop
  | done value, P => P [] value
  | ask _ _ next, P => ∀ u, (next u).Yields fun us value => P (u :: us) value

theorem Yields.bind {d : Dialogue α} {f : α → Dialogue β} {P : List Upserted → α → Prop}
    {Q : List Upserted → β → Prop} (h : d.Yields P)
    (h' : ∀ us value, P us value → (f value).Yields fun more => Q (us ++ more)) :
    (d >>= f).Yields Q := by
  induction d generalizing P Q with
  | done value => exact h' [] value h
  | ask table row next ih => exact fun u => ih u (h u) fun us value => h' (u :: us) value

/-- The rows among the answers to some calls. -/
def answers (calls : List Asked) : List Upserted := calls.filterMap (·.answer.toOption)

theorem Yields.run {d : Dialogue α} {P : List Upserted → α → Prop} (h : d.Yields P)
    {upsert : Upsert σ} {s s' : σ} {value : α} (hrun : d.run upsert s = (.ok value, s')) :
    P (answers (d.calls upsert s)) value := by
  induction d generalizing P s with
  | done value =>
    cases hrun
    exact h
  | ask table row next ih =>
    rcases hu : upsert table row s with ⟨e | u, s₁⟩
    · rw [run_ask_error hu] at hrun
      cases hrun
    · rw [run_ask_ok hu] at hrun
      rw [calls_ask_ok hu]
      exact ih u (h u) hrun

end Dialogue

/-- The rows are counted as new or not, and with the places that made no row they are so many. -/
structure Tallies (places : Nat) (us : List Upserted) (stats : Stats) : Prop where
  created : stats.created = us.countP Upserted.created
  reused : stats.reused = us.countP fun u => !u.created
  places : us.length + stats.skipped = places

namespace Tallies

variable {k l : Nat} {us more : List Upserted} {stats others : Stats}

theorem zero : Tallies 0 [] .zero := ⟨rfl, rfl, rfl⟩

theorem skip : Tallies 1 [] Stats.zero.skip := ⟨rfl, rfl, rfl⟩

theorem count (u : Upserted) : Tallies 1 [u] (Stats.zero.count u) := by
  unfold Stats.count
  constructor <;> split <;> simp_all [Stats.zero]

theorem add (h : Tallies k us stats) (h' : Tallies l more others) :
    Tallies (k + l) (us ++ more) (stats.add others) where
  created := by rw [Stats.add, List.countP_append, h.created, h'.created]
  reused := by rw [Stats.add, List.countP_append, h.reused, h'.reused]
  places := by
    have hown := h.places
    have hothers := h'.places
    simp only [Stats.add, List.length_append]
    omega

theorem total (h : Tallies k us stats) : stats.created + stats.reused + stats.skipped = k := by
  have hlength : us.length = stats.created + stats.reused := by
    rw [h.created, h.reused, us.length_eq_countP_add_countP Upserted.created]
    simp
  rw [← hlength, h.places]

/-- What follows a part adds its own counts. -/
theorem followed {d : Dialogue Stats} (h : Tallies k us stats) (h' : d.Yields (Tallies l)) :
    (do let rest ← d; pure (stats.add rest) : Dialogue Stats).Yields
      fun more => Tallies (k + l) (us ++ more) :=
  h'.bind fun more others hothers => by
    change Tallies _ (us ++ (more ++ [])) _
    rw [List.append_nil]
    exact h.add hothers

/-- One part after another. -/
theorem seq {d d' : Dialogue Stats} (h : d.Yields (Tallies k)) (h' : d'.Yields (Tallies l)) :
    (do
      let first ← d
      let others ← d'
      pure (first.add others) : Dialogue Stats).Yields (Tallies (k + l)) :=
  h.bind fun _ _ hfirst => hfirst.followed h'

end Tallies

/-! ### The counts of a plan -/

/-- The stop is at a node with a table. -/
def isTabled (t : Trail) : Bool := t.node.table.isSome

theorem settleRow_tallies (frames : Frames) (n : Node) (place : Place) :
    (settleRow frames n place).Yields fun us settled =>
      Tallies (if n.table.isSome then 1 else 0) us settled.2 := by
  unfold settleRow
  cases n.table with
  | none => exact Tallies.zero
  | some table =>
    cases rowAt frames n place with
    | nil => exact Tallies.skip
    | cons => exact fun u => Tallies.count u

theorem forPlaces_tallies {f : Place → Dialogue Stats} {count : Place → Nat}
    (h : ∀ place, (f place).Yields (Tallies (count place))) (places : List Place) :
    (forPlaces f places).Yields (Tallies (places.map count).sum) := by
  induction places with
  | nil => exact Tallies.zero
  | cons place places ih =>
    rw [List.map_cons, List.sum_cons]
    exact Tallies.seq (h place) ih

mutual

/-- **The counts of a plan** are those of the tour of the tree. -/
theorem visit_tallies {around : List (String × Node)} {key : String} {frames : Frames} :
    (n : Node) → (place : Place) → (visit frames n place).Yields
      (Tallies ((tour around key n place).countP (isTabled ·.1)))
  | ⟨name, table, bindings, children, conflicts⟩, place => by
    rw [visit, tour, fanOut_eq_reach, List.countP_flatMap]
    refine forPlaces_tallies (fun spot => ?_) _
    rw [Function.comp_apply, List.countP_cons, Nat.add_comm]
    exact (settleRow_tallies frames _ spot).bind fun us settled hown =>
      hown.followed (visitAll_tallies children spot)

theorem visitAll_tallies {around : List (String × Node)} {frames : Frames} :
    (children : List (String × Node)) → (place : Place) → (visitAll frames children place).Yields
      (Tallies ((tourBelow around children place).countP (isTabled ·.1)))
  | [], _ => by
    rw [visitAll, tourBelow]
    exact Tallies.zero
  | (key, n) :: rest, place => by
    rw [visitAll, tourBelow, List.countP_append]
    exact Tallies.seq (visit_tallies n place) (visitAll_tallies rest place)

end

section Loads

variable {σ : Type} {store : Store σ} {m : Mapping} {r : Record} {s s' : σ} {stats : Stats}

/-- The counts of a load, with the answers of the store. -/
theorem loadRecord_tallies (h : loadRecord store m r s = (.ok stats, s')) :
    Tallies (placeCount r ((m.root.trails [] rootName).filter isTabled))
      (Dialogue.answers ((plan m r).calls store.upsert s)) stats := by
  rw [loadRecord_eq_run] at h
  have hcount : (tour [] rootName m.root (.record r)).countP (isTabled ·.1) =
      placeCount r ((m.root.trails [] rootName).filter isTabled) := countP_tour isTabled m.root rfl
  rw [← hcount]
  exact (visit_tallies m.root (.record r)).run h

/-- The stops of a load at one node are its places up to the error, if there is one. -/
theorem placesAt_visits (hd : m.root.Distinct) (store : Store σ) (r : Record) (s : σ) {t : Trail}
    (ht : t ∈ m.root.trails [] rootName) :
    placesAt t.address ((visits store m r s).map Visit.spot) <+: t.places r := by
  obtain ⟨-, halong, -⟩ := noted_ended store m r s
  rw [← placesAt_tour m.root hd rfl ht]
  exact (halong.filter _).map _

/-- **The rows of a load are counted.**  Whatever the store answers, the rows that are new, those
that are reused and the places without a row are as many as the nodes with a table have places.  In
a tree with different keys below each node, such as that of a document, a load comes to the places
of a node in order, to all of them if it succeeds.  These are the occurrences, in document order, of
the field of the first node on the trail that reads one field only, or the whole record if there is
none; they do not depend on the rest of the tree. -/
theorem rows_counted (store : Store σ) (m : Mapping) (r : Record) (s : σ) :
    (∀ stats, (loadRecord store m r s).1 = .ok stats →
      stats.created + stats.reused + stats.skipped =
        placeCount r ((m.root.trails [] rootName).filter isTabled)) ∧
      (∀ contents, Mapping.ofYaml contents = .ok m → m.root.Distinct) ∧
      (m.root.Distinct → ∀ t ∈ m.root.trails [] rootName,
        let stops := placesAt t.address ((visits store m r s).map Visit.spot)
        stops <+: t.places r ∧ ((loadRecord store m r s).1.isOk → stops = t.places r)) ∧
      ∀ t : Trail,
        (∀ code, FirstReader t.path code → t.places r = (r.occurrences code).map .field) ∧
          ((∀ code, ¬ FirstReader t.path code) → t.places r = [.record r]) ∧
          ∀ u : Trail, u.path.map Node.bindings = t.path.map Node.bindings →
            u.places r = t.places r := by
  refine ⟨fun stats h => ?_, fun _ => Mapping.distinct_of_ofYaml,
    fun hd t ht => ⟨placesAt_visits hd store r s ht, fun hok => ?_⟩,
    fun t => ⟨fun code => Trail.places_of_firstReader, Trail.places_of_no_firstReader,
      fun u => Trail.places_congr⟩⟩
  · have hload : loadRecord store m r s = (.ok stats, (loadRecord store m r s).2) :=
      Prod.ext h rfl
    exact (loadRecord_tallies hload).total
  · rw [spots_of_ok hok]
    exact placesAt_tour m.root hd rfl ht

end Loads

namespace Headings

/-- A work with two subjects, and a heading for each. -/
def complete : Record := ⟨[rivers, (Field.data "245").addSubfield 'a' "Waters", rivers]⟩

/-- The work is made once for the record, and the subject and the heading once for each field. -/
theorem complete_counted :
    (loadRecord store ⟨.default, root⟩ complete .empty).1 = .ok ⟨5, 0, 0⟩ ∧
      5 + 0 + 0 = placeCount complete ((root.trails [] rootName).filter isTabled) ∧
      ∃ t ∈ root.trails [] rootName, t.address = ["heading", "subject", "work", "mapping"] ∧
        placesAt t.address ((visits store ⟨.default, root⟩ complete .empty).map Visit.spot) =
          [.field rivers, .field rivers] := by
  have hload : (loadRecord store ⟨.default, root⟩ complete .empty).1 = .ok ⟨5, 0, 0⟩ := by
    decide +kernel
  obtain ⟨hcounts, -, hstops, -⟩ := rows_counted store ⟨.default, root⟩ complete .empty
  refine ⟨hload, hcounts _ hload, ?_⟩
  have hd : root.Distinct := by decide +kernel
  have hmem : (⟨"heading", headingNode, [("subject", subjectNode), ("work", workNode),
      ("mapping", root)]⟩ : Trail) ∈ root.trails [] rootName :=
    .tail _ (.tail _ (.tail _ (.head _)))
  refine ⟨_, hmem, rfl, ?_⟩
  rw [(hstops hd _ hmem).2 (by rw [hload]; rfl)]
  rfl

end Headings

end Accession.Load
