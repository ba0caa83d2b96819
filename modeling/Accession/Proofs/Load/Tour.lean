import Accession.Load.Walk
import Accession.Proofs.Mapping.Trails

/-!
# The tour of a mapping

Which nodes of a mapping are applied to which places of a record, and in which order, does not
depend on a store.  A node is applied to the fields of one code if it is itself the first node on
its trail that reads one field only, or stands below that node; else it is applied to the whole
record.

* `tour` : the nodes of a tree, each by its trail, with the places that they are applied to.
* `InReach` : the places that go with a field, or with none.
* `inReach_of_mem_tour` : the places of a tour are those that go with the fields of the trails.
* `mem_tour_of_field?` : no node that goes with no field is left out.
-/

namespace Accession.Load

open Mapping (Node Trail scopeIn)

mutual

/-- The nodes of a tree below some nodes, with the places that they are applied to. -/
def tour (around : List (String × Node)) (key : String) : Node → Place → List (Trail × Place)
  | ⟨name, table, bindings, children, conflicts⟩, place =>
    let n : Node := ⟨name, table, bindings, children, conflicts⟩
    (n.fanOut place).flatMap fun spot =>
      (⟨key, n, around⟩, spot) :: tourBelow ((key, n) :: around) children spot

/-- The same for the trees below a node. -/
def tourBelow (around : List (String × Node)) :
    List (String × Node) → Place → List (Trail × Place)
  | [], _ => []
  | (key, n) :: rest, place => tour around key n place ++ tourBelow around rest place

end

/-- The place is one of the fields of this code, or the whole record if there is no code. -/
def InReach (r : Record) (field : Option String) (place : Place) : Prop :=
  match field with
  | some code => ∃ f ∈ r.fields, f.tag = code ∧ place = .field f
  | none => place = .record r

variable {r : Record} {field : Option String} {place spot : Place} {n : Node}

/-- A single field is where a node is applied to it. -/
theorem fanOut_field (n : Node) (f : Field) : n.fanOut (.field f) = [.field f] := by
  rw [Node.fanOut]
  split <;> rfl

/-- A node settles the field, unless it is settled. -/
theorem InReach.fanOut (h : InReach r field place) (hspot : spot ∈ n.fanOut place) :
    InReach r (field <|> n.fanOutField?) spot := by
  cases field with
  | some code =>
    obtain ⟨f, hf, htag, rfl⟩ := h
    rw [fanOut_field, List.mem_singleton] at hspot
    exact ⟨f, hf, htag, hspot⟩
  | none =>
    obtain rfl : place = .record r := h
    rw [Node.fanOut] at hspot
    cases hcode : n.fanOutField? with
    | none =>
      rw [hcode, List.mem_singleton] at hspot
      exact hspot
    | some code =>
      rw [hcode] at hspot
      obtain ⟨f, hf, rfl⟩ := List.mem_map.1 hspot
      obtain ⟨hfield, htag⟩ := List.mem_filter.1 hf
      exact ⟨f, hfield, of_decide_eq_true htag, rfl⟩

theorem InReach.field_eq {f : Field} (h : InReach r field (.field f)) : field = some f.tag := by
  cases field with
  | none => cases h
  | some code =>
    obtain ⟨f', -, rfl, hplace⟩ := h
    cases hplace
    rfl

theorem InReach.eq_record_iff (h : InReach r field place) : place = .record r ↔ field = none := by
  cases field with
  | none => exact iff_of_true h rfl
  | some code =>
    obtain ⟨f, -, -, rfl⟩ := h
    exact iff_of_false (by simp) (by simp)

mutual

/-- **The places of a tour.** -/
theorem inReach_of_mem_tour {around : List (String × Node)} {key : String} :
    (n : Node) → (place : Place) → InReach r (scopeIn around key).field place →
      ∀ x ∈ tour around key n place,
        x.1 ∈ n.trails around key ∧ InReach r x.1.field? x.2
  | ⟨name, table, bindings, children, conflicts⟩, place, h => by
    rw [tour, Node.trails]
    intro x hx
    obtain ⟨spot, hspot, hx⟩ := List.mem_flatMap.1 hx
    have hreach := h.fanOut hspot
    rcases List.mem_cons.1 hx with rfl | hx
    · refine ⟨List.mem_cons_self, ?_⟩
      rw [Trail.field?_eq]
      exact hreach
    · have hbelow : ∀ k, InReach r (scopeIn
          ((key, ⟨name, table, bindings, children, conflicts⟩) :: around) k).field spot :=
        fun _ => hreach
      obtain ⟨htrail, hplace⟩ := inReach_of_mem_tourBelow children spot hbelow x hx
      exact ⟨List.mem_cons_of_mem _ htrail, hplace⟩

theorem inReach_of_mem_tourBelow {around : List (String × Node)} :
    (children : List (String × Node)) → (place : Place) →
      (∀ key, InReach r (scopeIn around key).field place) →
      ∀ x ∈ tourBelow around children place,
        x.1 ∈ Node.trailsBelow around children ∧ InReach r x.1.field? x.2
  | [], _, _ => by simp [tourBelow]
  | (key, n) :: rest, place, h => by
    rw [tourBelow, Node.trailsBelow]
    intro x hx
    rcases List.mem_append.1 hx with hx | hx
    · obtain ⟨htrail, hplace⟩ := inReach_of_mem_tour n place (h key) x hx
      exact ⟨List.mem_append_left _ htrail, hplace⟩
    · obtain ⟨htrail, hplace⟩ := inReach_of_mem_tourBelow rest place h x hx
      exact ⟨List.mem_append_right _ htrail, hplace⟩

end

/-- On a trail that goes with no field, no node reads one field only. -/
theorem fanOutField?_of_field? {t : Trail} (h : t.field? = none) {a : String × Node}
    (ha : a ∈ t.around) : a.2.fanOutField? = none := by
  rw [Trail.field?, List.findSome?_eq_none_iff] at h
  exact h a.2 (List.mem_append_left _ (List.mem_reverse.2 (List.mem_map_of_mem ha)))

mutual

/-- **A tour leaves no node out** that is applied to the whole record. -/
theorem mem_tour_of_field? {around : List (String × Node)} {key : String} {t : Trail}
    (hfield : t.field? = none) :
    (n : Node) → t ∈ n.trails around key → (t, .record r) ∈ tour around key n (.record r)
  | ⟨name, table, bindings, children, conflicts⟩, ht => by
    rw [Node.trails] at ht
    rw [tour]
    have hown : (⟨name, table, bindings, children, conflicts⟩ : Node).fanOutField? = none := by
      rcases List.mem_cons.1 ht with rfl | ht
      · rw [Trail.field?, List.findSome?_eq_none_iff] at hfield
        exact hfield _ (List.mem_append_right _ List.mem_cons_self)
      · exact fanOutField?_of_field? hfield
          (Node.around_of_mem_trailsBelow children ht _ List.mem_cons_self)
    rw [Node.fanOut, hown]
    refine List.mem_flatMap.2 ⟨.record r, List.mem_cons_self, ?_⟩
    rcases List.mem_cons.1 ht with rfl | ht
    · exact List.mem_cons_self
    · exact List.mem_cons_of_mem _ (mem_tourBelow_of_field? hfield children ht)

theorem mem_tourBelow_of_field? {around : List (String × Node)} {t : Trail}
    (hfield : t.field? = none) :
    (children : List (String × Node)) → t ∈ Node.trailsBelow around children →
      (t, .record r) ∈ tourBelow around children (.record r)
  | [], ht => by
    rw [Node.trailsBelow] at ht
    cases ht
  | (key, n) :: rest, ht => by
    rw [Node.trailsBelow] at ht
    rw [tourBelow]
    rcases List.mem_append.1 ht with ht | ht
    · exact List.mem_append_left _ (mem_tour_of_field? hfield n ht)
    · exact List.mem_append_right _ (mem_tourBelow_of_field? hfield rest ht)

end

end Accession.Load
