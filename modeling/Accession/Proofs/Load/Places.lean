import Mathlib.Algebra.GroupWithZero.Nat
import Mathlib.Data.List.Nodup
import Accession.Proofs.Load.Tour
import Accession.Proofs.Mapping.Addresses

/-!
# The places of a node

A tour goes down the tree once for each place, so it comes to a node many times over.  How often,
and where, can be told from the trail of the node: a node on the way that reads one field only has
the whole tree below it repeated for each occurrence of the field, and no node further down repeats
it again.

* `Trail.places` : the places of a node, in document order.
* `countP_tour` : the length of a tour, as a sum over the nodes of the tree.
* `placesAt_tour` : the stops of a tour at one node, which are the places of the node.
-/

namespace Accession

namespace Mapping.Trail

/-- The places of a record that the node is applied to: the occurrences of the field that the first
node on the trail reads that reads one field only, or the whole record if there is no such node. -/
def places (t : Trail) (r : Record) : List Place :=
  match t.field? with
  | some code => (r.occurrences code).map .field
  | none => [.record r]

variable {t : Trail} {r : Record} {code : String}

theorem places_of_field? (h : t.field? = some code) :
    t.places r = (r.occurrences code).map .field := by
  rw [places, h]

theorem places_of_field?_eq_none (h : t.field? = none) : t.places r = [.record r] := by
  rw [places, h]

theorem places_of_firstReader (h : FirstReader t.path code) :
    t.places r = (r.occurrences code).map .field :=
  places_of_field? (firstReader_iff.1 h)

theorem places_of_no_firstReader (h : ∀ code, ¬ FirstReader t.path code) :
    t.places r = [.record r] :=
  places_of_field?_eq_none
    (Option.eq_none_iff_forall_ne_some.2 fun code hcode => h code (firstReader_iff.2 hcode))

/-- Only the bindings of the nodes on the trail matter. -/
theorem places_congr {u : Trail} (h : t.path.map Node.bindings = u.path.map Node.bindings) :
    t.places r = u.places r := by
  have hfield : ∀ v : Trail, v.field? = (v.path.map Node.bindings).findSome? fun bindings =>
      (⟨"", none, bindings, [], []⟩ : Node).fanOutField? := by
    intro v
    rw [field?, List.findSome?_map]
    rfl
  rw [places, places, hfield, hfield, h]

end Mapping.Trail

namespace Load

open Mapping (Node Trail scopeIn)

variable {r : Record} {around : List (String × Node)} {key : String} {n : Node} {code : String}
  {t : Trail}

/-! ### Tours of a single field -/

theorem tour_eq (n : Node) (place : Place) : tour around key n place =
    (n.fanOut place).flatMap fun spot =>
      (⟨key, n, around⟩, spot) :: tourBelow ((key, n) :: around) n.children spot := by
  cases n
  rw [tour]

mutual

/-- At a single field, a tour comes to each node once. -/
theorem tour_field {around : List (String × Node)} {key : String} (f : Field) :
    (n : Node) → tour around key n (.field f) = (n.trails around key).map (·, .field f)
  | ⟨name, table, bindings, children, conflicts⟩ => by
    rw [tour, Node.trails, fanOut_field, List.flatMap_singleton, List.map_cons,
      tourBelow_field f children]

theorem tourBelow_field {around : List (String × Node)} (f : Field) :
    (children : List (String × Node)) →
      tourBelow around children (.field f) = (Node.trailsBelow around children).map (·, .field f)
  | [] => by
    rw [tourBelow, Node.trailsBelow]
    rfl
  | (key, n) :: rest => by
    rw [tourBelow, Node.trailsBelow, List.map_append, tour_field f n, tourBelow_field f rest]

end

/-- The tree below a node that reads one field only is gone through for each occurrence. -/
theorem tour_of_fanOutField? (h : n.fanOutField? = some code) :
    tour around key n (.record r) =
      (r.occurrences code).flatMap fun f => (n.trails around key).map (·, .field f) := by
  have hfields : tour around key n (.record r) =
      ((r.occurrences code).map .field).flatMap fun spot => tour around key n spot := by
    have hfan : n.fanOut (.record r) = (r.occurrences code).map .field := by
      rw [Node.fanOut, h]
      rfl
    rw [tour_eq, hfan, List.flatMap_map, List.flatMap_map]
    refine congrArg (List.flatMap · _) (funext fun f => ?_)
    rw [tour_eq, fanOut_field, List.flatMap_singleton]
  rw [hfields, List.flatMap_map]
  exact congrArg (List.flatMap · _) (funext fun f => tour_field f n)

/-- Such a node settles the places of all nodes below it. -/
theorem places_of_mem_trails (hfield : (scopeIn around key).field = none)
    (h : n.fanOutField? = some code) (ht : t ∈ n.trails around key) :
    t.places r = (r.occurrences code).map .field := by
  have hroot : (⟨key, n, around⟩ : Trail).field? = some code := by
    rw [Trail.field?_eq]
    change ((scopeIn around key).field <|> n.fanOutField?) = some code
    rw [hfield, h]
    rfl
  have hsuffix : (⟨key, n, around⟩ : Trail).levels <:+ t.levels := Node.suffix_of_mem_trails n ht
  exact Trail.places_of_field? (Trail.field?_of_suffix hsuffix hroot)

/-- A node that reads none or several fields is applied to the whole record. -/
theorem places_of_fanOutField?_eq_none (hfield : (scopeIn around key).field = none)
    (h : n.fanOutField? = none) : (⟨key, n, around⟩ : Trail).places r = [.record r] := by
  refine Trail.places_of_field?_eq_none ?_
  rw [Trail.field?_eq]
  change ((scopeIn around key).field <|> n.fanOutField?) = none
  rw [hfield, h]
  rfl

/-! ### The length of a tour -/

/-- The number of places of the nodes of a list. -/
def placeCount (r : Record) (trails : List Trail) : Nat :=
  (trails.map fun t => (t.places r).length).sum

/-- A tour of occurrences comes to each node once for each of them. -/
theorem countP_repeated (p : Trail → Bool) (fields : List Field) (trails : List Trail) :
    (fields.flatMap fun f => trails.map fun t => (t, Place.field f)).countP (fun x => p x.1) =
      fields.length * trails.countP p := by
  induction fields with
  | nil => simp
  | cons f fields ih =>
    rw [List.flatMap_cons, List.countP_append, ih, List.countP_map, List.length_cons, Nat.succ_mul,
      Nat.add_comm]
    rfl

theorem placeCount_of_length {trails : List Trail} {k : Nat}
    (h : ∀ t ∈ trails, (t.places r).length = k) : placeCount r trails = k * trails.length := by
  have hconst : (trails.map fun t => (t.places r).length) = List.replicate trails.length k :=
    List.eq_replicate_iff.2 ⟨List.length_map _, by simpa using h⟩
  rw [placeCount, hconst, List.sum_replicate_nat, Nat.mul_comm]

/-- A node that reads none or several fields adds itself to the tour of the nodes below. -/
theorem tour_of_fanOutField?_eq_none (h : n.fanOutField? = none) :
    tour around key n (.record r) =
      (⟨key, n, around⟩, .record r) :: tourBelow ((key, n) :: around) n.children (.record r) := by
  have hfan : n.fanOut (.record r) = [.record r] := by rw [Node.fanOut, h]
  rw [tour_eq, hfan, List.flatMap_singleton]

theorem field_below (hfield : (scopeIn around key).field = none) (h : n.fanOutField? = none)
    (k : String) : (scopeIn ((key, n) :: around) k).field = none := by
  change ((scopeIn around key).field <|> n.fanOutField?) = none
  rw [hfield, h]
  rfl

theorem countP_tour_of_below (p : Trail → Bool) (hfield : (scopeIn around key).field = none)
    (hbelow : n.fanOutField? = none →
      (tourBelow ((key, n) :: around) n.children (.record r)).countP (fun x => p x.1) =
        placeCount r ((Node.trailsBelow ((key, n) :: around) n.children).filter p)) :
    (tour around key n (.record r)).countP (fun x => p x.1) =
      placeCount r ((n.trails around key).filter p) := by
  cases hfan : n.fanOutField? with
  | some code =>
    have hlength : ∀ t ∈ (n.trails around key).filter p,
        (t.places r).length = (r.occurrences code).length := by
      intro t ht
      rw [places_of_mem_trails hfield hfan (List.mem_filter.1 ht).1, List.length_map]
    rw [tour_of_fanOutField? hfan, countP_repeated, placeCount_of_length hlength,
      List.countP_eq_length_filter]
  | none =>
    have hown := places_of_fanOutField?_eq_none (r := r) hfield hfan
    rw [tour_of_fanOutField?_eq_none hfan, List.countP_cons, hbelow hfan, Node.trails_eq,
      List.filter_cons]
    split
    · rw [placeCount, placeCount, List.map_cons, List.sum_cons, hown, Nat.add_comm]
      rfl
    · rfl

mutual

/-- **The length of a tour.**  However deep the nodes stand, the occurrences of a field count
once on each trail. -/
theorem countP_tour (p : Trail → Bool) {around : List (String × Node)} {key : String} :
    (n : Node) → (scopeIn around key).field = none →
      (tour around key n (.record r)).countP (fun x => p x.1) =
        placeCount r ((n.trails around key).filter p)
  | ⟨_, _, _, children, _⟩, hfield =>
    countP_tour_of_below p hfield fun hfan => countP_tourBelow p children (field_below hfield hfan)

theorem countP_tourBelow (p : Trail → Bool) {around : List (String × Node)} :
    (children : List (String × Node)) → (∀ key, (scopeIn around key).field = none) →
      (tourBelow around children (.record r)).countP (fun x => p x.1) =
        placeCount r ((Node.trailsBelow around children).filter p)
  | [], _ => by
    rw [tourBelow, Node.trailsBelow]
    rfl
  | (key, n) :: rest, hfield => by
    rw [tourBelow, Node.trailsBelow, List.countP_append, countP_tour p n (hfield key),
      countP_tourBelow p rest hfield, List.filter_append]
    simp [placeCount]

end

/-! ### The stops of a tour at one node -/

/-- The places of the stops at the node with an address, in order. -/
def placesAt (address : List String) (spots : List (Trail × Place)) : List Place :=
  (spots.filter (·.1.address = address)).map Prod.snd

theorem placesAt_append (address : List String) (spots spots' : List (Trail × Place)) :
    placesAt address (spots ++ spots') = placesAt address spots ++ placesAt address spots' := by
  rw [placesAt, List.filter_append, List.map_append]
  rfl

theorem placesAt_eq_nil {address : List String} {spots : List (Trail × Place)}
    (h : ∀ x ∈ spots, x.1.address ≠ address) : placesAt address spots = [] := by
  rw [placesAt, List.map_eq_nil_iff, List.filter_eq_nil_iff]
  intro x hx
  simpa using h x hx

/-- The stop of a node at a field, among those of a tree without two equal addresses. -/
theorem placesAt_once {trails : List Trail} (hnodup : (trails.map Trail.address).Nodup)
    (ht : t ∈ trails) (place : Place) :
    placesAt t.address (trails.map fun u => (u, place)) = [place] := by
  have hcount : (trails.filter fun u => u.address = t.address).length = 1 := by
    have hone := List.count_eq_one_of_mem hnodup (List.mem_map_of_mem (f := Trail.address) ht)
    rw [← hone, List.count, List.countP_map, ← List.countP_eq_length_filter]
    exact List.countP_congr fun u _ => by simp
  rw [placesAt, List.filter_map, List.map_map]
  change _ = List.replicate 1 place
  refine List.eq_replicate_iff.2 ⟨?_, ?_⟩
  · rw [List.length_map, ← hcount]
    rfl
  · intro p hp
    obtain ⟨u, -, rfl⟩ := List.mem_map.1 hp
    rfl

theorem placesAt_repeated {trails : List Trail} (hnodup : (trails.map Trail.address).Nodup)
    (ht : t ∈ trails) (fields : List Field) :
    placesAt t.address (fields.flatMap fun f => trails.map fun u => (u, .field f)) =
      fields.map .field := by
  induction fields with
  | nil => rfl
  | cons f fields ih =>
    rw [List.flatMap_cons, placesAt_append, placesAt_once hnodup ht, ih, List.map_cons]
    rfl

/-- A stop of a tour is at a node of the tree. -/
theorem trail_mem_of_mem_tour (hfield : (scopeIn around key).field = none) (n : Node)
    {x : Trail × Place} (hx : x ∈ tour around key n (.record r)) : x.1 ∈ n.trails around key := by
  have hreach : InReach r (scopeIn around key).field (.record r) := by
    rw [hfield]
    rfl
  exact (inReach_of_mem_tour n (.record r) hreach x hx).1

theorem trail_mem_of_mem_tourBelow (hfield : ∀ key, (scopeIn around key).field = none)
    (children : List (String × Node)) {x : Trail × Place}
    (hx : x ∈ tourBelow around children (.record r)) : x.1 ∈ Node.trailsBelow around children := by
  have hreach : ∀ key, InReach r (scopeIn around key).field (.record r) := by
    intro key
    rw [hfield key]
    rfl
  exact (inReach_of_mem_tourBelow children (.record r) hreach x hx).1

theorem placesAt_tour_of_below (hd : n.Distinct) (hfield : (scopeIn around key).field = none)
    (hbelow : n.fanOutField? = none → t ∈ Node.trailsBelow ((key, n) :: around) n.children →
      placesAt t.address (tourBelow ((key, n) :: around) n.children (.record r)) = t.places r)
    (ht : t ∈ n.trails around key) :
    placesAt t.address (tour around key n (.record r)) = t.places r := by
  cases hfan : n.fanOutField? with
  | some code =>
    rw [tour_of_fanOutField? hfan, placesAt_repeated (Node.nodup_addresses n hd) ht,
      places_of_mem_trails hfield hfan ht]
  | none =>
    rw [tour_of_fanOutField?_eq_none hfan, ← List.singleton_append, placesAt_append]
    rw [Node.trails_eq] at ht
    rcases List.mem_cons.1 ht with rfl | ht
    · -- the tour of the nodes below does not come back to the node
      have hnone : placesAt (⟨key, n, around⟩ : Trail).address
          (tourBelow ((key, n) :: around) n.children (.record r)) = [] :=
        placesAt_eq_nil fun x hx => Node.address_ne_of_mem_trailsBelow
          (trail_mem_of_mem_tourBelow (field_below hfield hfan) n.children hx)
      rw [hnone, places_of_fanOutField?_eq_none hfield hfan, List.append_nil]
      simp [placesAt]
    · have hnone : placesAt t.address [((⟨key, n, around⟩ : Trail), Place.record r)] = [] :=
        placesAt_eq_nil fun x hx => by
          rw [List.mem_singleton.1 hx]
          exact (Node.address_ne_of_mem_trailsBelow ht).symm
      rw [hnone, List.nil_append, hbelow hfan ht]

mutual

/-- **The stops of a tour at one node** are the places of the node, in document order. -/
theorem placesAt_tour {around : List (String × Node)} {key : String} :
    (n : Node) → n.Distinct → (scopeIn around key).field = none → t ∈ n.trails around key →
      placesAt t.address (tour around key n (.record r)) = t.places r
  | ⟨_, _, _, children, _⟩, hd, hfield, ht =>
    placesAt_tour_of_below hd hfield
      (fun hfan ht => placesAt_tourBelow children (Node.distinct_iff.1 hd).1
        (Node.distinct_iff.1 hd).2 (field_below hfield hfan) ht) ht

theorem placesAt_tourBelow {around : List (String × Node)} :
    (children : List (String × Node)) → (Dict.keys children).Nodup →
      (∀ n' ∈ Node.nodesOf children, (Dict.keys n'.children).Nodup) →
      (∀ key, (scopeIn around key).field = none) → t ∈ Node.trailsBelow around children →
      placesAt t.address (tourBelow around children (.record r)) = t.places r
  | [], _, _, _, ht => by
    rw [Node.trailsBelow] at ht
    cases ht
  | (key, n) :: rest, hkeys, hbelow, hfield, ht => by
    obtain ⟨hkey, hkeys⟩ := List.nodup_cons.1 hkeys
    rw [Node.nodesOf] at hbelow
    obtain ⟨hfirst, hrest⟩ := List.forall_mem_append.1 hbelow
    rw [tourBelow, placesAt_append]
    rw [Node.trailsBelow] at ht
    rcases List.mem_append.1 ht with ht | ht
    · have hnone : placesAt t.address (tourBelow around rest (.record r)) = [] :=
        placesAt_eq_nil fun x hx =>
          (Node.address_ne hkey ht (trail_mem_of_mem_tourBelow hfield rest hx)).symm
      rw [hnone, List.append_nil, placesAt_tour n hfirst (hfield key) ht]
    · have hnone : placesAt t.address (tour around key n (.record r)) = [] :=
        placesAt_eq_nil fun x hx =>
          Node.address_ne hkey (trail_mem_of_mem_tour (hfield key) n hx) ht
      rw [hnone, List.nil_append, placesAt_tourBelow rest hkeys hrest hfield ht]

end

end Load

end Accession
