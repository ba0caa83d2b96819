import Accession.Mapping.Document
import Accession.Proofs.Mapping.Trails

/-!
# Addresses in a mapping

The address of a node is made of the keys on the way to it, the nearest first.  It tells the nodes
of a tree apart, since no two nodes below one have the same key: building a tree replaces a node
that stands under a key.

* `Trail.address` : the keys on the way.
* `Node.Distinct` : the nodes below one have different keys, everywhere in a tree.
  `Node.distinct_new`, `Node.Distinct.withBinding` and `Node.Distinct.withChild` are about trees
  that are built, and `distinct_of_ofYaml` is about those of documents.
* `Node.nodup_addresses` : in such a tree no two nodes have the same address.
-/

namespace Accession.Mapping

/-- The keys on the way to the node, its own first. -/
def Trail.address (t : Trail) : List String := t.levels.map Prod.fst

namespace Node

/-- The nodes below one have different keys, everywhere in the tree. -/
def Distinct (n : Node) : Prop := ∀ n' ∈ n.nodes, (Dict.keys n'.children).Nodup

instance (n : Node) : Decidable n.Distinct :=
  inferInstanceAs (Decidable (∀ n' ∈ n.nodes, (Dict.keys n'.children).Nodup))

variable {n child : Node}

theorem nodes_eq (n : Node) : n.nodes = n :: nodesOf n.children := by
  cases n
  rw [nodes]

theorem distinct_iff : n.Distinct ↔
    (Dict.keys n.children).Nodup ∧ ∀ n' ∈ nodesOf n.children, (Dict.keys n'.children).Nodup := by
  rw [Distinct, nodes_eq, List.forall_mem_cons]

theorem distinct_new (name : String) : (new name).Distinct := by
  rw [distinct_iff]
  simp [new, nodesOf, Dict.keys]

theorem Distinct.withBinding (h : n.Distinct) (table column : String) (source : Source) :
    (n.withBinding table column source).Distinct := by
  rw [distinct_iff] at h ⊢
  rw [children_withBinding]
  exact h

theorem mem_nodesOf_insert {key : String} {n' : Node} {children : List (String × Node)}
    (h : n' ∈ nodesOf (Dict.insert children key child)) :
    n' ∈ child.nodes ∨ n' ∈ nodesOf children := by
  induction children with
  | nil =>
    simp only [Dict.insert, nodesOf, List.append_nil] at h
    exact .inl h
  | cons e children ih =>
    obtain ⟨k, below⟩ := e
    rw [Dict.insert] at h
    split at h
    · rw [nodesOf] at h ⊢
      exact (List.mem_append.1 h).imp id (List.mem_append_right _)
    · rw [nodesOf] at h ⊢
      rcases List.mem_append.1 h with h | h
      · exact .inr (List.mem_append_left _ h)
      · exact (ih h).imp id (List.mem_append_right _)

theorem Distinct.withChild (h : n.Distinct) (key : String) (hchild : child.Distinct) :
    (n.withChild key child).Distinct := by
  rw [distinct_iff] at h ⊢
  obtain ⟨hkeys, hbelow⟩ := h
  refine ⟨Dict.nodup_keys_insert hkeys, fun n' hn' => ?_⟩
  rcases mem_nodesOf_insert hn' with hn' | hn'
  · exact hchild n' hn'
  · exact hbelow n' hn'

/-! ### Documents -/

theorem Distinct.bind {n' : Node} {path key table column : String} {source : Source}
    (h : n.Distinct) (hbind : n.bind path key table column source = .ok n') : n'.Distinct := by
  rw [Node.bind] at hbind
  split at hbind
  all_goals split at hbind
  · cases hbind
  · split at hbind
    · cases hbind
    · cases hbind
      exact h.withBinding table column source
  · cases hbind
  · cases hbind
    exact h.withBinding table column source

theorem Distinct.readBinding {n' : Node} {c : Config} {path key : String} {value : Yaml}
    (h : n.Distinct) (hread : n.readBinding c path key value = .ok n') : n'.Distinct := by
  rw [Node.readBinding] at hread
  dsimp only at hread
  split at hread
  · cases hread
  · split at hread
    · cases hread
    · exact h.bind hread

mutual

theorem distinct_of_ofYaml? {c : Config} {name path : String} {read : Node} :
    (value : Yaml) → ofYaml? c name path value = some (.ok read) → read.Distinct
  | .mapping entries, h => by
    rw [ofYaml?] at h
    exact (distinct_new name).readEntries entries (Option.some.inj h)
  | .tagged _ value, h => by
    rw [ofYaml?] at h
    exact distinct_of_ofYaml? value h
  | .null, h | .bool _, h | .integer _, h | .float _, h | .text _, h | .sequence _, h => by
    simp [ofYaml?] at h

theorem Distinct.readEntries {c : Config} {path : String} {n read : Node} (hn : n.Distinct) :
    (entries : List (Yaml × Yaml)) → n.readEntries c path entries = .ok read → read.Distinct
  | [], h => by
    rw [Node.readEntries] at h
    cases h
    exact hn
  | (key, value) :: rest, h => by
    rw [Node.readEntries] at h
    split at h
    · cases h
    · next key _ =>
      split at h
      -- the entry is a node below, or a binding
      · next child _ =>
        split at h
        · cases h
        · split at h
          · cases h
          · cases h
          · next below hbelow =>
            exact (hn.withChild child (distinct_of_ofYaml? value hbelow)).readEntries rest h
      · split at h
        · cases h
        · next bound hbound => exact (hn.readBinding hbound).readEntries rest h

end

end Node

/-- The trees of documents have different keys below each node. -/
theorem distinct_of_ofYaml {contents : String} {m : Mapping} (h : ofYaml contents = .ok m) :
    m.root.Distinct := by
  rw [ofYaml] at h
  split at h
  · cases h
  · next c entries _ =>
    rw [ofEntries] at h
    split at h
    · cases h
    · split at h
      · cases h
      · next root hroot =>
        rw [ofTree] at h
        split at h
        · cases h
        · cases h
          exact (Node.distinct_new _).readEntries entries hroot

/-! ### Addresses -/

namespace Node

variable {around : List (String × Node)} {key : String} {t : Trail}

/-- The address of a node in a tree ends in that of the root. -/
theorem suffix_address {n : Node} (ht : t ∈ n.trails around key) :
    key :: around.map Prod.fst <:+ t.address := (suffix_of_mem_trails n ht).map Prod.fst

/-- Nodes below different keys have different addresses. -/
theorem address_ne {n : Node} {rest : List (String × Node)} {u : Trail}
    (hkey : key ∉ Dict.keys rest) (ht : t ∈ n.trails around key)
    (hu : u ∈ trailsBelow around rest) : t.address ≠ u.address := by
  intro heq
  obtain ⟨child, hchild, hsuffix⟩ := suffix_of_mem_trailsBelow rest hu
  have hsuffix : child.1 :: around.map Prod.fst <:+ u.address := hsuffix.map Prod.fst
  have hsame : key :: around.map Prod.fst <:+ child.1 :: around.map Prod.fst :=
    List.suffix_of_suffix_length_le (suffix_address ht) (heq ▸ hsuffix) (by simp)
  have hcons := hsame.eq_of_length (by simp)
  rw [(List.cons.inj hcons).1] at hkey
  exact hkey (List.mem_map_of_mem hchild)

/-- No node below has the address of the root. -/
theorem address_ne_of_mem_trailsBelow {n : Node} {children : List (String × Node)}
    (ht : t ∈ trailsBelow ((key, n) :: around) children) :
    t.address ≠ (⟨key, n, around⟩ : Trail).address := by
  intro heq
  obtain ⟨child, -, hsuffix⟩ := suffix_of_mem_trailsBelow children ht
  have hlength := (hsuffix.map Prod.fst).length_le
  rw [show t.levels.map Prod.fst = t.address from rfl, heq] at hlength
  simp only [Trail.address, Trail.levels, List.map_cons, List.length_cons, List.length_map]
    at hlength
  omega

mutual

/-- **In a tree with different keys no two nodes have the same address.** -/
theorem nodup_addresses {around : List (String × Node)} {key : String} :
    (n : Node) → n.Distinct → ((n.trails around key).map Trail.address).Nodup
  | ⟨name, table, bindings, children, conflicts⟩, hd => by
    obtain ⟨hkeys, hbelow⟩ := distinct_iff.1 hd
    rw [trails, List.map_cons, List.nodup_cons]
    refine ⟨fun hmem => ?_, nodup_addressesBelow children hkeys hbelow⟩
    obtain ⟨t, ht, heq⟩ := List.mem_map.1 hmem
    exact address_ne_of_mem_trailsBelow ht heq

theorem nodup_addressesBelow {around : List (String × Node)} :
    (children : List (String × Node)) → (Dict.keys children).Nodup →
      (∀ n' ∈ nodesOf children, (Dict.keys n'.children).Nodup) →
      ((trailsBelow around children).map Trail.address).Nodup
  | [], _, _ => by simp [trailsBelow]
  | (key, n) :: rest, hkeys, hbelow => by
    obtain ⟨hkey, hkeys⟩ := List.nodup_cons.1 hkeys
    rw [nodesOf] at hbelow
    obtain ⟨hfirst, hrest⟩ := List.forall_mem_append.1 hbelow
    rw [trailsBelow, List.map_append, List.nodup_append]
    refine ⟨nodup_addresses n hfirst, nodup_addressesBelow rest hkeys hrest, ?_⟩
    intro a ha b hb
    obtain ⟨t, ht, rfl⟩ := List.mem_map.1 ha
    obtain ⟨u, hu, rfl⟩ := List.mem_map.1 hb
    exact address_ne hkey ht hu

end

end Node

end Accession.Mapping
