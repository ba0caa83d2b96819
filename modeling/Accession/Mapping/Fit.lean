import Accession.Mapping.Scope
import Accession.Store.Schema

/-!
# The fit of a mapping to a schema

`Mapping.misfit?` is the first node that does not fit the tables of a store: whose table or one of
whose columns is not declared, that binds a primary key, or that refers to another column than a
primary key.

* `Mapping.validateAgainst` : the check of a mapping before it is used with a store.
* `Mapping.Node.Fits` : what is known of every node after the check
  (`Mapping.fits_of_validateAgainst`).
-/

namespace Accession.Mapping

/-- The misfit of a reference to a table. -/
def referenceMisfit? (r : Registry) (path column target : String) (referenced : Option String) :
    Option MappingError :=
  match r.get? target with
  | none => some (.unknownTable path target)
  | some t =>
    match referenced with
    | none => none
    | some c =>
      if c = t.primaryKey then none
      else some (.notPrimaryKey path column target c t.primaryKey)

/-- The misfit of a binding of a column of a table. -/
def bindingMisfit? (r : Registry) (t : TableSchema) (path table : String) :
    String × Source → Option MappingError
  | (column, source) =>
    if !t.hasColumn column then some (.unknownColumn path table column)
    else if column = t.primaryKey then some (.key path column .generated)
    else match source with
      | .foreignKey target referenced => referenceMisfit? r path column target referenced
      | _ => none

namespace Node

/-- The first misfit of a node on its own. -/
def ownMisfit? (r : Registry) (path : String) (n : Node) : Option MappingError :=
  match n.table with
  | none => none
  | some table =>
    match r.get? table with
    | none => some (.unknownTable path table)
    | some t => n.bindings.findSome? (bindingMisfit? r t path table)

mutual

/-- The first misfit of a tree, each node before those below it. -/
def misfit? (r : Registry) (path : String) : Node → Option MappingError
  | ⟨name, table, bindings, children, conflicts⟩ =>
    let n : Node := ⟨name, table, bindings, children, conflicts⟩
    match n.ownMisfit? r path with
    | some e => some e
    | none => childrenMisfit? r path children

/-- The first misfit of the trees below a node. -/
def childrenMisfit? (r : Registry) (path : String) : List (String × Node) → Option MappingError
  | [] => none
  | (key, n) :: rest =>
    match misfit? r (childPath path key) n with
    | some e => some e
    | none => childrenMisfit? r path rest

end

end Node

/-- The first misfit of a mapping. -/
def misfit? (m : Mapping) (r : Registry) : Option MappingError := m.root.misfit? r rootName

/-- The mapping fits the tables; the first misfit is an error. -/
def validateAgainst (m : Mapping) (r : Registry) : Except MappingError Unit :=
  match m.misfit? r with
  | some e => .error e
  | none => .ok ()

/-! ### After the check -/

/-- The table of the node is known, and its bindings are for declared columns that the store does
not fill itself. -/
def Node.Fits (r : Registry) (n : Node) : Prop :=
  ∀ table ∈ n.table, ∃ t, r.get? table = some t ∧
    ∀ b ∈ n.bindings, t.hasColumn b.1 ∧ b.1 ≠ t.primaryKey

section

variable {r : Registry} {path : String}

theorem declared_of_bindingMisfit? {t : TableSchema} {table : String} {b : String × Source}
    (h : bindingMisfit? r t path table b = none) : t.hasColumn b.1 ∧ b.1 ≠ t.primaryKey := by
  obtain ⟨column, source⟩ := b
  by_cases hcolumn : t.hasColumn column
  · refine ⟨hcolumn, fun hkey => ?_⟩
    have hkey : column = t.primaryKey := hkey
    simp only [bindingMisfit?, hcolumn, Bool.not_true, Bool.false_eq_true, if_false, if_pos hkey]
      at h
    cases h
  · simp only [bindingMisfit?, hcolumn, Bool.not_false, if_true] at h
    cases h

theorem Node.fits_of_ownMisfit? {n : Node} (h : n.ownMisfit? r path = none) : n.Fits r := by
  intro table htable
  have htable : n.table = some table := htable
  simp only [Node.ownMisfit?, htable] at h
  cases ht : r.get? table with
  | none =>
    rw [ht] at h
    cases h
  | some t =>
    rw [ht] at h
    exact ⟨t, rfl, fun b hb => declared_of_bindingMisfit? (List.findSome?_eq_none_iff.1 h b hb)⟩

mutual

theorem Node.fits_of_misfit? {path : String} :
    (n : Node) → n.misfit? r path = none → ∀ n' ∈ n.nodes, n'.Fits r
  | ⟨name, table, bindings, children, conflicts⟩, h => by
    rw [Node.misfit?] at h
    rw [Node.nodes]
    split at h
    · cases h
    · next hown =>
      exact List.forall_mem_cons.2 ⟨Node.fits_of_ownMisfit? hown,
        Node.fits_of_childrenMisfit? children h⟩

theorem Node.fits_of_childrenMisfit? {path : String} :
    (children : List (String × Node)) → Node.childrenMisfit? r path children = none →
      ∀ n' ∈ Node.nodesOf children, n'.Fits r
  | [], _ => by simp [Node.nodesOf]
  | (_, n) :: rest, h => by
    rw [Node.childrenMisfit?] at h
    rw [Node.nodesOf]
    split at h
    · cases h
    · next hfirst =>
      exact List.forall_mem_append.2 ⟨Node.fits_of_misfit? n hfirst,
        Node.fits_of_childrenMisfit? rest h⟩

end

theorem fits_of_validateAgainst {m : Mapping} (h : m.validateAgainst r = .ok ()) :
    ∀ n ∈ m.root.nodes, n.Fits r := by
  unfold validateAgainst at h
  split at h
  · cases h
  · next hmisfit => exact Node.fits_of_misfit? m.root hmisfit

end

end Accession.Mapping
