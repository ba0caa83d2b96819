import Mathlib.Data.List.Forall2
import Accession.Proofs.Mapping.Trails

/-!
# Trees that are built, and why they are refused

A tree is built by bindings and by nodes put below others.  Whether it is accepted can be said of
the steps by which it was built, one site after another, without the check that runs over the
finished tree.

* `Draft` : the steps by which a tree is built; `Draft.node` : the tree.
* `Draft.sites` : the sites of the tree, each before those below it; a draft that was put under a
  key again has no site any more.
* `Site.Sound` : nothing is wrong at a site; `Site.Refused` : the first thing that is wrong.
* `Site.ownFault?_eq_none_iff`, `Site.ownFault?_eq_some_iff` : the check of one node against
  these.
* `Draft.trails_node` : the sites are those that the check walks over.
* `ofTree_node` : which trees are accepted, and what is said of one that is not.
-/

namespace Accession.Mapping

/-- The steps by which a tree is built. -/
inductive Draft where
  | new (name : String)
  | withBinding (d : Draft) (table column : String) (source : Source)
  | withChild (d : Draft) (key : String) (child : Draft)

/-- A site in a tree that is built: a draft and its key, and the drafts around it with theirs, the
nearest first. -/
structure Site where
  key : String
  draft : Draft
  around : List (String × Draft)

namespace Draft

/-- The tree that is built. -/
def node : Draft → Node
  | new name => Node.new name
  | withBinding d table column source => d.node.withBinding table column source
  | withChild d key child => d.node.withChild key child.node

/-- Drafts with their keys, as nodes with their keys. -/
def nodesAround (around : List (String × Draft)) : List (String × Node) :=
  around.map fun a => (a.1, a.2.node)

/-- The tables and columns that the bindings of the root named, in the order in which they were
made. -/
def named : Draft → List (String × String)
  | new _ => []
  | withBinding d table column _ => d.named ++ [(table, column)]
  | withChild d _ _ => d.named

/-- The sites below the root, by the key under which they stand.  A draft that is put under a key
that was taken replaces what stood there. -/
def sitesBelow : List (String × Draft) → Draft → Dict String (List Site)
  | _, new _ => []
  | around, withBinding d _ _ _ => sitesBelow around d
  | around, withChild d key child =>
    Dict.insert (sitesBelow around d) key
      (⟨key, child, around⟩ :: (sitesBelow ((key, child) :: around) child).values.flatten)

/-- The sites of a tree, each before those below it. -/
def sites (d : Draft) : List Site :=
  ⟨rootName, d, []⟩ :: (sitesBelow [(rootName, d)] d).values.flatten

end Draft

/-- The keys on the way to a site, written as a path. -/
def pathIn : (around : List (String × Draft)) → (key : String) → String
  | [], _ => rootName
  | (k, _) :: around, key => childPath (pathIn around k) key

namespace Site

/-- The path of the site. -/
def path (p : Site) : String := pathIn p.around p.key

/-- The nodes around the site, from the root down. -/
def above (p : Site) : List Node := (p.around.map fun a => a.2.node).reverse

/-- The site as a trail of the finished tree. -/
def trail (p : Site) : Trail := ⟨p.key, p.draft.node, Draft.nodesAround p.around⟩

/-- The bindings made at the site name one table. -/
def OneTable (p : Site) : Prop := ∀ a ∈ p.draft.named, ∀ b ∈ p.draft.named, a.1 = b.1

/-- A reference names the table of a node around, and if some node around reads one field only, then
a tag names the field of the first that does. -/
def Allows (p : Site) : Source → Prop
  | .foreignKey table _ => ∃ n ∈ p.above, n.table = some table
  | .tag tag => ∀ field, FirstReader p.above field → tag.field = field
  | .literal _ | .deferred => True

/-- Nothing is wrong at the site. -/
structure Sound (p : Site) : Prop where
  oneTable : p.OneTable
  allows : ∀ b ∈ p.draft.node.bindings, p.Allows b.2

/-- The first thing that is wrong at the site: a binding for another table than that of the first
one, or else the first binding whose source is not allowed. -/
inductive Refused (c : Config) (p : Site) : MappingError → Prop
  | table {before after : List (String × String)} {expected found column : String}
      (named : p.draft.named = before ++ (found, column) :: after) (begun : before ≠ [])
      (first : ∀ b ∈ before, b.1 = expected) (other : found ≠ expected) :
      Refused c p (.tableMismatch p.path column expected found)
  | reference {before after : List (String × Source)} {column table : String}
      {referred : Option String} (one : p.OneTable)
      (bindings : p.draft.node.bindings = before ++ (column, .foreignKey table referred) :: after)
      (first : ∀ b ∈ before, p.Allows b.2) (missing : ∀ n ∈ p.above, n.table ≠ some table) :
      Refused c p (.danglingForeignKey p.path column table)
  | field {before after : List (String × Source)} {column field : String} {tag : Tag}
      (one : p.OneTable) (bindings : p.draft.node.bindings = before ++ (column, .tag tag) :: after)
      (first : ∀ b ∈ before, p.Allows b.2) (reader : FirstReader p.above field)
      (other : tag.field ≠ field) :
      Refused c p (.tagOutOfScope p.path column (tag.format c.fieldDelimiter) field)

end Site

/-! ### The tables of the bindings -/

namespace Draft

theorem table_node (d : Draft) : d.node.table = d.named.head?.map Prod.fst := by
  induction d with
  | new name => rfl
  | withChild d key child ih => exact ih
  | withBinding d table column source ih =>
    rw [node, named, Node.withBinding]
    cases hnamed : d.named with
    | nil =>
      have htable : d.node.table = none := by simp [ih, hnamed]
      simp [htable]
    | cons b rest =>
      have htable : d.node.table = some b.1 := by simp [ih, hnamed]
      simp only [htable, List.cons_append, List.head?_cons, Option.map_some]
      split <;> rfl

/-- The columns that are set apart are those of another table than the first. -/
theorem conflicts_node (d : Draft) : d.node.conflicts =
    (d.named.filter fun b => d.node.table ≠ some b.1).map Prod.swap := by
  induction d with
  | new name => rfl
  | withChild d key child ih => exact ih
  | withBinding d table column source ih =>
    rw [node, named, Node.withBinding]
    cases htable : d.node.table with
    | none =>
      have hnamed : d.named = [] := by simpa [htable] using (table_node d).symm
      rw [hnamed] at ih ⊢
      simp [ih]
    | some first =>
      rw [htable] at ih
      by_cases hfirst : first = table
      · simp [hfirst, ih]
      · simp [hfirst, ih]

/-- The fault of the tables is that of the first binding for another table than the first one. -/
theorem conflictFault?_node (d : Draft) (s : Scope) : d.node.conflictFault? s =
    match d.named with
    | [] => none
    | first :: rest => (rest.find? fun b => first.1 ≠ b.1).map fun b =>
        .tableMismatch s.path b.2 first.1 b.1 := by
  have htable := d.table_node
  have hconflicts := d.conflicts_node
  rw [Node.conflictFault?]
  cases hnamed : d.named with
  | nil =>
    rw [hnamed] at hconflicts
    simp [hconflicts]
  | cons first rest =>
    have hother : d.node.conflicts = (rest.filter fun b => first.1 ≠ b.1).map Prod.swap := by
      simpa [hnamed, htable] using hconflicts
    rw [hother, htable, hnamed]
    dsimp only
    rw [← List.head?_filter]
    cases rest.filter fun b => first.1 ≠ b.1 <;> rfl

theorem conflictFault?_eq_none_iff {d : Draft} {s : Scope} : d.node.conflictFault? s = none ↔
    ∀ a ∈ d.named, ∀ b ∈ d.named, a.1 = b.1 := by
  rw [conflictFault?_node]
  cases d.named with
  | nil => simp
  | cons first rest =>
    rw [Option.map_eq_none_iff, List.find?_eq_none]
    constructor
    · intro h
      have hfirst : ∀ b ∈ first :: rest, first.1 = b.1 :=
        List.forall_mem_cons.2 ⟨rfl, fun b hb => by simpa using h b hb⟩
      exact fun a ha b hb => (hfirst a ha).symm.trans (hfirst b hb)
    · intro h b hb
      simpa using h first List.mem_cons_self b (List.mem_cons_of_mem _ hb)

theorem conflictFault?_eq_some_iff {d : Draft} {s : Scope} {e : MappingError} :
    d.node.conflictFault? s = some e ↔ ∃ before column found after expected,
      d.named = before ++ (found, column) :: after ∧ before ≠ [] ∧
        (∀ b ∈ before, b.1 = expected) ∧ found ≠ expected ∧
        e = .tableMismatch s.path column expected found := by
  rw [conflictFault?_node]
  constructor
  · intro h
    split at h
    · cases h
    · next first rest hnamed =>
      obtain ⟨⟨found, column⟩, hfind, rfl⟩ := Option.map_eq_some_iff.1 h
      obtain ⟨hother, before, after, hrest, hbefore⟩ := List.find?_eq_some_iff_append.1 hfind
      have hsame : ∀ b ∈ before, first.1 = b.1 := fun b hb => by simpa using hbefore b hb
      have hfound : first.1 ≠ found := by simpa using hother
      refine ⟨first :: before, column, found, after, first.1, ?_, by simp, ?_, hfound.symm, rfl⟩
      · rw [hnamed, hrest, List.cons_append]
      · exact List.forall_mem_cons.2 ⟨rfl, fun b hb => (hsame b hb).symm⟩
  · rintro ⟨before, column, found, after, expected, hnamed, hbegun, hbefore, hother, rfl⟩
    obtain ⟨first, before, rfl⟩ := List.exists_cons_of_ne_nil hbegun
    obtain ⟨rfl, hbefore⟩ := List.forall_mem_cons.1 hbefore
    rw [hnamed, List.cons_append]
    refine Option.map_eq_some_iff.2 ⟨(found, column), ?_, rfl⟩
    refine List.find?_eq_some_iff_append.2 ⟨?_, before, after, rfl, fun b hb => ?_⟩
    · simpa using hother.symm
    · simpa using (hbefore b hb).symm

end Draft

/-! ### The check of one node -/

namespace Site

variable {c : Config} {p : Site} {e : MappingError}

theorem scope_path (p : Site) : p.trail.scope.path = p.path := by
  obtain ⟨key, draft, around⟩ := p
  change (scopeIn (Draft.nodesAround around) key).path = pathIn around key
  induction around generalizing key with
  | nil => rfl
  | cons a around ih =>
    rw [pathIn, ← ih]
    rfl

theorem mem_scope_enclosing {table : String} :
    table ∈ p.trail.scope.enclosing ↔ ∃ n ∈ p.above, n.table = some table := by
  simp only [Trail.scope, trail, Draft.nodesAround, scopeIn_enclosing, above, List.mem_filterMap,
    List.mem_reverse, List.mem_map, exists_exists_and_eq_and]

theorem scope_field_eq_some_iff {field : String} :
    p.trail.scope.field = some field ↔ FirstReader p.above field := by
  rw [firstReader_iff, Trail.scope, trail, scopeIn_field, Draft.nodesAround, List.map_map]
  rfl

theorem bindingFault?_reference {column table : String} {referred : Option String} :
    bindingFault? c p.trail.scope (column, .foreignKey table referred) = some e ↔
      (∀ n ∈ p.above, n.table ≠ some table) ∧ e = .danglingForeignKey p.path column table := by
  have hmissing : (∀ n ∈ p.above, n.table ≠ some table) ↔ table ∉ p.trail.scope.enclosing := by
    rw [mem_scope_enclosing]
    simp
  rw [bindingFault?, scope_path, hmissing]
  by_cases h : table ∈ p.trail.scope.enclosing
  · simp [h]
  · simp [h, eq_comm]

theorem bindingFault?_tag {column : String} {tag : Tag} :
    bindingFault? c p.trail.scope (column, .tag tag) = some e ↔
      ∃ field, FirstReader p.above field ∧ tag.field ≠ field ∧
        e = .tagOutOfScope p.path column (tag.format c.fieldDelimiter) field := by
  rw [bindingFault?, scope_path]
  simp only [← scope_field_eq_some_iff]
  cases p.trail.scope.field with
  | none => simp
  | some field =>
    by_cases h : field = tag.field
    · simp [h]
    · simp [h, eq_comm]

theorem bindingFault?_eq_none_iff {column : String} {source : Source} :
    bindingFault? c p.trail.scope (column, source) = none ↔ p.Allows source := by
  cases source with
  | foreignKey table referred =>
    rw [Option.eq_none_iff_forall_ne_some]
    simp [bindingFault?_reference, Allows]
  | tag tag =>
    rw [Option.eq_none_iff_forall_ne_some]
    constructor
    · intro h field hreader
      by_contra hother
      exact h _ (bindingFault?_tag.2 ⟨field, hreader, hother, rfl⟩)
    · intro h e he
      obtain ⟨field, hreader, hother, -⟩ := bindingFault?_tag.1 he
      exact hother (h field hreader)
  | literal | deferred => exact iff_of_true rfl trivial

theorem ownFault?_eq_none_iff : p.draft.node.ownFault? c p.trail.scope = none ↔ p.Sound := by
  rw [Node.ownFault?]
  cases hconflict : p.draft.node.conflictFault? p.trail.scope with
  | some e =>
    constructor
    · intro h
      cases h
    · intro h
      rw [Draft.conflictFault?_eq_none_iff.2 h.oneTable] at hconflict
      cases hconflict
  | none =>
    refine List.findSome?_eq_none_iff.trans ⟨fun h => ⟨?_, fun b hb => ?_⟩, fun h b hb => ?_⟩
    · exact Draft.conflictFault?_eq_none_iff.1 hconflict
    · exact bindingFault?_eq_none_iff.1 (h b hb)
    · exact bindingFault?_eq_none_iff.2 (h.allows b hb)

theorem ownFault?_eq_some_iff :
    p.draft.node.ownFault? c p.trail.scope = some e ↔ p.Refused c e := by
  constructor
  · intro h
    rw [Node.ownFault?] at h
    split at h
    · next hconflict =>
      cases h
      obtain ⟨before, column, found, after, expected, hnamed, hbegun, hbefore, hother, rfl⟩ :=
        Draft.conflictFault?_eq_some_iff.1 hconflict
      rw [scope_path]
      exact .table hnamed hbegun hbefore hother
    · next hconflict =>
      have hone : p.OneTable := Draft.conflictFault?_eq_none_iff.1 hconflict
      obtain ⟨before, ⟨column, source⟩, after, hbindings, hfault, hbefore⟩ :=
        List.findSome?_eq_some_iff.1 h
      have hfirst : ∀ b ∈ before, p.Allows b.2 := fun b hb =>
        bindingFault?_eq_none_iff.1 (hbefore b hb)
      cases source with
      | foreignKey table referred =>
        obtain ⟨hmissing, rfl⟩ := bindingFault?_reference.1 hfault
        exact .reference hone hbindings hfirst hmissing
      | tag tag =>
        obtain ⟨field, hreader, hother, rfl⟩ := bindingFault?_tag.1 hfault
        exact .field hone hbindings hfirst hreader hother
      | literal | deferred => cases hfault
  · intro h
    rw [Node.ownFault?]
    cases h with
    | table hnamed hbegun hbefore hother =>
      rw [Draft.conflictFault?_eq_some_iff.2
        ⟨_, _, _, _, _, hnamed, hbegun, hbefore, hother, rfl⟩, scope_path]
    | reference hone hbindings hfirst hmissing =>
      rw [Draft.conflictFault?_eq_none_iff.2 hone]
      refine List.findSome?_eq_some_iff.2 ⟨_, _, _, hbindings, ?_, fun b hb => ?_⟩
      · exact bindingFault?_reference.2 ⟨hmissing, rfl⟩
      · exact bindingFault?_eq_none_iff.2 (hfirst b hb)
    | field hone hbindings hfirst hreader hother =>
      rw [Draft.conflictFault?_eq_none_iff.2 hone]
      refine List.findSome?_eq_some_iff.2 ⟨_, _, _, hbindings, ?_, fun b hb => ?_⟩
      · exact bindingFault?_tag.2 ⟨_, hreader, hother, rfl⟩
      · exact bindingFault?_eq_none_iff.2 (hfirst b hb)

end Site

/-! ### The walk over a tree -/

namespace Draft

/-- A child stands under the key of some sites, which are those that the check walks over. -/
def Walked (around : List (String × Draft)) (child : String × Node)
    (below : String × List Site) : Prop :=
  child.1 = below.1 ∧ child.2.trails (nodesAround around) child.1 = below.2.map Site.trail

theorem forall₂_insert {α β : Type} {R : String × α → String × β → Prop} {key : String} {x : α}
    {y : β} {xs : Dict String α} {ys : Dict String β} (hkeys : ∀ a b, R a b → a.1 = b.1)
    (h : List.Forall₂ R xs ys) (hnew : R (key, x) (key, y)) :
    List.Forall₂ R (Dict.insert xs key x) (Dict.insert ys key y) := by
  induction h with
  | nil => exact .cons hnew .nil
  | @cons a b xs ys hab hrest ih =>
    obtain ⟨k, x'⟩ := a
    obtain ⟨_, y'⟩ := b
    obtain rfl : k = _ := hkeys _ _ hab
    rw [Dict.insert, Dict.insert]
    split
    · exact .cons hnew hrest
    · exact .cons hab ih

theorem trailsBelow_of_walked {around : List (String × Draft)} {children : List (String × Node)}
    {below : Dict String (List Site)} (h : List.Forall₂ (Walked around) children below) :
    Node.trailsBelow (nodesAround around) children = below.values.flatten.map Site.trail := by
  induction h with
  | nil => rfl
  | @cons child site children below hchild _ ih =>
    obtain ⟨key, n⟩ := child
    rw [Node.trailsBelow, hchild.2, ih]
    simp [Dict.values]

theorem walked (d : Draft) (around : List (String × Draft)) :
    List.Forall₂ (Walked around) d.node.children (sitesBelow around d) := by
  induction d generalizing around with
  | new name => exact .nil
  | withBinding d table column source ih =>
    rw [node, Node.children_withBinding]
    exact ih around
  | withChild d key child ih ihchild =>
    refine forall₂_insert (fun _ _ h => h.1) (ih around) ⟨rfl, ?_⟩
    rw [Node.trails_eq, List.map_cons]
    exact congrArg _ (trailsBelow_of_walked (ihchild ((key, child) :: around)))

/-- **The check walks over the sites of a tree.** -/
theorem trails_node (d : Draft) : d.node.trails [] rootName = d.sites.map Site.trail := by
  rw [Node.trails_eq, sites, List.map_cons]
  exact congrArg _ (trailsBelow_of_walked (d.walked [(rootName, d)]))

/-- A draft under a key that was taken has the place of the one that it replaces. -/
example : (((new "mapping").withChild "notes" (new "notes")).withChild "topics" (new "topics")
    |>.withChild "notes" ((new "notes").withChild "marks" (new "marks"))).sites.map Site.path =
      ["mapping", "mapping/notes", "mapping/notes/marks", "mapping/topics"] := by decide

theorem fault?_node (c : Config) (d : Draft) : d.node.fault? c .root =
    d.sites.findSome? fun p => p.draft.node.ownFault? c p.trail.scope := by
  have hroot : d.node.fault? c (scopeIn [] rootName) = _ := Node.fault?_eq_findSome? d.node
  rw [trails_node, List.findSome?_map] at hroot
  exact hroot

end Draft

/-- **Which trees are accepted, and what is said of one that is not.**  A tree that is built is
accepted just if the settings are usable and nothing is wrong at any site.  If the settings are
usable, it is refused for the first thing that is wrong at the first site where something is. -/
theorem ofTree_node (c : Config) (d : Draft) :
    (∀ m, ofTree c d.node = .ok m ↔ m = ⟨c, d.node⟩ ∧ c.Usable ∧ ∀ p ∈ d.sites, p.Sound) ∧
      ∀ e, ofTree c d.node = .error e ↔
        (∃ f, c.fault? = some f ∧ e = .config f) ∨
          c.Usable ∧ ∃ before p after, d.sites = before ++ p :: after ∧
            (∀ q ∈ before, q.Sound) ∧ p.Refused c e := by
  have hsound : d.node.fault? c .root = none ↔ ∀ p ∈ d.sites, p.Sound := by
    rw [Draft.fault?_node, List.findSome?_eq_none_iff]
    exact forall₂_congr fun p _ => Site.ownFault?_eq_none_iff
  have hrefused (e : MappingError) : d.node.fault? c .root = some e ↔
      ∃ before p after, d.sites = before ++ p :: after ∧ (∀ q ∈ before, q.Sound) ∧
        p.Refused c e := by
    rw [Draft.fault?_node, List.findSome?_eq_some_iff]
    simp only [Site.ownFault?_eq_none_iff, Site.ownFault?_eq_some_iff, and_comm]
  rw [ofTree, treeFault?, ← hsound]
  simp only [← hrefused, ← Config.fault?_eq_none_iff]
  cases c.fault? with
  | some f => simp [eq_comm]
  | none => cases d.node.fault? c .root <;> simp [eq_comm]

end Accession.Mapping
