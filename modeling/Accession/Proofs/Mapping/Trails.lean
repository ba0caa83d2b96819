import Accession.Mapping.Scope

/-!
# Trails of a mapping

A *trail* is the way from the root of a mapping to one of its nodes.  What the check of a mapping
knows of a node depends on its trail only: the tables around are those of the nodes on the way, and
the field is that of the first node on the way that reads one field only.

* `Node.ReadsOnly` : the tags of a node name one field; `FirstReader` : the first node of a path for
  which this is so, and its field.
* `Trail`, `Node.trails` : all trails of a tree, each node before those below it.
* `Trail.scope_enclosing`, `Trail.scope_field` : what is known of the place of a node.
* `fault?_eq_findSome?` : the fault of a tree is the first of the faults of its nodes, so in a tree
  without a fault no node has one (`ownFault?_of_fault?`).
* `field_of_ownFault?`, `enclosing_of_ownFault?` : what it means that a node has no fault.
* `Node.warned`, `mem_warned` : the nodes that are warned of.
-/

namespace Accession.Mapping

namespace Node

/-- A tag of the node names the field. -/
def Reads (n : Node) (code : String) : Prop :=
  ∃ b ∈ n.bindings, ∃ tag, b.2 = .tag tag ∧ tag.field = code

/-- The tags of the node name this field, and no other. -/
def ReadsOnly (n : Node) (code : String) : Prop := n.Reads code ∧ ∀ c, n.Reads c → c = code

/-- The tags of the node name two different fields, or more. -/
def ReadsSeveral (n : Node) : Prop := ∃ c d, n.Reads c ∧ n.Reads d ∧ c ≠ d

variable {n : Node} {code : String}

theorem reads_iff : n.Reads code ↔ code ∈ n.bindings.values.filterMap Source.fieldCode? := by
  rw [List.mem_filterMap]
  constructor
  · rintro ⟨b, hb, tag, htag, rfl⟩
    exact ⟨b.2, List.mem_map_of_mem hb, by rw [htag]; rfl⟩
  · rintro ⟨source, hsource, hcode⟩
    obtain ⟨b, hb, rfl⟩ := List.mem_map.1 hsource
    cases hb2 : b.2 with
    | tag tag =>
      rw [hb2] at hcode
      exact ⟨b, hb, tag, hb2, Option.some.inj hcode⟩
    | literal | foreignKey | deferred =>
      rw [hb2] at hcode
      cases hcode

theorem fanOutField?_iff_readsOnly : n.fanOutField? = some code ↔ n.ReadsOnly code := by
  rw [fanOutField?_eq_some, ReadsOnly, reads_iff]
  exact and_congr_right fun _ => forall_congr' fun c => imp_congr_left reads_iff.symm

theorem one_lt_fieldCodes_iff : 1 < n.fieldCodes.length ↔ n.ReadsSeveral := by
  constructor
  · intro hlength
    -- some field is read, and it is not the only one
    obtain ⟨c, hc⟩ := List.exists_mem_of_length_pos (Nat.lt_trans Nat.zero_lt_one hlength)
    have hreads := reads_iff.2 (mem_fieldCodes.1 hc)
    refine Classical.byContradiction fun hseveral => ?_
    have hsole : n.fanOutField? = some c := fanOutField?_iff_readsOnly.2
      ⟨hreads, fun d hd => Classical.not_not.1 fun hne => hseveral ⟨d, c, hd, hreads, hne⟩⟩
    unfold fanOutField? at hsole
    split at hsole
    · next hcodes =>
      rw [hcodes] at hlength
      exact absurd hlength (Nat.lt_irrefl 1)
    · cases hsole
  · rintro ⟨c, d, hc, hd, hne⟩
    have hc := mem_fieldCodes.2 (reads_iff.1 hc)
    have hd := mem_fieldCodes.2 (reads_iff.1 hd)
    match hcodes : n.fieldCodes with
    | [] =>
      rw [hcodes] at hc
      cases hc
    | [code] =>
      rw [hcodes, List.mem_singleton] at hc hd
      exact absurd (hc.trans hd.symm) hne
    | _ :: _ :: _ => exact Nat.succ_lt_succ (Nat.succ_pos _)

end Node

/-- The first of the nodes that reads one field only, and its field. -/
def FirstReader (path : List Node) (code : String) : Prop :=
  ∃ before n after, path = before ++ n :: after ∧ n.ReadsOnly code ∧
    ∀ m ∈ before, ∀ c, ¬ m.ReadsOnly c

theorem firstReader_iff {path : List Node} {code : String} :
    FirstReader path code ↔ path.findSome? Node.fanOutField? = some code := by
  rw [List.findSome?_eq_some_iff]
  refine exists_congr fun before => exists_congr fun n => exists_congr fun after => ?_
  simp only [Node.fanOutField?_iff_readsOnly, Option.eq_none_iff_forall_ne_some, ne_eq]

/-! ### Trails -/

/-- The way to a node: its key, and the nodes around it with theirs, the nearest first. -/
structure Trail where
  key : String
  node : Node
  around : List (String × Node)

/-- What is known of a place below some nodes. -/
def scopeIn : (around : List (String × Node)) → (key : String) → Scope
  | [], _ => .root
  | (k, parent) :: around, key => (scopeIn around k).below parent key

theorem scopeIn_cons (key : String) (n : Node) (around : List (String × Node)) :
    scopeIn ((key, n) :: around) = (scopeIn around key).below n := rfl

namespace Trail

/-- What is known of the place of the node. -/
def scope (t : Trail) : Scope := scopeIn t.around t.key

/-- The node and the nodes around it, with their keys. -/
def levels (t : Trail) : List (String × Node) := (t.key, t.node) :: t.around

/-- The nodes on the way, from the root down. -/
def path (t : Trail) : List Node := (t.around.map Prod.snd).reverse ++ [t.node]

/-- The field of the first node on the way that reads one field only. -/
def field? (t : Trail) : Option String := t.path.findSome? Node.fanOutField?

end Trail

theorem scopeIn_enclosing (around : List (String × Node)) (key : String) :
    (scopeIn around key).enclosing = around.filterMap fun a => a.2.table := by
  induction around generalizing key with
  | nil => rfl
  | cons a around ih =>
    obtain ⟨k, parent⟩ := a
    rw [scopeIn, Scope.below, ih, List.filterMap_cons]
    cases parent.table <;> rfl

theorem findSome?_append_singleton {α β : Type} (f : α → Option β) (before : List α) (x : α) :
    (before ++ [x]).findSome? f = (before.findSome? f <|> f x) := by
  rw [List.findSome?_append, Option.orElse_eq_orElse, Option.orElse_eq_or, List.findSome?_cons]
  cases f x <;> rfl

theorem scopeIn_field (around : List (String × Node)) (key : String) :
    (scopeIn around key).field =
      (around.map Prod.snd).reverse.findSome? Node.fanOutField? := by
  induction around generalizing key with
  | nil => rfl
  | cons a around ih =>
    obtain ⟨k, parent⟩ := a
    rw [scopeIn, Scope.below, ih, List.map_cons, List.reverse_cons, findSome?_append_singleton]

theorem Trail.path_eq (t : Trail) : t.path = (t.levels.map Prod.snd).reverse := by
  simp [path, levels]

/-- A node that settles the field of its trail settles it for all trails through the node. -/
theorem Trail.field?_of_suffix {t outer : Trail} {code : String} (h : outer.levels <:+ t.levels)
    (houter : outer.field? = some code) : t.field? = some code := by
  rw [field?, path_eq] at houter ⊢
  have hprefix : (outer.levels.map Prod.snd).reverse <+: (t.levels.map Prod.snd).reverse :=
    List.reverse_prefix.2 (h.map Prod.snd)
  exact hprefix.findSome?_eq_some houter

theorem Trail.field?_eq (t : Trail) : t.field? = (t.scope.field <|> t.node.fanOutField?) := by
  rw [field?, path, findSome?_append_singleton, scope, scopeIn_field]

namespace Node

mutual

/-- The trails of a tree below some nodes, each node before those below it. -/
def trails (around : List (String × Node)) (key : String) : Node → List Trail
  | ⟨name, table, bindings, children, conflicts⟩ =>
    let n : Node := ⟨name, table, bindings, children, conflicts⟩
    ⟨key, n, around⟩ :: trailsBelow ((key, n) :: around) children

/-- The same for the trees below a node. -/
def trailsBelow (around : List (String × Node)) : List (String × Node) → List Trail
  | [] => []
  | (key, n) :: rest => trails around key n ++ trailsBelow around rest

end

theorem trails_eq {around : List (String × Node)} {key : String} (n : Node) :
    n.trails around key = ⟨key, n, around⟩ :: trailsBelow ((key, n) :: around) n.children := by
  cases n
  rw [trails]

mutual

/-- The trails of a tree lead through its root. -/
theorem suffix_of_mem_trails {around : List (String × Node)} {key : String} {t : Trail} :
    (n : Node) → t ∈ n.trails around key → (key, n) :: around <:+ t.levels
  | ⟨name, table, bindings, children, conflicts⟩, ht => by
    rw [trails] at ht
    rcases List.mem_cons.1 ht with rfl | ht
    · exact List.suffix_rfl
    · obtain ⟨child, -, hchild⟩ := suffix_of_mem_trailsBelow children ht
      exact (List.suffix_cons child _).trans hchild

theorem suffix_of_mem_trailsBelow {around : List (String × Node)} {t : Trail} :
    (children : List (String × Node)) → t ∈ trailsBelow around children →
      ∃ child ∈ children, child :: around <:+ t.levels
  | [], ht => by
    rw [trailsBelow] at ht
    cases ht
  | (key, n) :: rest, ht => by
    rw [trailsBelow] at ht
    rcases List.mem_append.1 ht with ht | ht
    · exact ⟨(key, n), List.mem_cons_self, suffix_of_mem_trails n ht⟩
    · obtain ⟨child, hmem, hchild⟩ := suffix_of_mem_trailsBelow rest ht
      exact ⟨child, List.mem_cons_of_mem _ hmem, hchild⟩

end

theorem around_of_mem_trailsBelow {around : List (String × Node)} {t : Trail}
    (children : List (String × Node)) (ht : t ∈ trailsBelow around children) :
    ∀ a ∈ around, a ∈ t.around := by
  intro a ha
  obtain ⟨child, -, hchild⟩ := suffix_of_mem_trailsBelow children ht
  rcases List.suffix_cons_iff.1 hchild with heq | hsuffix
  · rw [← (List.cons.inj heq).2]
    exact ha
  · exact hsuffix.subset (List.mem_cons_of_mem _ ha)

/-! ### The check -/

mutual

/-- **The fault of a tree** is the first of the faults of its nodes, each where it stands. -/
theorem fault?_eq_findSome? {c : Config} {around : List (String × Node)} {key : String} :
    (n : Node) → n.fault? c (scopeIn around key) =
      (n.trails around key).findSome? fun t => t.node.ownFault? c t.scope
  | ⟨name, table, bindings, children, conflicts⟩ => by
    have hbelow : childrenFault? c
        (scopeIn ((key, ⟨name, table, bindings, children, conflicts⟩) :: around)) children = _ :=
      childrenFault?_eq_findSome? children
    rw [scopeIn_cons] at hbelow
    rw [fault?, trails, List.findSome?_cons, hbelow, Trail.scope]
    cases ownFault? c (scopeIn around key) ⟨name, table, bindings, children, conflicts⟩ <;> rfl

theorem childrenFault?_eq_findSome? {c : Config} {around : List (String × Node)} :
    (children : List (String × Node)) → childrenFault? c (scopeIn around) children =
      (trailsBelow around children).findSome? fun t => t.node.ownFault? c t.scope
  | [] => by
    rw [childrenFault?, trailsBelow]
    rfl
  | (key, n) :: rest => by
    rw [childrenFault?, trailsBelow, List.findSome?_append, fault?_eq_findSome? n,
      childrenFault?_eq_findSome? rest]
    cases (n.trails around key).findSome? fun t => t.node.ownFault? c t.scope <;> rfl

end

/-- In a tree without a fault no node has one, where it stands. -/
theorem ownFault?_of_fault? {c : Config} {around : List (String × Node)} {key : String} (n : Node)
    (h : n.fault? c (scopeIn around key) = none) :
    ∀ t ∈ n.trails around key, t.node.ownFault? c t.scope = none := by
  rw [fault?_eq_findSome?] at h
  exact List.findSome?_eq_none_iff.1 h

theorem map_filter_cons {α β : Type} (p : α → Bool) (f : α → β) (x : α) (xs : List α) :
    ((x :: xs).filter p).map f = (if p x then [f x] else []) ++ (xs.filter p).map f := by
  rw [List.filter_cons]
  cases p x <;> rfl

mutual

theorem readersAcross_eq (around : List (String × Node)) (key : String) :
    (n : Node) → n.readersAcross (scopeIn around key) =
      ((n.trails around key).filter fun t => t.node.readsAcross t.scope).map (·.scope.path)
  | ⟨name, table, bindings, children, conflicts⟩ => by
    have hbelow := childReaders_eq
      ((key, ⟨name, table, bindings, children, conflicts⟩) :: around) children
    rw [scopeIn_cons] at hbelow
    rw [readersAcross, trails, map_filter_cons, hbelow]
    rfl

theorem childReaders_eq (around : List (String × Node)) :
    (children : List (String × Node)) → childReaders (scopeIn around) children =
      ((trailsBelow around children).filter fun t => t.node.readsAcross t.scope).map (·.scope.path)
  | [] => by
    rw [childReaders, trailsBelow]
    rfl
  | (_, n) :: rest => by
    rw [childReaders, trailsBelow, List.filter_append, List.map_append,
      readersAcross_eq around _ n, childReaders_eq around rest]

end

/-- The trails of the nodes below the root that read several fields of a whole record. -/
def warned (root : Node) : List Trail :=
  (trailsBelow [(rootName, root)] root.children).filter fun t => t.node.readsAcross t.scope

theorem warnings_eq_warned (root : Node) :
    root.warnings = root.warned.map fun t => t.scope.path :=
  childReaders_eq [(rootName, root)] root.children

theorem readsAcross_iff (t : Trail) :
    t.node.readsAcross t.scope ↔ t.field? = none ∧ t.node.ReadsSeveral := by
  rw [readsAcross, Bool.and_eq_true, decide_eq_true_eq, one_lt_fieldCodes_iff, t.field?_eq]
  refine and_congr_left fun hseveral => ?_
  -- a node that reads several fields is not the one that settles the field
  have hown : t.node.fanOutField? = none := by
    refine Option.eq_none_iff_forall_ne_some.2 fun code hcode => ?_
    obtain ⟨c, d, hc, hd, hne⟩ := hseveral
    obtain ⟨-, hsole⟩ := fanOutField?_iff_readsOnly.1 hcode
    exact hne ((hsole c hc).trans (hsole d hd).symm)
  rw [hown]
  cases t.scope.field <;> simp

theorem warned_subset (root : Node) : root.warned ⊆ root.trails [] rootName := by
  rw [trails_eq]
  exact fun t ht => List.mem_cons_of_mem _ (List.mem_filter.1 ht).1

/-- **The nodes that are warned of** are those that are not the root, read several fields, and have
no node on their way that reads one field only. -/
theorem mem_warned {root : Node} {t : Trail} (ht : t ∈ root.trails [] rootName) :
    t ∈ root.warned ↔ t.around ≠ [] ∧ t.field? = none ∧ t.node.ReadsSeveral := by
  rw [warned, List.mem_filter, readsAcross_iff]
  refine and_congr_left fun _ => ?_
  rw [trails_eq] at ht
  constructor
  · intro hbelow haround
    have hroot := around_of_mem_trailsBelow root.children hbelow _ List.mem_cons_self
    rw [haround] at hroot
    cases hroot
  · intro haround
    rcases List.mem_cons.1 ht with rfl | hbelow
    · exact absurd rfl haround
    · exact hbelow

section Checked

variable {c : Config} {s : Scope} {n : Node} {b : String × Source}

theorem bindingFault?_of_ownFault? (h : n.ownFault? c s = none) (hb : b ∈ n.bindings) :
    bindingFault? c s b = none := by
  rw [ownFault?] at h
  split at h
  · cases h
  · exact List.findSome?_eq_none_iff.1 h b hb

/-- A tag names the field to whose occurrences the node is applied. -/
theorem field_of_ownFault? {tag : Tag} {field : String} (h : n.ownFault? c s = none)
    (hb : b ∈ n.bindings) (htag : b.2 = .tag tag) (hfield : s.field = some field) :
    tag.field = field := by
  have hbinding := bindingFault?_of_ownFault? h hb
  obtain ⟨column, source⟩ := b
  obtain rfl : source = .tag tag := htag
  simp only [bindingFault?, hfield] at hbinding
  split at hbinding
  · next heq => exact heq.symm
  · cases hbinding

/-- A reference names the table of a node around. -/
theorem enclosing_of_ownFault? {table : String} {column : Option String}
    (h : n.ownFault? c s = none) (hb : b ∈ n.bindings) (hkey : b.2 = .foreignKey table column) :
    table ∈ s.enclosing := by
  have hbinding := bindingFault?_of_ownFault? h hb
  obtain ⟨bound, source⟩ := b
  obtain rfl : source = .foreignKey table column := hkey
  simp only [bindingFault?] at hbinding
  split at hbinding
  · next hmem => exact List.contains_iff_mem.1 hmem
  · cases hbinding

end Checked

end Node

end Accession.Mapping
