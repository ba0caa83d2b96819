import Mathlib.Logic.Relation
import Accession.Mapping.Document
import Accession.Proofs.Mapping.Drafts
import Accession.Proofs.Text.Pieces

/-!
# Mappings as they are followed

A mapping is read to the tree that one builds by following its entries: a binding for each key that
names a column, and a node below for each that opens one, in the order of the entries and to any
depth.  It is refused if two keys of one level name different tables or the same column.

* `Names`, `Opens` : what a key says.
* `Follows` : a draft has one step for each entry, and so have the drafts below it.
* `Within` : a mapping stands in another, at any depth; `Agreeing` : the keys of each level agree on
  a table, and no column is bound twice.
* `Draft.Clear` : the same, said of a draft (`Follows.clear_iff`).
* `Node.ofEntries_eq_ok_iff_follows` : reading against following.
-/

namespace Accession.Mapping

/-! ### Keys -/

/-- The key starts with the mark of a child, which it names. -/
def Opens (c : Config) (key : Yaml) (child : String) : Prop :=
  key.asText? = some (c.childMark ++ child) ∧ child ≠ ""

/-- The key does not start with the mark of a child, and is a table and a column around the
delimiter; `isDeferred` says whether the mark of deferred columns stands before them. -/
inductive Names (c : Config) (key : Yaml) : (isDeferred : Bool) → (table column : String) → Prop
  | plain {text table column : String} (htext : key.asText? = some text)
      (hchild : ¬ c.childMark.toList <+: text.toList)
      (hplain : ¬ c.deferredMark.toList <+: text.toList)
      (hsplit : Text.split c.tableDelimiter text = [table, column])
      (htable : table ≠ "") (hcolumn : column ≠ "") : Names c key false table column
  | deferred {text table column : String} (htext : key.asText? = some (c.deferredMark ++ text))
      (hchild : ¬ c.childMark.toList <+: (c.deferredMark ++ text).toList)
      (hsplit : Text.split c.tableDelimiter text = [table, column])
      (htable : table ≠ "") (hcolumn : column ≠ "") : Names c key true table column

/-- The source of a column: that of a deferred one is not read from its value. -/
inductive Gives (c : Config) (value : Yaml) : (isDeferred : Bool) → Source → Prop
  | deferred : Gives c value true .deferred
  | read {source : Source} (h : Source.ofYaml c value = .ok source) : Gives c value false source

section Keys

variable {c : Config} {key value : Yaml} {text table column child path : String}
  {isDeferred : Bool} {source : Source}

theorem splitKey?_eq_some_iff : splitKey? c text = some (table, column) ↔
    Text.split c.tableDelimiter text = [table, column] ∧ table ≠ "" ∧ column ≠ "" := by
  rw [splitKey?]
  split
  · next t k hsplit =>
    rw [hsplit]
    by_cases h : t = "" ∨ k = ""
    · rw [if_pos h]
      refine iff_of_false (Option.some_ne_none _).symm ?_
      rintro ⟨hcons, htable, hcolumn⟩
      cases hcons
      exact h.elim htable hcolumn
    · rw [if_neg h]
      rw [not_or] at h
      constructor
      · rintro hsome
        cases hsome
        exact ⟨rfl, h⟩
      · rintro ⟨hcons, -⟩
        cases hcons
        rfl
  · next hother => exact iff_of_false (Option.some_ne_none _).symm fun h => hother _ _ h.1

theorem names_iff (htext : key.asText? = some text) (hchild : Text.after? c.childMark text = none) :
    Names c key isDeferred table column ↔
      ∃ name, bindingKey c text = (isDeferred, name) ∧ splitKey? c name = some (table, column) := by
  rw [Text.after?_eq_none_iff] at hchild
  simp only [splitKey?_eq_some_iff]
  constructor
  · rintro (⟨htext', -, hplain, hsplit, htable, hcolumn⟩ | ⟨htext', -, hsplit, htable, hcolumn⟩)
    · cases htext.symm.trans htext'
      refine ⟨text, ?_, hsplit, htable, hcolumn⟩
      rw [bindingKey, Text.after?_eq_none_iff.2 hplain]
    · cases htext.symm.trans htext'
      refine ⟨_, ?_, hsplit, htable, hcolumn⟩
      rw [bindingKey, Text.after?_append]
  · rintro ⟨name, hkey, hsplit, htable, hcolumn⟩
    rw [bindingKey] at hkey
    split at hkey
    · next rest hrest =>
      cases hkey
      obtain rfl := Text.after?_eq_some_iff.1 hrest
      exact .deferred htext hchild hsplit htable hcolumn
    · next hrest =>
      cases hkey
      exact .plain htext hchild (Text.after?_eq_none_iff.1 hrest) hsplit htable hcolumn

theorem Names.exists_text (h : Names c key isDeferred table column) :
    ∃ text, key.asText? = some text ∧ Text.after? c.childMark text = none := by
  cases h with
  | plain htext hchild => exact ⟨_, htext, Text.after?_eq_none_iff.2 hchild⟩
  | deferred htext hchild => exact ⟨_, htext, Text.after?_eq_none_iff.2 hchild⟩

/-- A key names at most one column. -/
theorem Names.unique {isDeferred' : Bool} {table' column' : String}
    (h : Names c key isDeferred table column) (h' : Names c key isDeferred' table' column') :
    table = table' ∧ column = column' := by
  obtain ⟨text, htext, hchild⟩ := h.exists_text
  obtain ⟨name, hkey, hsplit⟩ := (names_iff htext hchild).1 h
  obtain ⟨name', hkey', hsplit'⟩ := (names_iff htext hchild).1 h'
  cases hkey.symm.trans hkey'
  cases hsplit.symm.trans hsplit'
  exact ⟨rfl, rfl⟩

/-- A key that names a column opens nothing. -/
theorem Names.not_opens (h : Names c key isDeferred table column) : ¬ Opens c key child := by
  rintro ⟨htext', -⟩
  obtain ⟨text, htext, hchild⟩ := h.exists_text
  cases htext.symm.trans htext'
  rw [Text.after?_append] at hchild
  cases hchild

theorem readSource_eq_ok_iff :
    readSource c path text isDeferred value = .ok source ↔ Gives c value isDeferred source := by
  cases isDeferred with
  | true =>
    constructor
    · rintro ⟨⟩
      exact .deferred
    · rintro ⟨⟩
      rfl
  | false =>
    rw [readSource, if_neg Bool.false_ne_true]
    constructor
    · intro h
      split at h
      · next source' hsource =>
        cases h
        exact .read hsource
      · cases h
    · rintro (_ | h)
      rw [h]

end Keys

/-! ### Steps -/

theorem Node.bindings_withBinding {n : Node} {table column : String} {source : Source}
    (h : ∀ t, n.table = some t → t = table) :
    (n.withBinding table column source).bindings = n.bindings.insert column source := by
  rw [withBinding]
  split
  · rfl
  · next t ht => rw [if_pos (h t ht)]

/-- A node takes a binding that is for its table, if it has one, and for a new column. -/
theorem Node.bind_eq_ok_iff {n n' : Node} {path key table column : String} {source : Source} :
    n.bind path key table column source = .ok n' ↔ (∀ t, n.table = some t → t = table) ∧
      column ∉ Dict.keys n.bindings ∧ n' = n.withBinding table column source := by
  rw [← Dict.contains_iff_mem_keys, bind]
  cases htable : n.table with
  | none => by_cases hcolumn : n.bindings.contains column <;> simp [hcolumn, eq_comm]
  | some t =>
    by_cases ht : t = table
    · by_cases hcolumn : n.bindings.contains column <;> simp [ht, hcolumn, eq_comm]
    · simp [ht]

namespace Draft

/-- The columns that are bound at the root, with their sources, in the order of the steps. -/
def bound : Draft → List (String × Source)
  | new _ => []
  | withBinding d _ column source => d.bound ++ [(column, source)]
  | withChild d _ _ => d.bound

/-- The drafts that are put below the root, with their keys, in the order of the steps. -/
def placed : Draft → List (String × Draft)
  | new _ => []
  | withBinding d _ _ _ => d.placed
  | withChild d key child => d.placed ++ [(key, child)]

/-- The columns of the draft are of this table, and this column is not among them. -/
def Takes (d : Draft) (table column : String) : Prop :=
  ∀ b ∈ d.named, b.1 = table ∧ b.2 ≠ column

/-- The bindings at the root of the draft, and at the roots of those below, are of one table, and
no column is bound twice. -/
def Clear : Draft → Prop
  | new _ => True
  | withBinding d table column _ => d.Clear ∧ d.Takes table column
  | withChild d _ child => d.Clear ∧ child.Clear

variable {d : Draft} {n : Node} {table column path key : String} {source : Source}

theorem keys_bound (d : Draft) : Dict.keys d.bound = d.named.map Prod.snd := by
  induction d with
  | new name => rfl
  | withBinding d table column source ih =>
    change (d.bound ++ [(column, source)]).map Prod.fst =
      (d.named ++ [(table, column)]).map Prod.snd
    rw [List.map_append, List.map_append]
    exact congrArg (· ++ [column]) ih
  | withChild d key child ih => exact ih

theorem Clear.oneTable (h : d.Clear) : ∀ a ∈ d.named, ∀ b ∈ d.named, a.1 = b.1 := by
  induction d with
  | new name => simp [named]
  | withBinding d table column source ih =>
    have htable : ∀ a ∈ d.named ++ [(table, column)], a.1 = table := by
      intro a ha
      rcases List.mem_append.1 ha with ha | ha
      · exact (h.2 a ha).1
      · rw [List.mem_singleton.1 ha]
    exact fun a ha b hb => (htable a ha).trans (htable b hb).symm
  | withChild d key child ih => exact ih h.1

/-- All columns of a clear draft are of the table of its tree. -/
theorem Clear.table_node (h : d.Clear) {b : String × String} (hb : b ∈ d.named) :
    d.node.table = some b.1 := by
  rw [Draft.table_node]
  cases hnamed : d.named with
  | nil =>
    rw [hnamed] at hb
    cases hb
  | cons a rest =>
    have ha : a ∈ d.named := by simp [hnamed]
    exact congrArg some (h.oneTable a ha b hb)

theorem Clear.conflicts (h : d.Clear) : d.node.conflicts = [] := by
  rw [conflicts_node, List.map_eq_nil_iff, List.filter_eq_nil_iff]
  intro b hb
  simp [h.table_node hb]

theorem table_of_takes (h : d.Takes table column) {t : String} (ht : d.node.table = some t) :
    t = table := by
  rw [Draft.table_node, Option.map_eq_some_iff] at ht
  obtain ⟨b, hb, rfl⟩ := ht
  exact (h b (List.mem_of_mem_head? hb)).1

/-- A clear draft loses no binding. -/
theorem Clear.bindings (h : d.Clear) : d.node.bindings = d.bound := by
  induction d with
  | new name => rfl
  | withBinding d table column source ih =>
    obtain ⟨hclear, htakes⟩ := h
    have hnew : column ∉ Dict.keys d.node.bindings := by
      rw [ih hclear, keys_bound, List.mem_map]
      rintro ⟨b, hb, hcolumn⟩
      exact (htakes b hb).2 hcolumn
    rw [node, Node.bindings_withBinding fun t => table_of_takes htakes, Dict.insert_of_not_mem hnew,
      ih hclear, bound]
  | withChild d key child ih => exact ih h.1

/-- A binding is taken if it is for the table of the others, and its column is not bound. -/
theorem Clear.takes_iff (h : d.Clear) : d.Takes table column ↔
    (∀ t, d.node.table = some t → t = table) ∧ column ∉ Dict.keys d.node.bindings := by
  rw [h.bindings, keys_bound, List.mem_map]
  constructor
  · refine fun htakes => ⟨fun t => table_of_takes htakes, ?_⟩
    rintro ⟨b, hb, hcolumn⟩
    exact (htakes b hb).2 hcolumn
  · rintro ⟨htable, hnew⟩ b hb
    exact ⟨htable b.1 (h.table_node hb), fun hcolumn => hnew ⟨b, hb, hcolumn⟩⟩

theorem children_node (d : Draft) :
    d.node.children = Dict.ofEntries (d.placed.map fun p => (p.1, p.2.node)) := by
  induction d with
  | new name => rfl
  | withBinding d table column source ih => exact (Node.children_withBinding ..).trans ih
  | withChild d key child ih =>
    rw [placed, List.map_append, List.map_singleton, Dict.ofEntries_append, ← ih]
    rfl

theorem Clear.bind_eq_ok_iff (h : d.Clear) :
    d.node.bind path key table column source = .ok n ↔
      d.Takes table column ∧ n = (d.withBinding table column source).node := by
  rw [Node.bind_eq_ok_iff, h.takes_iff, and_assoc, node]

end Draft

/-! ### Levels -/

/-- The mapping is the value of an entry of the other that opens a child. -/
def Under (c : Config) (outer below : List (Yaml × Yaml)) : Prop :=
  ∃ key value child, (key, value) ∈ outer ∧ Opens c key child ∧ value.untagged = .mapping below

/-- The mapping is a level of the other: that itself, or one that stands in it at any depth. -/
def Within (c : Config) : (entries level : List (Yaml × Yaml)) → Prop :=
  Relation.ReflTransGen (Under c)

/-- If the keys of both entries name columns, these are different ones of one table. -/
def Agree (c : Config) (a b : Yaml × Yaml) : Prop :=
  ∀ isDeferred table column, Names c a.1 isDeferred table column →
    ∀ isDeferred' table' column', Names c b.1 isDeferred' table' column' →
      table = table' ∧ column ≠ column'

/-- The entries of every level agree. -/
def Agreeing (c : Config) (entries : List (Yaml × Yaml)) : Prop :=
  ∀ level, Within c entries level → level.Pairwise (Agree c)

/-- The draft has one step for each entry, in order: a binding for a key that names a column, and
for one that opens a child a draft that follows the mapping below. -/
inductive Follows (c : Config) : (name : String) → List (Yaml × Yaml) → Draft → Prop
  | new (name : String) : Follows c name [] (.new name)
  | binding {name table column : String} {entries : List (Yaml × Yaml)} {d : Draft}
      {key value : Yaml} {isDeferred : Bool} {source : Source} (h : Follows c name entries d)
      (hkey : Names c key isDeferred table column) (hsource : Gives c value isDeferred source) :
      Follows c name (entries ++ [(key, value)]) (d.withBinding table column source)
  | child {name child : String} {entries below : List (Yaml × Yaml)} {d inner : Draft}
      {key value : Yaml} (h : Follows c name entries d) (hkey : Opens c key child)
      (hvalue : value.untagged = .mapping below) (hbelow : Follows c child below inner) :
      Follows c name (entries ++ [(key, value)]) (d.withChild child inner)

section Levels

variable {c : Config} {name path : String} {entries below : List (Yaml × Yaml)}
  {e : Yaml × Yaml} {d : Draft} {n : Node}

theorem agreeing_iff : Agreeing c entries ↔
    entries.Pairwise (Agree c) ∧ ∀ below, Under c entries below → Agreeing c below := by
  constructor
  · intro h
    exact ⟨h entries .refl, fun below hunder level hlevel => h level (hlevel.head hunder)⟩
  · rintro ⟨hentries, hbelow⟩ level hlevel
    rcases hlevel.cases_head with rfl | ⟨below, hunder, hlevel⟩
    · exact hentries
    · exact hbelow below hunder level hlevel

theorem under_append :
    Under c (entries ++ [e]) below ↔ Under c entries below ∨ Under c [e] below := by
  simp only [Under, List.mem_append, or_and_right, exists_or]

theorem agreeing_append : Agreeing c (entries ++ [e]) ↔
    Agreeing c entries ∧ (∀ a ∈ entries, Agree c a e) ∧
      ∀ below, Under c [e] below → Agreeing c below := by
  rw [agreeing_iff, agreeing_iff, List.pairwise_append]
  simp only [under_append, List.mem_singleton, forall_eq, List.pairwise_singleton, or_imp,
    forall_and, true_and]
  tauto

/-- An entry that names a column has no level below. -/
theorem not_under_of_names {key value : Yaml} {isDeferred : Bool} {table column : String}
    (h : Names c key isDeferred table column) : ¬ Under c [(key, value)] below := by
  rintro ⟨key', value', child, hmem, hopens, -⟩
  cases List.mem_singleton.1 hmem
  exact h.not_opens hopens

/-- An entry that opens a child has one level below. -/
theorem under_of_opens {key value : Yaml} {child : String} {level : List (Yaml × Yaml)}
    (h : Opens c key child) (hvalue : value.untagged = .mapping below) :
    Under c [(key, value)] level ↔ level = below := by
  constructor
  · rintro ⟨key', value', child', hmem, -, hvalue'⟩
    cases List.mem_singleton.1 hmem
    cases hvalue.symm.trans hvalue'
    rfl
  · rintro rfl
    exact ⟨key, value, child, List.mem_singleton_self _, h, hvalue⟩

namespace Follows

theorem mem_named_iff {b : String × String} (h : Follows c name entries d) :
    b ∈ d.named ↔ ∃ e ∈ entries, ∃ isDeferred, Names c e.1 isDeferred b.1 b.2 := by
  induction h with
  | new name => simp [Draft.named]
  | binding h hkey hsource ih =>
    simp only [Draft.named, List.mem_append, ih, or_and_right, exists_or, List.mem_singleton,
      exists_eq_left]
    refine or_congr_right ⟨?_, ?_⟩
    · rintro rfl
      exact ⟨_, hkey⟩
    · rintro ⟨isDeferred, hnames⟩
      exact Prod.ext (hnames.unique hkey).1 (hnames.unique hkey).2
  | @child name child entries below d inner key value h hkey hvalue hbelow ih ih' =>
    have hnone : ¬ ∃ isDeferred, Names c key isDeferred b.1 b.2 := by
      rintro ⟨isDeferred, hnames⟩
      exact hnames.not_opens hkey
    simp only [Draft.named, ih, List.mem_append, or_and_right, exists_or, List.mem_singleton,
      exists_eq_left]
    exact (or_iff_left hnone).symm

/-- A draft that follows entries is clear just if the entries of every level agree. -/
theorem clear_iff (h : Follows c name entries d) : d.Clear ↔ Agreeing c entries := by
  induction h with
  | new name =>
    refine iff_of_true trivial (agreeing_iff.2 ⟨.nil, ?_⟩)
    rintro below ⟨key, value, child, hmem, -⟩
    cases hmem
  | @binding name table column entries d key value isDeferred source h hkey hsource ih =>
    rw [Draft.Clear, agreeing_append, ih]
    refine and_congr_right fun _ => ?_
    rw [and_iff_left fun below hunder => absurd hunder (not_under_of_names hkey)]
    constructor
    · intro htakes a ha i t k hnames j t' k' hnames'
      obtain ⟨htable, hcolumn⟩ := htakes (t, k) (h.mem_named_iff.2 ⟨a, ha, i, hnames⟩)
      obtain ⟨rfl, rfl⟩ := hkey.unique hnames'
      exact ⟨htable, hcolumn⟩
    · intro hagree b hb
      obtain ⟨a, ha, i, hnames⟩ := h.mem_named_iff.1 hb
      exact hagree a ha i b.1 b.2 hnames _ _ _ hkey
  | @child name child entries below d inner key value h hkey hvalue hbelow ih ih' =>
    rw [Draft.Clear, agreeing_append, ih, ih']
    refine and_congr_right fun _ => ?_
    have hagree : ∀ a ∈ entries, Agree c a (key, value) :=
      fun _ _ _ _ _ _ _ _ _ hnames => absurd hkey hnames.not_opens
    rw [and_iff_right hagree]
    simp only [under_of_opens hkey hvalue, forall_eq]

end Follows

end Levels

/-! ### Reading -/

namespace Node

section Reading

variable {c : Config} {name path : String} {done entries below : List (Yaml × Yaml)}
  {key value : Yaml} {d : Draft} {n : Node}

theorem readEntries_append (xs ys : List (Yaml × Yaml)) (n : Node) :
    readEntries c path (xs ++ ys) n = (readEntries c path xs n).bind (readEntries c path ys) := by
  induction xs generalizing n with
  | nil =>
    rw [List.nil_append, readEntries]
    rfl
  | cons e xs ih =>
    obtain ⟨key, value⟩ := e
    rw [List.cons_append, readEntries, readEntries]
    cases key.asText? with
    | none => rfl
    | some text =>
      dsimp only
      cases Text.after? c.childMark text with
      | none =>
        dsimp only
        cases readBinding c path text value n with
        | error e => rfl
        | ok n' => exact ih n'
      | some child =>
        dsimp only
        by_cases hchild : child = ""
        · rw [if_pos hchild, if_pos hchild]
          rfl
        · rw [if_neg hchild, if_neg hchild]
          rcases ofYaml? c child (childPath path child) value with _ | (e | n')
          · rfl
          · rfl
          · exact ih _

theorem ofYaml?_of_untagged (hvalue : value.untagged = .mapping below) :
    ofYaml? c name path value = some (ofEntries c name path below) := by
  induction value using Yaml.untagged.induct with
  | case1 tag v ih =>
    rw [ofYaml?]
    exact ih hvalue
  | case2 v h =>
    rw [Yaml.untagged] at hvalue
    · subst hvalue
      rw [ofYaml?, ofEntries]
    · exact h

/-- A clear draft takes a binding where the reader does. -/
theorem readBinding_eq_ok_iff {text : String} (hd : d.Clear) (htext : key.asText? = some text)
    (hchild : Text.after? c.childMark text = none) :
    d.node.readBinding c path text value = .ok n ↔
      ∃ isDeferred table column source, Names c key isDeferred table column ∧
        Gives c value isDeferred source ∧ d.Takes table column ∧
        n = (d.withBinding table column source).node := by
  constructor
  · intro h
    rw [readBinding] at h
    dsimp only at h
    split at h
    · cases h
    · next table column hsplit =>
      split at h
      · cases h
      · next source hsource =>
        obtain ⟨htakes, hn⟩ := hd.bind_eq_ok_iff.1 h
        exact ⟨_, table, column, source, (names_iff htext hchild).2 ⟨_, rfl, hsplit⟩,
          readSource_eq_ok_iff.1 hsource, htakes, hn⟩
  · rintro ⟨isDeferred, table, column, source, hkey, hsource, htakes, hn⟩
    obtain ⟨name, hname, hsplit⟩ := (names_iff htext hchild).1 hkey
    rw [readBinding, hname]
    dsimp only
    rw [hsplit]
    dsimp only
    rw [readSource_eq_ok_iff.2 hsource]
    exact hd.bind_eq_ok_iff.2 ⟨htakes, hn⟩

theorem readEntries_binding {isDeferred : Bool} {table column : String} {source : Source}
    (hd : d.Clear) (hkey : Names c key isDeferred table column)
    (hsource : Gives c value isDeferred source) (htakes : d.Takes table column) :
    readEntries c path [(key, value)] d.node = .ok (d.withBinding table column source).node := by
  obtain ⟨text, htext, hchild⟩ := hkey.exists_text
  have hread : readBinding c path text value d.node = .ok _ :=
    (readBinding_eq_ok_iff hd htext hchild).2
      ⟨isDeferred, table, column, source, hkey, hsource, htakes, rfl⟩
  rw [readEntries]
  simp only [htext, hchild, hread]
  rw [readEntries]

theorem readEntries_child {child : String} {read : Node} (hkey : Opens c key child)
    (hvalue : value.untagged = .mapping below)
    (hread : ofEntries c child (childPath path child) below = .ok read) :
    readEntries c path [(key, value)] n = .ok (n.withChild child read) := by
  obtain ⟨htext, hchild⟩ := hkey
  rw [readEntries]
  simp only [htext, Text.after?_append, if_neg hchild, ofYaml?_of_untagged hvalue, hread]
  rw [readEntries]

mutual

theorem follows_of_ofYaml? {name path : String} {n : Node} :
    (value : Yaml) → ofYaml? c name path value = some (.ok n) →
      ∃ below d, value.untagged = .mapping below ∧ Follows c name below d ∧ d.Clear ∧ n = d.node
  | .mapping entries, h => by
    rw [ofYaml?] at h
    obtain ⟨d, hfollows, hclear, hn⟩ :=
      follows_of_readEntries (.new name) trivial entries (Option.some.inj h)
    exact ⟨entries, d, rfl, hfollows, hclear, hn⟩
  | .tagged _ value, h => by
    rw [ofYaml?] at h
    exact follows_of_ofYaml? value h
  | .null, h | .bool _, h | .integer _, h | .float _, h | .text _, h | .sequence _, h => by
    simp [ofYaml?] at h

/-- What is read after the entries that a clear draft follows, a longer one follows. -/
theorem follows_of_readEntries {name path : String} {done : List (Yaml × Yaml)} {d : Draft}
    {n : Node} (hd : Follows c name done d) (hclear : d.Clear) :
    (entries : List (Yaml × Yaml)) → readEntries c path entries d.node = .ok n →
      ∃ d', Follows c name (done ++ entries) d' ∧ d'.Clear ∧ n = d'.node
  | [], h => by
    rw [readEntries] at h
    cases h
    rw [List.append_nil]
    exact ⟨d, hd, hclear, rfl⟩
  | (key, value) :: rest, h => by
    rw [readEntries] at h
    rw [← List.singleton_append, ← List.append_assoc]
    split at h
    · cases h
    · next text htext =>
      split at h
      -- the entry opens a child, or names a column
      · next child hchild =>
        obtain rfl := Text.after?_eq_some_iff.1 hchild
        split at h
        · cases h
        · next hnamed =>
          split at h
          · cases h
          · cases h
          · next read hread =>
            obtain ⟨below, inner, hvalue, hbelow, hinner, rfl⟩ := follows_of_ofYaml? value hread
            exact follows_of_readEntries (hd.child ⟨htext, hnamed⟩ hvalue hbelow)
              ⟨hclear, hinner⟩ rest h
      · next hchild =>
        split at h
        · cases h
        · next bound hbound =>
          obtain ⟨isDeferred, table, column, source, hkey, hsource, htakes, rfl⟩ :=
            (readBinding_eq_ok_iff hclear htext hchild).1 hbound
          exact follows_of_readEntries (hd.binding hkey hsource) ⟨hclear, htakes⟩ rest h

end

/-- Entries that a clear draft follows are read to its tree. -/
theorem ofEntries_of_follows (h : Follows c name entries d) (hclear : d.Clear) (path : String) :
    ofEntries c name path entries = .ok d.node := by
  induction h generalizing path with
  | new name =>
    rw [ofEntries, readEntries]
    rfl
  | binding h hkey hsource ih =>
    rw [ofEntries, readEntries_append, ← ofEntries, ih hclear.1]
    exact readEntries_binding hclear.1 hkey hsource hclear.2
  | child h hkey hvalue hbelow ih ih' =>
    rw [ofEntries, readEntries_append, ← ofEntries, ih hclear.1]
    exact readEntries_child hkey hvalue (ih' hclear.2 _)

/-- **Reading is following.**  Entries are read to the tree of the draft that follows them, if those
of every level agree, and to no other. -/
theorem ofEntries_eq_ok_iff_follows : ofEntries c name path entries = .ok n ↔
    ∃ d, Follows c name entries d ∧ Agreeing c entries ∧ n = d.node := by
  constructor
  · intro h
    obtain ⟨d, hfollows, hclear, hn⟩ :=
      follows_of_readEntries (.new name) trivial entries h
    exact ⟨d, hfollows, hfollows.clear_iff.1 hclear, hn⟩
  · rintro ⟨d, hfollows, hagreeing, rfl⟩
    exact ofEntries_of_follows hfollows (hfollows.clear_iff.2 hagreeing) path

end Reading

end Node

end Accession.Mapping
