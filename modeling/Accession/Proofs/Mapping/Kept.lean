import Accession.Proofs.Mapping.Followed

/-!
# What a mapping says and what is kept of it

Two keys of a level that bind the same column are refused, but that two keys open the same child is
not looked at: the later one replaces the earlier.  Keys that are plain texts open the same child
only if they are the same key; keys with tags may be different and have the same text.

* `Apart` : two keys do not open the same child.
* `Faithful` : a node has all that its level says, but for children that were replaced.
* `Node.ofEntries_builds` : what is read, what is kept and what is refused.
-/

namespace Accession.Mapping

/-- No child is opened by both keys. -/
def Apart (c : Config) (a b : Yaml × Yaml) : Prop :=
  ∀ child, Opens c a.1 child → ¬ Opens c b.1 child

/-- The tree of a draft has what the entries of a level say: a source or a child for each, in their
order and all for one table.  A child that is opened twice is there once. -/
structure Faithful (c : Config) (level : List (Yaml × Yaml)) (d : Draft) : Prop where
  conflicts : d.node.conflicts = []
  table : ∀ e ∈ level, ∀ isDeferred table column, Names c e.1 isDeferred table column →
    d.node.table = some table
  steps : d.bound.length + d.placed.length = level.length
  bindings : d.node.bindings = d.bound
  children : d.node.children = Dict.ofEntries (d.placed.map fun p => (p.1, p.2.node))
  inOrder : level.Pairwise (Apart c) → d.node.children = d.placed.map fun p => (p.1, p.2.node)
  whole : d.node.bindings.length + d.node.children.length = level.length ↔
    level.Pairwise (Apart c)

variable {c : Config} {name path : String} {entries level below : List (Yaml × Yaml)} {d : Draft}

theorem Opens.unique {key : Yaml} {child child' : String} (h : Opens c key child)
    (h' : Opens c key child') : child = child' := by
  have htext := Text.after?_append c.childMark child
  rw [Option.some.inj (h.1.symm.trans h'.1), Text.after?_append] at htext
  exact (Option.some.inj htext).symm

namespace Follows

theorem steps (h : Follows c name entries d) :
    d.bound.length + d.placed.length = entries.length := by
  induction h with
  | new name => rfl
  | binding h hkey hsource ih =>
    simp only [Draft.bound, Draft.placed, List.length_append, List.length_singleton]
    omega
  | child h hkey hvalue hbelow ih ih' =>
    simp only [Draft.bound, Draft.placed, List.length_append, List.length_singleton]
    omega

theorem mem_placed_iff {child : String} (h : Follows c name entries d) :
    child ∈ d.placed.map Prod.fst ↔ ∃ e ∈ entries, Opens c e.1 child := by
  induction h with
  | new name => simp [Draft.placed]
  | binding h hkey hsource ih =>
    simp only [Draft.placed, ih, List.mem_append, or_and_right, exists_or, List.mem_singleton,
      exists_eq_left]
    exact (or_iff_left hkey.not_opens).symm
  | @child name opened entries below d inner key value h hkey hvalue hbelow ih ih' =>
    simp only [Draft.placed, List.map_append, List.mem_append, ih, or_and_right, exists_or,
      List.mem_singleton, exists_eq_left, List.map_singleton]
    refine or_congr_right ⟨?_, fun hopens => hopens.unique hkey⟩
    rintro rfl
    exact hkey

/-- The keys of the children are different just if no child is opened twice. -/
theorem nodup_placed_iff (h : Follows c name entries d) :
    (d.placed.map Prod.fst).Nodup ↔ entries.Pairwise (Apart c) := by
  induction h with
  | new name => exact iff_of_true List.nodup_nil .nil
  | @binding name table column entries d key value isDeferred source h hkey hsource ih =>
    have hapart : ∀ a ∈ entries, Apart c a (key, value) := fun _ _ _ _ => hkey.not_opens
    rw [Draft.placed, ih, List.pairwise_append]
    simpa using fun _ => hapart
  | @child name opened entries below d inner key value h hkey hvalue hbelow ih ih' =>
    -- the entries before open this child just if it is placed already
    have hnew : (∀ a ∈ entries, Apart c a (key, value)) ↔ opened ∉ d.placed.map Prod.fst := by
      rw [h.mem_placed_iff]
      constructor
      · rintro hapart ⟨a, ha, hopens⟩
        exact hapart a ha opened hopens hkey
      · intro hnone a ha child hopens hopens'
        obtain rfl := hopens'.unique hkey
        exact hnone ⟨a, ha, hopens⟩
    rw [Draft.placed, List.map_append, List.map_singleton, List.nodup_append, List.pairwise_append,
      ih]
    simp only [List.mem_singleton, forall_eq, hnew, ne_eq, List.forall_mem_ne',
      List.pairwise_singleton, List.nodup_cons, List.not_mem_nil, not_false_eq_true,
      List.nodup_nil, and_self]

theorem under (h : Follows c name entries d) (hunder : Under c entries below) :
    ∃ key d', Follows c key below d' := by
  induction h with
  | new name =>
    obtain ⟨key, value, child, hmem, -⟩ := hunder
    cases hmem
  | binding h hkey hsource ih =>
    exact (under_append.1 hunder).elim ih fun hlast => absurd hlast (not_under_of_names hkey)
  | child h hkey hvalue hbelow ih ih' =>
    rcases under_append.1 hunder with hunder | hlast
    · exact ih hunder
    · rw [(under_of_opens hkey hvalue).1 hlast]
      exact ⟨_, _, hbelow⟩

/-- Every level of a mapping is followed, if the whole is. -/
theorem within (h : Follows c name entries d) (hlevel : Within c entries level) :
    ∃ key d', Follows c key level d' := by
  induction hlevel with
  | refl => exact ⟨name, d, h⟩
  | tail _ hunder ih =>
    obtain ⟨key, d', h'⟩ := ih
    exact h'.under hunder

theorem faithful (h : Follows c name entries d) (hclear : d.Clear) : Faithful c entries d where
  conflicts := hclear.conflicts
  table e he isDeferred table column hnames :=
    hclear.table_node (b := (table, column)) (h.mem_named_iff.2 ⟨e, he, isDeferred, hnames⟩)
  steps := h.steps
  bindings := hclear.bindings
  children := d.children_node
  inOrder hapart := by
    rw [d.children_node, Dict.ofEntries_of_nodup]
    rw [List.map_map]
    exact h.nodup_placed_iff.2 hapart
  whole := by
    have hlength : (Dict.ofEntries (d.placed.map fun p => (p.1, p.2.node))).length = _ ↔ _ :=
      Dict.length_ofEntries_eq_iff
    rw [List.length_map, List.map_map] at hlength
    rw [← h.nodup_placed_iff, hclear.bindings, d.children_node, ← h.steps, Nat.add_left_cancel_iff]
    exact hlength

end Follows

/-- Keys that are texts open one child only if they are the same. -/
theorem pairwise_apart_of_texts (htexts : ∀ e ∈ level, ∃ s, e.1 = .text s)
    (hkeys : level.Pairwise fun a b => ¬ a.1.same b.1) : level.Pairwise (Apart c) := by
  refine hkeys.imp_of_mem fun {a b} ha hb hsame child hopens hopens' => hsame ?_
  obtain ⟨s, hs⟩ := htexts a ha
  obtain ⟨t, ht⟩ := htexts b hb
  have hst : some s = some t := by
    have htext := hopens.1.trans hopens'.1.symm
    rwa [hs, ht] at htext
  rw [hs, ht, Option.some.inj hst, Yaml.same]
  exact BEq.rfl

namespace Node

/-- **A mapping is read as it is followed.**  It is read to a tree if entries of one level never
disagree on the table or bind one column twice, and the tree is the one that is built by one step
for each entry, in order and at every level; a mapping with a level that disagrees is refused.  What
is read has all that every level says, but for the children that are opened twice; there are none if
the keys of the level are texts, each different from the others. -/
theorem ofEntries_builds (c : Config) (name path : String) (entries : List (Yaml × Yaml)) :
    (∀ n, ofEntries c name path entries = .ok n ↔
      ∃ d, Follows c name entries d ∧ Agreeing c entries ∧ n = d.node) ∧
    (∀ level, Within c entries level → ¬ level.Pairwise (Agree c) →
      ∃ e, ofEntries c name path entries = .error e) ∧
    ∀ n, ofEntries c name path entries = .ok n → ∀ level, Within c entries level →
      (∃ key d, Follows c key level d) ∧ ∀ key d, Follows c key level d →
        Faithful c level d ∧
        ((∀ e ∈ level, ∃ s, e.1 = .text s) → (level.Pairwise fun a b => ¬ a.1.same b.1) →
          d.node.bindings.length + d.node.children.length = level.length) := by
  refine ⟨fun n => ofEntries_eq_ok_iff_follows, fun level hlevel hclash => ?_, ?_⟩
  · cases hread : ofEntries c name path entries with
    | error e => exact ⟨e, rfl⟩
    | ok n =>
      obtain ⟨d, -, hagreeing, -⟩ := ofEntries_eq_ok_iff_follows.1 hread
      exact absurd (hagreeing level hlevel) hclash
  · intro n hread level hlevel
    obtain ⟨d, hfollows, hagreeing, -⟩ := ofEntries_eq_ok_iff_follows.1 hread
    refine ⟨hfollows.within hlevel, fun key d' hfollows' => ?_⟩
    -- a level of a mapping whose levels agree is one itself
    have hclear : d'.Clear := hfollows'.clear_iff.2 fun below hbelow =>
      hagreeing below (hlevel.trans hbelow)
    have hfaithful := hfollows'.faithful hclear
    exact ⟨hfaithful, fun htexts hkeys =>
      hfaithful.whole.2 (pairwise_apart_of_texts htexts hkeys)⟩

namespace Notes

/-- A record with some notes, and with others under a further key. -/
def noted (key : Yaml) : List (Yaml × Yaml) :=
  [(.text "record.title", .text "245$a"),
    (.text "+notes", .mapping [(.text "note.text", .text "500$a")]),
    (key, .mapping [(.text "note.text", .text "520$a")])]

/-- With a key of their own the other notes are kept; a column that is bound again is refused. -/
theorem remarks_kept :
    (∃ n d, ofEntries .default rootName rootName (noted (.text "+remarks")) = .ok n ∧
      Follows .default rootName (noted (.text "+remarks")) d ∧ n = d.node ∧
      n.bindings.length + n.children.length = 3) ∧
    ∃ e, ofEntries .default rootName rootName (noted (.text "~record.title")) = .error e := by
  obtain ⟨hok, -, hkept⟩ :=
    ofEntries_builds .default rootName rootName (noted (.text "+remarks"))
  obtain ⟨-, herror, -⟩ :=
    ofEntries_builds .default rootName rootName (noted (.text "~record.title"))
  refine ⟨?_, herror _ .refl fun hagree => ?_⟩
  · obtain ⟨n, hn⟩ : ∃ n, ofEntries .default rootName rootName (noted (.text "+remarks")) =
        .ok n := ⟨_, rfl⟩
    obtain ⟨d, hfollows, -, hnode⟩ := (hok n).1 hn
    obtain ⟨-, hwhole⟩ := (hkept n hn _ .refl).2 rootName d hfollows
    refine ⟨n, d, hn, hfollows, hnode, hnode ▸ hwhole ?_ (by simp [noted, Yaml.same])⟩
    simp [noted]
  · have htitle : Names .default (.text "record.title") false "record" "title" :=
      .plain rfl (by decide) (by decide) (by decide) (by decide) (by decide)
    have hagain : Names .default (.text "~record.title") true "record" "title" :=
      .deferred (show _ = some (Config.default.deferredMark ++ "record.title") from rfl)
        (by decide) (by decide) (by decide) (by decide)
    have hpair := (List.pairwise_cons.1 hagree).1 _ (List.mem_cons_of_mem _ List.mem_cons_self)
    exact (hpair _ _ _ htitle _ _ _ hagain).2 rfl

/-- **A key with a tag may replace a child.**  The keys are different, and each is read, but there
is one node less than there are keys. -/
theorem tagged_key_replaces :
    let level := noted (.tagged "x" (.text "+notes"))
    Config.default.fault? = none ∧ (level.Pairwise fun a b => ¬ a.1.same b.1) ∧
      ∃ n, ofEntries .default rootName rootName level = .ok n ∧
        n.bindings.length + n.children.length = 2 ∧ level.length = 3 :=
  ⟨by decide, by simp [noted, Yaml.same], _, rfl, rfl, rfl⟩

end Notes

end Node

end Accession.Mapping
