import Accession.Mapping.Document
import Accession.Proofs.Text.Pieces

/-!
# Entries of a node

The mark of a child is looked for before the mark of a deferred column.  The marks are different,
but one may begin with the other, and then a key with the mark of a deferred column can be that of a
child.

* `Node.deferring` : a node that binds one deferred column.
* `Node.ofEntries_deferred_iff` : when a key with the mark of a deferred column binds one.
* `Node.Tildes.deferred_mark_opens_child` : a key for which it does not.
-/

namespace Accession.Mapping

variable {c : Config} {table column : String}

namespace Node

/-- The node that binds one column, which is left empty. -/
def deferring (name table column : String) : Node :=
  ⟨name, some table, [(column, .deferred)], [], []⟩

theorem readBinding_deferred (htable : table ≠ "") (hcolumn : column ≠ "")
    (hsplit : Text.split c.tableDelimiter (table ++ c.tableDelimiter ++ column) = [table, column])
    (name path : String) (value : Yaml) :
    readBinding c path (c.deferredMark ++ (table ++ c.tableDelimiter ++ column)) value (new name) =
      .ok (deferring name table column) := by
  have hkey : bindingKey c (c.deferredMark ++ (table ++ c.tableDelimiter ++ column)) =
      (true, table ++ c.tableDelimiter ++ column) := by
    rw [bindingKey, Text.after?_append]
  have hnames : splitKey? c (table ++ c.tableDelimiter ++ column) = some (table, column) := by
    rw [splitKey?, hsplit]
    exact if_neg (not_or.2 ⟨htable, hcolumn⟩)
  rw [readBinding, hkey]
  dsimp only
  rw [hnames]
  rfl

/-- A key that starts with the mark of a child binds nothing. -/
theorem ofEntries_child_ne_deferring {key child : String} {value : Yaml} {name path : String}
    (hkey : Text.after? c.childMark key = some child) :
    ofEntries c name path [(.text key, value)] ≠ .ok (deferring name table column) := by
  intro h
  rw [ofEntries, readEntries] at h
  simp only [Yaml.asText?, Yaml.untagged, hkey] at h
  split at h
  · cases h
  · split at h
    · cases h
    · cases h
    · rw [readEntries] at h
      cases h

/-- **A key with the mark of a deferred column binds that column, unless it starts with the mark of
a child.**  It does not if neither mark begins with the other. -/
theorem ofEntries_deferred_iff (htable : table ≠ "") (hcolumn : column ≠ "")
    (hsplit : Text.split c.tableDelimiter (table ++ c.tableDelimiter ++ column) = [table, column])
    (name path : String) (value : Yaml) :
    let key := c.deferredMark ++ (table ++ c.tableDelimiter ++ column)
    (ofEntries c name path [(.text key, value)] = .ok (deferring name table column) ↔
        ¬ c.childMark.toList <+: key.toList) ∧
      (¬ c.childMark.toList <+: c.deferredMark.toList →
        ¬ c.deferredMark.toList <+: c.childMark.toList →
          ofEntries c name path [(.text key, value)] = .ok (deferring name table column)) := by
  intro key
  have hiff : ofEntries c name path [(.text key, value)] = .ok (deferring name table column) ↔
      ¬ c.childMark.toList <+: key.toList := by
    rw [← Text.after?_eq_none_iff]
    cases hkey : Text.after? c.childMark key with
    | some child =>
      exact iff_of_false (ofEntries_child_ne_deferring hkey) (Option.some_ne_none child)
    | none =>
      refine iff_of_true ?_ rfl
      rw [ofEntries, readEntries]
      simp only [Yaml.asText?, Yaml.untagged, hkey]
      rw [readBinding_deferred htable hcolumn hsplit name path value]
      dsimp only
      rw [readEntries]
  refine ⟨hiff, fun hchild hdeferred => hiff.2 fun hstart => ?_⟩
  rw [String.toList_append] at hstart
  exact (List.prefix_or_prefix_of_prefix hstart (List.prefix_append _ _)).elim hchild hdeferred

namespace Tildes

/-- The default settings with other marks of children and of deferred columns. -/
def config (childMark deferredMark : String) : Config :=
  { Config.default with childMark := childMark, deferredMark := deferredMark }

/-- The mark of a child may begin with that of a deferred column. -/
theorem cover_deferred :
    Text.split (config "~~" "~").tableDelimiter "record.cover" = ["record", "cover"] ∧
      ¬ (config "~~" "~").childMark.toList <+: "~record.cover".toList ∧
      ofEntries (config "~~" "~") rootName rootName [(.text "~record.cover", .text "later")] =
        .ok (deferring rootName "record" "cover") := by
  have hsplit : Text.split (config "~~" "~").tableDelimiter
      ("record" ++ (config "~~" "~").tableDelimiter ++ "cover") = ["record", "cover"] := by decide
  have hstart : ¬ (config "~~" "~").childMark.toList <+: "~record.cover".toList := by decide
  exact ⟨hsplit, hstart, (ofEntries_deferred_iff (by decide) (by decide) hsplit rootName rootName
    (.text "later")).1.2 hstart⟩

/-- **A key with the mark of a deferred column may open a child.**  If the mark of a deferred column
begins with that of a child, then a key with it is that of a child, and its value has to be a
mapping. -/
theorem deferred_mark_opens_child :
    (config "~" "~~").fault? = none ∧
      Text.split (config "~" "~~").tableDelimiter "record.cover" = ["record", "cover"] ∧
      ofEntries (config "~" "~~") rootName rootName [(.text "~~record.cover", .null)] =
        .error (.value rootName "~~record.cover" .noChild) :=
  ⟨by decide, by decide, rfl⟩

end Tildes

end Node

end Accession.Mapping
