import Mathlib.Data.List.Basic
import Accession.Mapping.Source
import Accession.Proofs.Text.Pieces

/-!
# The two spellings of a reference

A text without more is a reference if it is two identifiers around the delimiter of tables, of which
the first is as long as can be.  A text that is said to be a reference is cut wherever the delimiter
occurs.  That is the same as long as the delimiter cannot be a part of an identifier, but settings
may choose one that can, such as an underscore.

* `splitReference?_eq_some`, `ofText_eq_foreignKey` : what a text that is a reference by its form
  consists of.
* `ofReference?_eq_some_iff` : when a text that is said to be one is a reference.
* `spellings_agree_iff` : when the two are the same reference.
* `spellings_differ` : texts for which they are not.
-/

namespace Accession.Mapping.Source

variable {c : Config} {raw table name : String} {column : Option String}

/-- The value of an entry that says of a text that it is a reference. -/
def saidReference (raw : String) : Yaml := .mapping [(.text "fk", .text raw)]

theorem splitAt?_eq_some {d cs before after : List Char} {place : Nat}
    (h : splitAt? d cs place = some (before, after)) :
    cs = before ++ d ++ after ∧ Text.isIdentifier before ∧ Text.isIdentifier after := by
  rw [splitAt?] at h
  split at h
  · next rest hrest =>
    split at h
    · next hboth =>
      cases h
      rw [Bool.and_eq_true] at hboth
      refine ⟨?_, hboth⟩
      rw [List.append_assoc, List.isPrefixOf?_eq_some_iff_append_eq.1 hrest,
        List.take_append_drop]
    · cases h
  · cases h

theorem splitReference?_eq_some {d cs before after : List Char}
    (h : splitReference? d cs = some (before, after)) :
    cs = before ++ d ++ after ∧ Text.isIdentifier before ∧ Text.isIdentifier after := by
  obtain ⟨place, -, hplace⟩ := List.exists_of_findSome?_eq_some h
  exact splitAt?_eq_some hplace

theorem ofPlainText_eq_foreignKey (h : ofPlainText c raw = .foreignKey table column) :
    ∃ name, column = some name ∧ raw = table ++ c.tableDelimiter ++ name ∧
      Text.isIdentifier table.toList ∧ Text.isIdentifier name.toList := by
  rw [ofPlainText] at h
  split at h
  · next before after hsplit =>
    cases h
    obtain ⟨hraw, hbefore, hafter⟩ := splitReference?_eq_some hsplit
    refine ⟨String.ofList after, rfl, ?_, ?_, ?_⟩
    · rw [← String.toList_inj, hraw]
      simp
    · rwa [String.toList_ofList]
    · rwa [String.toList_ofList]
  · cases h

/-- A text that is a reference by its form is two identifiers around the delimiter. -/
theorem ofText_eq_foreignKey (h : ofText c raw = .foreignKey table column) :
    ∃ name, column = some name ∧ raw = table ++ c.tableDelimiter ++ name ∧
      Text.isIdentifier table.toList ∧ Text.isIdentifier name.toList := by
  rw [ofText] at h
  split at h
  · split at h
    · cases h
    · exact ofPlainText_eq_foreignKey h
  · exact ofPlainText_eq_foreignKey h

theorem ofReference?_eq_some_iff (htable : table ≠ "") (hname : name ≠ "") :
    ofReference? c raw = some (.foreignKey table (some name)) ↔
      Text.split c.tableDelimiter raw = [table, name] := by
  constructor
  · intro h
    rw [ofReference?] at h
    split at h
    · split at h
      · cases h
      · cases h
    · next hsplit =>
      split at h
      · cases h
      · cases h
        exact hsplit
    · cases h
  · intro h
    rw [ofReference?, h]
    exact if_neg (not_or.2 ⟨htable, hname⟩)

theorem ofYaml_saidReference_eq_ok_iff {source : Source} :
    ofYaml c (saidReference raw) = .ok source ↔ ofReference? c raw = some source := by
  change orFault .noForeignKey (ofReference? c raw) = _ ↔ _
  cases ofReference? c raw <;> simp [orFault]

theorem ne_empty_of_isIdentifier (h : Text.isIdentifier name.toList) : name ≠ "" := by
  rintro rfl
  exact Text.ne_nil_of_isIdentifier h String.toList_empty

/-- **The two spellings of a reference agree if the delimiter separates its names.**  A text that is
a reference by its form consists of the table, the delimiter and the column.  If it is said to be a
reference it is the same one just if no occurrence of the delimiter starts before the one between
the names, and none is left behind it.  So it is if the delimiter has a character that identifiers
cannot have. -/
theorem spellings_agree_iff (hc : c.fault? = none)
    (h : ofYaml c (.text raw) = .ok (.foreignKey table column)) :
    ∃ name, column = some name ∧ raw = table ++ c.tableDelimiter ++ name ∧
      (ofYaml c (saidReference raw) = .ok (.foreignKey table column) ↔
        Text.Separates c.tableDelimiter.toList table.toList name.toList) ∧
      ((∃ x ∈ c.tableDelimiter.toList, Text.continuesIdentifier x = false) →
        ofYaml c (saidReference raw) = .ok (.foreignKey table column)) := by
  obtain ⟨name, rfl, rfl, htable, hname⟩ := ofText_eq_foreignKey (Except.ok.inj h)
  have hdelimiter : c.tableDelimiter ≠ "" := (Config.fault?_eq_none_iff.1 hc).tableDelimiter
  have hagree : ofYaml c (saidReference (table ++ c.tableDelimiter ++ name)) =
      .ok (.foreignKey table (some name)) ↔
        Text.Separates c.tableDelimiter.toList table.toList name.toList := by
    rw [ofYaml_saidReference_eq_ok_iff, ofReference?_eq_some_iff (ne_empty_of_isIdentifier htable)
      (ne_empty_of_isIdentifier hname), Text.split_eq_pair_iff hdelimiter]
  refine ⟨name, rfl, rfl, hagree, fun hforeign => hagree.2 ?_⟩
  exact Text.separates_of_foreign hforeign (Text.continuesIdentifier_of_mem htable)
    (Text.continuesIdentifier_of_mem hname)

namespace Underscored

/-- The default settings with another delimiter of tables. -/
def config (delimiter : String) : Config := { Config.default with tableDelimiter := delimiter }

/-- An underscore that is the only one in a text separates its names. -/
theorem shelf_agrees :
    (config "_").fault? = none ∧
      ofYaml (config "_") (.text "shelf_id") = .ok (.foreignKey "shelf" (some "id")) ∧
      "shelf_id" = "shelf" ++ "_" ++ "id" ∧
      ofYaml (config "_") (saidReference "shelf_id") = .ok (.foreignKey "shelf" (some "id")) ∧
      Text.Separates ['_'] "shelf".toList "id".toList := by
  have hc : (config "_").fault? = none := by decide
  have h : ofYaml (config "_") (.text "shelf_id") = .ok (.foreignKey "shelf" (some "id")) := rfl
  have hsaid : ofYaml (config "_") (saidReference "shelf_id") =
      .ok (.foreignKey "shelf" (some "id")) := rfl
  obtain ⟨name, hname, hraw, hagree, -⟩ := spellings_agree_iff hc h
  cases hname
  exact ⟨hc, h, hraw, hsaid, hagree.1 hsaid⟩

/-- **The two spellings may differ.**  With an underscore as the delimiter, a text is a reference by
its form, but is refused if it is said to be one; with two, it is a reference to another table. -/
theorem spellings_differ :
    (config "_").fault? = none ∧
      ofYaml (config "_") (.text "shelf_id_2") = .ok (.foreignKey "shelf" (some "id_2")) ∧
      ofYaml (config "_") (saidReference "shelf_id_2") = .error .noForeignKey ∧
      (config "__").fault? = none ∧
      ofYaml (config "__") (.text "shelf___id") = .ok (.foreignKey "shelf_" (some "id")) ∧
      ofYaml (config "__") (saidReference "shelf___id") = .ok (.foreignKey "shelf" (some "_id")) :=
  ⟨by decide, rfl, rfl, by decide, rfl, rfl⟩

end Underscored

end Accession.Mapping.Source
