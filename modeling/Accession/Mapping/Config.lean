import Accession.Store.TextMatch

/-!
# Settings of a mapping

* `Mapping.Config` : the marks and delimiters in the keys and values of a mapping.
* `Mapping.Config.fault?` : the first fault of the settings.
* `Mapping.Config.Usable` : no setting is empty, and the marks of keys differ; then there is no
  fault (`Mapping.Config.fault?_eq_none_iff`).
-/

namespace Accession.Mapping

/-- How the keys and values of a mapping are written. -/
structure Config where
  /-- Stands between a field and a subfield. -/
  fieldDelimiter : String
  /-- Starts the key of a child. -/
  childMark : String
  /-- Stands between a table and a column. -/
  tableDelimiter : String
  /-- Starts the key of a column that is left empty. -/
  deferredMark : String
  /-- How texts are compared when the row behind a conflict is looked up. -/
  textMatch : TextMatch
  deriving DecidableEq, Repr

/-- What is wrong with the settings. -/
inductive ConfigFault where
  /-- A setting is empty. -/
  | empty (setting : String)
  /-- The marks of keys are equal. -/
  | equalMarks
  deriving DecidableEq, Repr

/-- What is wrong with the settings, in words. -/
def ConfigFault.message : ConfigFault → String
  | empty setting => "'" ++ setting ++ "' must not be empty"
  | equalMarks => "'child_prefix' and 'deferred_prefix' must differ"

namespace Config

/-- The settings where none are given. -/
def default : Config := ⟨"$", "+", ".", "~", .contains⟩

/-- The settings that are texts, by name. -/
def settings (c : Config) : List (String × String) :=
  [("field_delimiter", c.fieldDelimiter), ("child_prefix", c.childMark),
    ("table_delimiter", c.tableDelimiter), ("deferred_prefix", c.deferredMark)]

/-- The first fault of the settings. -/
def fault? (c : Config) : Option ConfigFault :=
  match c.settings.find? fun s => s.2 = "" with
  | some s => some (.empty s.1)
  | none => if c.childMark = c.deferredMark then some .equalMarks else none

/-- No setting is empty, and the marks of keys differ. -/
structure Usable (c : Config) : Prop where
  fieldDelimiter : c.fieldDelimiter ≠ ""
  childMark : c.childMark ≠ ""
  tableDelimiter : c.tableDelimiter ≠ ""
  deferredMark : c.deferredMark ≠ ""
  marks : c.childMark ≠ c.deferredMark

theorem fault?_eq_none_iff {c : Config} : c.fault? = none ↔ c.Usable := by
  have hsettings : c.settings.find? (fun s => s.2 = "") = none ↔ c.fieldDelimiter ≠ "" ∧
      c.childMark ≠ "" ∧ c.tableDelimiter ≠ "" ∧ c.deferredMark ≠ "" := by
    simp [settings]
  unfold fault?
  split
  · next s hs =>
    refine iff_of_false (Option.some_ne_none _) fun h => ?_
    rw [hsettings.2 ⟨h.fieldDelimiter, h.childMark, h.tableDelimiter, h.deferredMark⟩] at hs
    cases hs
  · next hs =>
    obtain ⟨hfield, hchild, htable, hdeferred⟩ := hsettings.1 hs
    split
    · next hmarks => exact iff_of_false (Option.some_ne_none _) fun h => h.marks hmarks
    · next hmarks => exact iff_of_true rfl ⟨hfield, hchild, htable, hdeferred, hmarks⟩

end Config

end Accession.Mapping
