import Accession.Proofs.Text.Blanks
import Accession.Proofs.Text.Pieces
import Accession.Record.Tag

/-!
# Tags as they are written

A tag has one written form for each delimiter, which is what is read of any text that is that form
with white space around it.  The delimiter may be longer than a character, overlap itself or be
white space, so what counts is where the text is cut, not which characters the parts have.

* `Tag.parts` : the parts of the written form.
* `Tag.parse_eq_some_iff` : which texts are read as a tag.
* `Tag.parse_format_inverse` : reading and writing are inverse to each other.
-/

namespace Accession.Tag

variable {raw delimiter : String} {t : Tag}

/-- What stands between the occurrences of a delimiter in the written form of a tag. -/
def parts (t : Tag) : List (List Char) :=
  t.field.toList :: t.subfield.toList.map fun code => [code]

theorem toList_format (t : Tag) (delimiter : String) :
    (t.format delimiter).toList = delimiter.toList.intercalate t.parts := by
  obtain ⟨field, subfield⟩ := t
  cases subfield <;> simp [format, parts, List.intercalate]

theorem ofList_ne_empty {field : List Char} (h : field ≠ []) : String.ofList field ≠ "" := by
  rw [ne_eq, ← String.toList_eq_nil_iff, String.toList_ofList]
  exact h

/-- The parts of a text are those of a tag if there is a first one that is not empty, and at most
one more, which is one character. -/
theorem exists_parts_eq_iff {found : List (List Char)} :
    (∃ t : Tag, t.field ≠ "" ∧ t.parts = found) ↔
      (∃ field, field ≠ [] ∧ found = [field]) ∨
        ∃ field code, field ≠ [] ∧ found = [field, [code]] := by
  constructor
  · rintro ⟨⟨field, subfield⟩, hfield, rfl⟩
    have hchars : field.toList ≠ [] := fun h => hfield (String.toList_eq_nil_iff.1 h)
    cases subfield with
    | none => exact .inl ⟨field.toList, hchars, rfl⟩
    | some code => exact .inr ⟨field.toList, code, hchars, rfl⟩
  · rintro (⟨field, hfield, rfl⟩ | ⟨field, code, hfield, rfl⟩)
    · exact ⟨⟨String.ofList field, none⟩, ofList_ne_empty hfield, by simp [parts]⟩
    · exact ⟨⟨String.ofList field, some code⟩, ofList_ne_empty hfield, by simp [parts]⟩

theorem parts_eq_whole_iff {field : List Char} :
    [field] = t.parts ↔ t = ⟨String.ofList field, none⟩ := by
  obtain ⟨name, subfield⟩ := t
  cases subfield with
  | none => simp [parts, ← String.toList_inj, eq_comm]
  | some code => simp [parts]

theorem parts_eq_pair_iff {field : List Char} {code : Char} :
    [field, [code]] = t.parts ↔ t = ⟨String.ofList field, some code⟩ := by
  obtain ⟨name, subfield⟩ := t
  cases subfield with
  | none => simp [parts]
  | some code => simp [parts, ← String.toList_inj, eq_comm]

theorem ite_eq_some_iff {field : List Char} {subfield : Option Char} (hd : delimiter ≠ "") :
    (if field = [] then none else some (⟨String.ofList field, subfield⟩ : Tag)) = some t ↔
      delimiter ≠ "" ∧ t.field ≠ "" ∧ t = ⟨String.ofList field, subfield⟩ := by
  by_cases hfield : field = []
  · rw [if_pos hfield]
    refine iff_of_false (Option.some_ne_none t).symm ?_
    rintro ⟨-, hname, rfl⟩
    exact hname (congrArg String.ofList hfield)
  · rw [if_neg hfield, Option.some_inj]
    constructor
    · rintro rfl
      exact ⟨hd, ofList_ne_empty hfield, rfl⟩
    · rintro ⟨-, -, rfl⟩
      rfl

theorem parse_eq_some_iff_pieces : parse raw delimiter = some t ↔ delimiter ≠ "" ∧ t.field ≠ "" ∧
    Text.pieces delimiter.toList (Text.trimmed raw.toList) = t.parts := by
  by_cases hempty : Text.trimmed raw.toList = [] ∨ delimiter = ""
  · -- the only part of an empty text is empty
    have hnone : parse raw delimiter = none := by
      rw [parse]
      exact if_pos hempty
    rw [hnone]
    refine iff_of_false (Option.some_ne_none t).symm ?_
    rintro ⟨hd, hfield, hparts⟩
    rw [hempty.resolve_right hd] at hparts
    have hfirst : t.field.toList = [] := (List.cons.inj hparts).1.symm
    exact hfield (String.toList_eq_nil_iff.1 hfirst)
  · have hd : delimiter ≠ "" := (not_or.1 hempty).2
    rw [parse]
    rw [if_neg hempty]
    split
    · next field hpieces =>
      rw [hpieces, parts_eq_whole_iff]
      exact ite_eq_some_iff hd
    · next field code hpieces =>
      rw [hpieces, parts_eq_pair_iff]
      exact ite_eq_some_iff hd
    · next hone htwo =>
      refine iff_of_false (Option.some_ne_none t).symm ?_
      rintro ⟨-, -, hparts⟩
      obtain ⟨name, subfield⟩ := t
      cases subfield with
      | none => exact hone _ hparts
      | some code => exact htwo _ _ hparts

/-- **Which texts are read as a tag.**  The text without the white space around it is cut into the
parts of the tag. -/
theorem parse_eq_some_iff : parse raw delimiter = some t ↔ delimiter ≠ "" ∧ t.field ≠ "" ∧
    Text.Cut delimiter.toList (Text.trimmed raw.toList) t.parts := by
  rw [parse_eq_some_iff_pieces]
  refine and_congr_right fun hd => and_congr_right fun _ => Text.pieces_eq_iff_cut fun h => ?_
  exact hd (String.toList_eq_nil_iff.1 h)

theorem toList_trim (raw : String) : (Text.trim raw).toList = Text.trimmed raw.toList := by
  rw [Text.trim, String.toList_ofList]

theorem format_of_parse (h : parse raw delimiter = some t) :
    t.format delimiter = Text.trim raw := by
  obtain ⟨-, -, hcut⟩ := parse_eq_some_iff.1 h
  rw [← String.toList_inj, toList_format, hcut.intercalate, toList_trim]

theorem parse_trim (raw delimiter : String) :
    parse (Text.trim raw) delimiter = parse raw delimiter := by
  rw [parse, parse, toList_trim, Text.trimmed_trimmed]

/-- **Reading and writing a tag are inverse to each other.**  What is read of a text is written as
the text without the white space around it, which is read as the same tag.  A text is read just if
the delimiter is not empty, and cuts what is left of the text into a part that is not empty and at
most one more, which is one character. -/
theorem parse_format_inverse (raw delimiter : String) :
    (∀ t, parse raw delimiter = some t →
      t.format delimiter = Text.trim raw ∧ parse (t.format delimiter) delimiter = some t) ∧
    ((parse raw delimiter).isSome ↔ delimiter ≠ "" ∧
      ∃ parts, Text.Cut delimiter.toList (Text.trim raw).toList parts ∧
        ((∃ field, field ≠ [] ∧ parts = [field]) ∨
          ∃ field code, field ≠ [] ∧ parts = [field, [code]])) := by
  constructor
  · intro t h
    have hformat := format_of_parse h
    refine ⟨hformat, ?_⟩
    rw [hformat, parse_trim]
    exact h
  · rw [Option.isSome_iff_exists, toList_trim]
    simp only [parse_eq_some_iff, ← exists_parts_eq_iff]
    constructor
    · rintro ⟨t, hd, hfield, hcut⟩
      exact ⟨hd, t.parts, hcut, t, hfield, rfl⟩
    · rintro ⟨hd, parts, hcut, t, hfield, rfl⟩
      exact ⟨t, hd, hfield, hcut⟩

/-- A delimiter that overlaps itself is found at the first place where it stands. -/
theorem overlapping_read :
    parse " 65---\t" "--" = some ⟨"65", some '-'⟩ ∧
      Tag.format ⟨"65", some '-'⟩ "--" = Text.trim " 65---\t" ∧
      parse "65---" "--" = some ⟨"65", some '-'⟩ := by
  have h : parse " 65---\t" "--" = some ⟨"65", some '-'⟩ := by decide
  have hinverse := (parse_format_inverse " 65---\t" "--").1 _ h
  exact ⟨h, hinverse.1, hinverse.2⟩

end Accession.Tag
