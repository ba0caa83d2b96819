import Accession.Proofs.Decimal.Spelled
import Accession.Proofs.Store.Numbers

/-!
# Integers in columns of text

A column of integers takes a text if that spells an integer of a word, with white space around it or
not; a column of text takes every integer, and writes it so that it can be read again.

* `Value.coerce_text_integer_iff` : the texts that a column of integers takes.
* `Value.integers_read_exactly` : these, and that reading undoes writing for every integer of a
  word, to the least.
-/

namespace Accession.Value

open Decimal (Spelled wordMin wordMax)

theorem coerce_text_integer_iff {s : String} {i : ℤ} :
    (text s).coerce .integer = some (integer i) ↔
      Spelled (Text.trimmed s.toList) i ∧ wordMin ≤ i ∧ i ≤ wordMax := by
  have hinteger : (text s).coerce .integer = some (integer i) ↔
      Decimal.readWord? (Text.trimmed s.toList) = some i := by
    rw [coerce]
    cases Decimal.readWord? (Text.trimmed s.toList) <;> simp
  rw [hinteger, Decimal.readWord?_eq_some_iff, Decimal.fitsWord_iff]

/-- **Integers in texts are read exactly.**  A text becomes an integer just if it spells that
integer once the white space around it is dropped, and a word has the integer.  An integer of a word
becomes a text which becomes that integer again, also with white space around it. -/
theorem integers_read_exactly :
    (∀ s i, (text s).coerce .integer = some (integer i) ↔
      Spelled (Text.trimmed s.toList) i ∧ wordMin ≤ i ∧ i ≤ wordMax) ∧
    ∀ i, wordMin ≤ i → i ≤ wordMax → ∃ t, (integer i).coerce .text = some (text t) ∧
      ∀ before after : String, (∀ c ∈ before.toList, Text.isBlank c) →
        (∀ c ∈ after.toList, Text.isBlank c) →
        (text (before ++ t ++ after)).coerce .integer = some (integer i) := by
  refine ⟨fun s i => coerce_text_integer_iff, fun i hmin hmax => ⟨toString i, rfl, ?_⟩⟩
  intro before after hbefore hafter
  have hspelled : Spelled (toString i).toList i := Decimal.spelled_toString i
  have htrimmed : Text.trimmed (before ++ toString i ++ after).toList = (toString i).toList := by
    rw [String.toList_append, String.toList_append]
    exact Text.trimmed_of_around hspelled.unblanked hbefore hafter
  refine coerce_text_integer_iff.2 ⟨?_, hmin, hmax⟩
  rw [htrimmed]
  exact hspelled

/-- The least integer of a word, whose digits alone are beyond a word. -/
theorem least_word_read :
    (wordMin ≤ wordMin ∧ wordMin ≤ wordMax) ∧ ((∀ c ∈ "\t".toList, Text.isBlank c) ∧
      ∀ c ∈ " \u3000".toList, Text.isBlank c) ∧
    ∃ t, (integer wordMin).coerce .text = some (text t) ∧
      (text ("\t" ++ t ++ " \u3000")).coerce .integer = some (integer wordMin) := by
  have hword : wordMin ≤ wordMin ∧ wordMin ≤ wordMax := by decide
  have hblank : (∀ c ∈ "\t".toList, Text.isBlank c) ∧
      ∀ c ∈ " \u3000".toList, Text.isBlank c := by
    simp [Text.isBlank, Text.blanks]
  obtain ⟨t, ht, hread⟩ := integers_read_exactly.2 wordMin hword.1 hword.2
  exact ⟨hword, hblank, t, ht, hread "\t" " \u3000" hblank.1 hblank.2⟩

/-- Zeros in front do not count, and the digits of the least integer need their sign. -/
example : (text "\n+0007").coerce .integer = some (integer 7) ∧
    (text "9223372036854775808").coerce .integer = none := ⟨rfl, rfl⟩

end Accession.Value
