import Mathlib.Data.List.Basic
import Mathlib.Data.List.TakeWhile
import Accession.Text.Blank

/-!
# Texts without white space around them

What is left of a text without the white space around it is the part of it that neither starts nor
ends with white space, and that only white space surrounds.

* `Unblanked` : a text that neither starts nor ends with white space.
* `trimmed_eq_iff` : what is left of a text; `trimmed_trimmed` : nothing more is taken away from it.
-/

namespace Accession.Text

/-- The characters neither start nor end with white space. -/
structure Unblanked (cs : List Char) : Prop where
  starts : ∀ c ∈ cs.head?, isBlank c = false
  ends : ∀ c ∈ cs.getLast?, isBlank c = false

variable {cs text before after : List Char}

theorem isDigit_of_isBlank {c : Char} (h : isBlank c) : c.isDigit = false := by
  have hall : blanks.all fun c => !c.isDigit := by decide
  simpa using List.all_eq_true.1 hall c (List.contains_iff_mem.1 h)

theorem dropWhile_of_head (h : ∀ c ∈ cs.head?, isBlank c = false) : cs.dropWhile isBlank = cs := by
  cases cs with
  | nil => rfl
  | cons c cs =>
    have hc : isBlank c = false := h c (by simp)
    simp [hc]

theorem head?_dropWhile_isBlank (cs : List Char) :
    ∀ c ∈ (cs.dropWhile isBlank).head?, isBlank c = false := by
  intro c hc
  have hnot := List.head?_dropWhile_not isBlank cs
  rw [Option.mem_def.1 hc] at hnot
  simpa using hnot

theorem exists_dropWhile_isBlank (cs : List Char) :
    ∃ before, cs = before ++ cs.dropWhile isBlank ∧ ∀ c ∈ before, isBlank c := by
  refine ⟨cs.takeWhile isBlank, List.takeWhile_append_dropWhile.symm, fun c hc => ?_⟩
  exact List.mem_takeWhile_imp hc

theorem trimmed_of_around (h : Unblanked text) (hbefore : ∀ c ∈ before, isBlank c)
    (hafter : ∀ c ∈ after, isBlank c) : trimmed (before ++ text ++ after) = text := by
  have hreversed : ∀ c ∈ text.reverse.head?, isBlank c = false := by simpa using h.ends
  have hafter' : ∀ c ∈ after.reverse, isBlank c := by simpa using hafter
  rw [trimmed, List.append_assoc, List.dropWhile_append_of_pos hbefore]
  by_cases htext : text = []
  · -- nothing but white space is left, and then nothing at all
    subst htext
    have hall : after.dropWhile isBlank = [] := List.dropWhile_eq_nil_iff.2 hafter
    simp [hall]
  · have hhead : ∀ c ∈ (text ++ after).head?, isBlank c = false := by
      intro c hc
      rw [List.head?_append_of_ne_nil _ htext] at hc
      exact h.starts c hc
    rw [dropWhile_of_head hhead, List.reverse_append, List.dropWhile_append_of_pos hafter',
      dropWhile_of_head hreversed, List.reverse_reverse]

theorem exists_around_trimmed (cs : List Char) :
    ∃ before after, cs = before ++ trimmed cs ++ after ∧ Unblanked (trimmed cs) ∧
      (∀ c ∈ before, isBlank c) ∧ ∀ c ∈ after, isBlank c := by
  obtain ⟨before, hcs, hbefore⟩ := exists_dropWhile_isBlank cs
  obtain ⟨after, hrest, hafter⟩ := exists_dropWhile_isBlank (cs.dropWhile isBlank).reverse
  have hends := head?_dropWhile_isBlank (cs.dropWhile isBlank).reverse
  have hsplit : cs.dropWhile isBlank = trimmed cs ++ after.reverse := by
    rw [trimmed, ← List.reverse_append, ← hrest, List.reverse_reverse]
  refine ⟨before, after.reverse, ?_, ⟨fun c hc => ?_, ?_⟩, hbefore, by simpa using hafter⟩
  · rw [List.append_assoc, ← hsplit]
    exact hcs
  · refine head?_dropWhile_isBlank cs c ?_
    rw [hsplit]
    exact List.mem_head?_append_of_mem_head? hc
  · simpa [trimmed] using hends

/-- What is left of a text neither starts nor ends with white space, and is surrounded by it. -/
theorem trimmed_eq_iff : trimmed cs = text ↔ Unblanked text ∧ ∃ before after,
    cs = before ++ text ++ after ∧ (∀ c ∈ before, isBlank c) ∧ ∀ c ∈ after, isBlank c := by
  constructor
  · rintro rfl
    obtain ⟨before, after, hcs, hends, hbefore, hafter⟩ := exists_around_trimmed cs
    exact ⟨hends, before, after, hcs, hbefore, hafter⟩
  · rintro ⟨hends, before, after, rfl, hbefore, hafter⟩
    exact trimmed_of_around hends hbefore hafter

theorem trimmed_trimmed (cs : List Char) : trimmed (trimmed cs) = trimmed cs := by
  have hends : Unblanked (trimmed cs) := (trimmed_eq_iff.1 rfl).1
  exact trimmed_eq_iff.2 ⟨hends, [], [], by simp⟩

end Accession.Text
