import Mathlib.Data.List.TakeWhile
import Accession.Text.Blank
import Accession.Text.Search

/-!
# Lines of a text

A text that is cut at the ends of its lines is put together again from them, and a line is the
trimmed line with white space around it.

* `pieces_singleton` : a text cut at one character.
* `pieces_intercalate` : the lines of a text that is made of lines.
* `eq_trimmed`, `isEmpty_trimmed` : a text against its trimmed form.
-/

namespace Accession.Text

theorem piecesFrom_singleton (d : Char) (piece text : List Char) :
    piecesFrom [d] 0 piece text = (text.splitOn d).modifyHead (piece.reverse ++ ·) := by
  induction text generalizing piece with
  | nil => simp [piecesFrom]
  | cons c text ih =>
    rw [piecesFrom, List.splitOn_cons_eq_if_modifyHead]
    by_cases h : c = d
    · subst h
      simp only [List.isPrefixOf_cons_cons, BEq.rfl, List.isPrefixOf_nil_left, Bool.and_self,
        if_true, List.modifyHead_cons, List.append_nil, List.length_singleton, Nat.sub_self, ih]
      exact congrArg _ (congrFun List.modifyHead_id _)
    · have hne : [d].isPrefixOf (c :: text) = false := by simp [List.isPrefixOf, Ne.symm h]
      simp [hne, h, ih, List.modifyHead_modifyHead, Function.comp_def]

theorem pieces_singleton (d : Char) (text : List Char) : pieces [d] text = text.splitOn d :=
  (piecesFrom_singleton d [] text).trans (congrFun List.modifyHead_id _)

/-- The lines of a text that is made of them. -/
theorem pieces_intercalate {d : Char} {lines : List (List Char)} (h : ∀ line ∈ lines, d ∉ line)
    (hne : lines ≠ []) : pieces [d] ([d].intercalate lines) = lines := by
  rw [pieces_singleton, List.splitOn_intercalate d h hne]

theorem eq_dropWhile_append (p : Char → Bool) (cs : List Char) :
    ∃ before, cs = before ++ cs.dropWhile p ∧ before.all p :=
  ⟨cs.takeWhile p, List.takeWhile_append_dropWhile.symm, List.all_takeWhile⟩

/-- A text is what is left of it when it is trimmed, with white space around. -/
theorem eq_trimmed (cs : List Char) :
    ∃ before after, cs = before ++ trimmed cs ++ after ∧ before.all isBlank ∧
      after.all isBlank := by
  obtain ⟨before, hfront, hbefore⟩ := eq_dropWhile_append isBlank cs
  obtain ⟨after, hback, hafter⟩ := eq_dropWhile_append isBlank (cs.dropWhile isBlank).reverse
  refine ⟨before, after.reverse, ?_, hbefore, by simpa using hafter⟩
  have hkept : cs.dropWhile isBlank = trimmed cs ++ after.reverse := by
    rw [trimmed, ← List.reverse_append, ← hback, List.reverse_reverse]
  rw [List.append_assoc, ← hkept]
  exact hfront

/-- Only of white space nothing is left. -/
theorem trimmed_eq_nil {cs : List Char} : trimmed cs = [] ↔ cs.all isBlank := by
  constructor
  · intro h
    obtain ⟨before, after, hcs, hbefore, hafter⟩ := eq_trimmed cs
    rw [hcs, h, List.append_nil, List.all_append, hbefore, hafter]
    rfl
  · intro h
    rw [trimmed, List.dropWhile_eq_nil_iff.2 (List.all_eq_true.1 h)]
    rfl

end Accession.Text
