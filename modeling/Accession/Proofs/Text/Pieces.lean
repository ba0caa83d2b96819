import Mathlib.Data.List.Basic
import Accession.Text.Search

/-!
# Texts between delimiters

A text is cut where a delimiter first occurs, and then again in what follows.  The delimiter may
overlap itself, so an occurrence that stands between two texts need not be the first of the whole.

* `after?_eq_some_iff`, `after?_eq_none_iff` : a text and what it starts with.
* `pieces_of_absent`, `pieces_append` : a text without the delimiter, and a text cut at the first
  occurrence; every text is one or the other (`exists_first_occurrence`).
* `Cut` : a text and the parts into which it is cut, which joined again give the text
  (`Cut.intercalate`); `pieces_eq_iff_cut` : the parts are those that are computed.
* `Separates` : the delimiter between two texts is the only one at which the whole is cut
  (`split_eq_pair_iff`).
* `separates_of_foreign` : so it is if it has a character that neither text has.
-/

namespace Accession.Text

theorem after?_append (start rest : String) : after? start (start ++ rest) = some rest := by
  have hrest : start.toList.isPrefixOf? (start ++ rest).toList = some rest.toList :=
    List.isPrefixOf?_eq_some_iff_append_eq.2 String.toList_append.symm
  rw [after?, hrest, Option.map_some, String.ofList_toList]

theorem after?_eq_some_iff {start text rest : String} :
    after? start text = some rest ↔ text = start ++ rest := by
  refine ⟨fun h => ?_, fun h => h ▸ after?_append start rest⟩
  obtain ⟨cs, hcs, rfl⟩ := Option.map_eq_some_iff.1 h
  rw [List.isPrefixOf?_eq_some_iff_append_eq] at hcs
  rw [← String.toList_inj, String.toList_append, String.toList_ofList, hcs]

theorem after?_eq_none_iff {start text : String} :
    after? start text = none ↔ ¬ start.toList <+: text.toList := by
  rw [after?, Option.map_eq_none_iff, Option.eq_none_iff_forall_ne_some]
  simp only [ne_eq, List.isPrefixOf?_eq_some_iff_append_eq]
  exact not_exists.symm

variable {d text before after : List Char}

theorem piecesFrom_of_absent (piece : List Char) (h : ¬ d <:+: text) :
    piecesFrom d 0 piece text = [piece.reverse ++ text] := by
  induction text generalizing piece with
  | nil => simp [piecesFrom]
  | cons c text ih =>
    rw [List.infix_cons_iff, not_or, ← List.isPrefixOf_iff_prefix] at h
    rw [piecesFrom, if_neg h.1, ih _ h.2]
    simp

theorem pieces_of_absent (h : ¬ d <:+: text) : pieces d text = [text] :=
  piecesFrom_of_absent [] h

theorem piecesFrom_skip (passed rest piece : List Char) :
    piecesFrom d passed.length piece (passed ++ rest) = piecesFrom d 0 piece rest := by
  induction passed with
  | nil => rfl
  | cons c passed ih => exact ih

theorem append_dropLast_starts (d before after : List Char) :
    before ++ d.dropLast <+: before ++ d ++ after := by
  rw [List.append_assoc, List.prefix_append_right_inj]
  exact d.dropLast_prefix.trans (List.prefix_append d after)

/-- If no occurrence starts before the one behind a text, then none starts where the text does. -/
theorem not_prefix_of_first (hne : before ≠ []) (h : ¬ d <:+: before ++ d.dropLast) :
    ¬ d <+: before ++ d ++ after := by
  intro hstart
  have hpos := List.length_pos_iff.2 hne
  have hfirst := append_dropLast_starts d before after
  refine h (List.prefix_of_prefix_length_le hstart hfirst ?_).isInfix
  simp only [List.length_append, List.length_dropLast]
  omega

theorem piecesFrom_append (hd : d ≠ []) (piece : List Char)
    (h : ¬ d <:+: before ++ d.dropLast) : piecesFrom d 0 piece (before ++ d ++ after) =
      (piece.reverse ++ before) :: pieces d after := by
  induction before generalizing piece with
  | nil =>
    obtain ⟨c, rest, rfl⟩ := List.exists_cons_of_ne_nil hd
    have hprefix : (c :: rest).isPrefixOf (c :: (rest ++ after)) :=
      List.isPrefixOf_iff_prefix.2 (List.prefix_append (c :: rest) after)
    rw [List.nil_append, List.cons_append, piecesFrom, if_pos hprefix, List.append_nil]
    exact congrArg _ (piecesFrom_skip rest after [])
  | cons c before ih =>
    have hprefix : ¬ d.isPrefixOf (c :: (before ++ d ++ after)) := by
      rw [List.isPrefixOf_iff_prefix]
      exact not_prefix_of_first (List.cons_ne_nil c before) h
    rw [List.cons_append, List.cons_append, piecesFrom, if_neg hprefix,
      ih _ fun hin => h (List.infix_cons hin)]
    simp

/-- A text is cut at the first occurrence of the delimiter, and then what follows is cut. -/
theorem pieces_append (hd : d ≠ []) (h : ¬ d <:+: before ++ d.dropLast) :
    pieces d (before ++ d ++ after) = before :: pieces d after :=
  piecesFrom_append hd [] h

theorem exists_first_occurrence (hd : d ≠ []) (h : d <:+: text) :
    ∃ before after, text = before ++ d ++ after ∧ ¬ d <:+: before ++ d.dropLast := by
  induction text with
  | nil => exact absurd (List.eq_nil_of_infix_nil h) hd
  | cons c text ih =>
    by_cases hstart : d <+: c :: text
    · obtain ⟨after, hafter⟩ := hstart
      refine ⟨[], after, hafter.symm, fun hin => ?_⟩
      have hlength := hin.length_le
      have hpos := List.length_pos_iff.2 hd
      simp only [List.nil_append, List.length_dropLast] at hlength
      omega
    · obtain ⟨before, after, rfl, hfirst⟩ := ih ((List.infix_cons_iff.1 h).resolve_left hstart)
      refine ⟨c :: before, after, rfl, fun hin => ?_⟩
      rcases List.infix_cons_iff.1 hin with hin | hin
      · exact hstart (hin.trans (append_dropLast_starts d (c :: before) after))
      · exact hfirst hin

/-- The parts of a text between the occurrences of a delimiter.  A text without the delimiter is one
part; any other is cut at an occurrence before which no other starts, and what follows is cut
again. -/
inductive Cut (d : List Char) : List Char → List (List Char) → Prop
  | whole {text : List Char} (free : ¬ d <:+: text) : Cut d text [text]
  | first {before after : List Char} {parts : List (List Char)}
      (first : ¬ d <:+: before ++ d.dropLast) (rest : Cut d after parts) :
      Cut d (before ++ d ++ after) (before :: parts)

theorem cut_pieces (hd : d ≠ []) (text : List Char) : Cut d text (pieces d text) := by
  induction hn : text.length using Nat.strongRecOn generalizing text with
  | _ n ih =>
    by_cases h : d <:+: text
    · obtain ⟨before, after, rfl, hfirst⟩ := exists_first_occurrence hd h
      have hpos := List.length_pos_iff.2 hd
      have hshorter : after.length < n := by
        simp only [List.length_append] at hn
        omega
      rw [pieces_append hd hfirst]
      exact .first hfirst (ih after.length hshorter after rfl)
    · rw [pieces_of_absent h]
      exact .whole h

/-- A text is cut in one way only. -/
theorem pieces_eq_iff_cut {parts : List (List Char)} (hd : d ≠ []) :
    pieces d text = parts ↔ Cut d text parts := by
  constructor
  · rintro rfl
    exact cut_pieces hd text
  · intro h
    induction h with
    | whole hfree => exact pieces_of_absent hfree
    | first hfirst _ ih => rw [pieces_append hd hfirst, ih]

theorem Cut.ne_nil {parts : List (List Char)} (h : Cut d text parts) : parts ≠ [] := by
  cases h <;> exact List.cons_ne_nil _ _

/-- The parts with the delimiter between them are the text. -/
theorem Cut.intercalate {parts : List (List Char)} (h : Cut d text parts) :
    d.intercalate parts = text := by
  induction h with
  | whole hfree => simp [List.intercalate]
  | @first before after parts hfirst hrest ih =>
    rw [List.intercalate_cons_of_ne_nil hrest.ne_nil, ih]

/-- No occurrence of the delimiter starts before the one between the texts, and none is left after
it. -/
structure Separates (d before after : List Char) : Prop where
  first : ¬ d <:+: before ++ d.dropLast
  only : ¬ d <:+: after

theorem pieces_eq_pair_iff (hd : d ≠ []) :
    pieces d (before ++ d ++ after) = [before, after] ↔ Separates d before after := by
  constructor
  · intro h
    obtain ⟨first, rest, htext, hfirst⟩ :=
      exists_first_occurrence hd (List.infix_append before d after)
    rw [htext, pieces_append hd hfirst] at h
    obtain ⟨rfl, hrest⟩ := List.cons.inj h
    obtain rfl : after = rest := List.append_cancel_left htext
    refine ⟨hfirst, fun hin => ?_⟩
    -- what follows would be cut again
    obtain ⟨second, rest, rfl, hsecond⟩ := exists_first_occurrence hd hin
    rw [pieces_append hd hsecond] at hrest
    have hpos := List.length_pos_iff.2 hd
    have hlength := congrArg List.length (List.cons.inj hrest).1
    simp only [List.length_append] at hlength
    omega
  · intro h
    rw [pieces_append hd h.first, pieces_of_absent h.only]

theorem split_eq_pair_iff {delimiter before after : String} (hd : delimiter ≠ "") :
    split delimiter (before ++ delimiter ++ after) = [before, after] ↔
      Separates delimiter.toList before.toList after.toList := by
  have hchars : delimiter.toList ≠ [] := fun h => hd (String.toList_eq_nil_iff.1 h)
  rw [← pieces_eq_pair_iff hchars, split, String.toList_append, String.toList_append]
  constructor
  · intro h
    have h' := congrArg (List.map String.toList) h
    simpa [Function.comp_def] using h'
  · intro h
    rw [h]
    simp

/-- A delimiter separates two texts if it has a character that neither of them has. -/
theorem separates_of_foreign {p : Char → Bool} (hforeign : ∃ x ∈ d, p x = false)
    (hbefore : ∀ x ∈ before, p x) (hafter : ∀ x ∈ after, p x) : Separates d before after := by
  constructor
  · rintro ⟨u, v, huv⟩
    obtain ⟨x, hx⟩ : ∃ x, d.find? (fun x => !p x) = some x :=
      Option.isSome_iff_exists.1 (List.find?_isSome.2 (by simpa using hforeign))
    obtain ⟨hpx, g, h, rfl, hg⟩ := List.find?_eq_some_iff_append.1 hx
    -- an earlier occurrence would put its foreign character among those of `before` and `g`
    have hforeign : u ++ g ++ [x] <+: before ++ (g ++ x :: h).dropLast :=
      ⟨h ++ v, by rw [← huv]; simp⟩
    have hown : before ++ g <+: before ++ (g ++ x :: h).dropLast := by
      rw [List.prefix_append_right_inj, List.dropLast_append_of_ne_nil (List.cons_ne_nil x h)]
      exact List.prefix_append g _
    have hstart : u ++ g ++ [x] <+: before ++ g := by
      refine List.prefix_of_prefix_length_le hforeign hown ?_
      have hlength := congrArg List.length huv
      simp only [List.length_append, List.length_dropLast, List.length_cons,
        List.length_nil] at hlength ⊢
      omega
    have hmem : x ∈ before ++ g := hstart.subset (by simp)
    have hnot : p x = false := by simpa using hpx
    rcases List.mem_append.1 hmem with hmem | hmem
    · rw [hbefore x hmem] at hnot
      cases hnot
    · have hyes : p x = true := by simpa using hg x hmem
      rw [hyes] at hnot
      cases hnot
  · intro hin
    obtain ⟨x, hx, hpx⟩ := hforeign
    rw [hafter x (hin.subset hx)] at hpx
    cases hpx

end Accession.Text
