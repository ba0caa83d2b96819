import Accession.Text.Casing
import Mathlib.Data.List.Infix

/-!
# Lower case in context

The lower case of a text does not depend on the text around it, but for the capital sigma: its form
is the final one at the end of a word, and what ends a word is seen from the characters around it.

* `loweredBetween` : the lower case of a text that stands between two others;
  `lowered_append_append` : the lower case of the whole is made of those of its parts.
* `Steady` : every capital sigma of a text has the form between two texts that it has in the text
  alone; the text then has the same lower case there (`loweredBetween_of_steady`).
* `steady_of_uncased` : so it is where no cased character stands next to the text on either side.
* `Settled` : the form of every capital sigma is decided by the text alone; such a text is steady
  between any two others (`steady_of_settled`).
* `not_infix_of_not_settled` : the lower case of any other text does not even occur in that of some
  longer text around it.
-/

namespace Accession.Text

/-- The lower case of a text between `before`, which is read outwards from it, and `after`. -/
def loweredBetween (before after : List Char) : List Char → List Char
  | [] => []
  | c :: text =>
    (if c = 'Σ' then [if endsWord before (text ++ after) then 'ς' else 'σ'] else lowerChar c)
      ++ loweredBetween (c :: before) after text

/-- Between the two texts every capital sigma of `text` ends a word just if it does so in `text`
alone. -/
def Steady (before after text : List Char) : Prop :=
  ∀ start rest, text = start ++ 'Σ' :: rest →
    endsWord (start.reverse ++ before) (rest ++ after) = endsWord start.reverse rest

/-- Whether a capital sigma of the text ends a word is decided by the text itself: a cased character
comes next after it, or else the text has what stands next on the left of it, and has no cased
character there or has what stands next on the right as well. -/
def Settled (text : List Char) : Prop :=
  ∀ start rest, text = start ++ 'Σ' :: rest →
    meetsCased rest ∨ (∃ c ∈ start, isIgnorable c = false) ∧
      (meetsCased start.reverse = false ∨ ∃ c ∈ rest, isIgnorable c = false)

variable {before after before' after' text text' start rest : List Char} {c : Char}

/-! ### The parts of a text -/

theorem loweredBetween_append (before after text text' : List Char) :
    loweredBetween before after (text ++ text') = loweredBetween before (text' ++ after) text ++
      loweredBetween (text.reverse ++ before) after text' := by
  induction text generalizing before with
  | nil => rfl
  | cons c text ih => simp [loweredBetween, ih]

theorem lowerAfter_eq_loweredBetween (before text : List Char) :
    lowerAfter before text = loweredBetween before [] text := by
  induction text generalizing before with
  | nil => rfl
  | cons c text ih => rw [lowerAfter, loweredBetween, ih, List.append_nil]

/-- The lower case of a text is made of those of its parts, each between the others. -/
theorem lowered_append_append (before text after : List Char) :
    lowered (before ++ text ++ after) = loweredBetween [] (text ++ after) before ++
      loweredBetween before.reverse after text ++
      loweredBetween (text.reverse ++ before.reverse) [] after := by
  simp [lowered, lowerAfter_eq_loweredBetween, loweredBetween_append]

/-- The lower case of a text is a matter of which capital sigmas end a word. -/
theorem loweredBetween_congr (h : ∀ start rest, text = start ++ 'Σ' :: rest →
      endsWord (start.reverse ++ before) (rest ++ after) =
        endsWord (start.reverse ++ before') (rest ++ after')) :
    loweredBetween before after text = loweredBetween before' after' text := by
  induction text generalizing before before' with
  | nil => rfl
  | cons c text ih =>
    have htail : loweredBetween (c :: before) after text =
        loweredBetween (c :: before') after' text := by
      refine ih fun start rest hsplit => ?_
      have hcons := h (c :: start) rest (by rw [hsplit]; rfl)
      simpa using hcons
    rw [loweredBetween, loweredBetween, htail]
    by_cases hc : c = 'Σ'
    · subst hc
      rw [show endsWord before (text ++ after) = endsWord before' (text ++ after') from
        h [] text rfl]
    · rw [if_neg hc, if_neg hc]

theorem loweredBetween_of_steady (h : Steady before after text) :
    loweredBetween before after text = lowered text := by
  rw [lowered, lowerAfter_eq_loweredBetween]
  refine loweredBetween_congr fun start rest hsplit => ?_
  rw [h start rest hsplit, List.append_nil, List.append_nil]

/-- A text that is steady where it stands occurs there in lower case. -/
theorem lowered_infix_of_steady (h : Steady before.reverse after text) :
    lowered text <:+: lowered (before ++ text ++ after) := by
  rw [lowered_append_append, loweredBetween_of_steady h]
  exact ⟨_, _, rfl⟩

/-! ### The characters next to a sigma -/

theorem meetsCased_cons (c : Char) (text : List Char) :
    meetsCased (c :: text) = if isIgnorable c then meetsCased text else isCased c := by
  rw [meetsCased, List.dropWhile_cons]
  by_cases hc : isIgnorable c
  · rw [if_pos hc, if_pos hc, meetsCased]
  · rw [if_neg hc, if_neg hc]

theorem meetsCased_append_of_exists (h : ∃ c ∈ text, isIgnorable c = false) (after : List Char) :
    meetsCased (text ++ after) = meetsCased text := by
  induction text with
  | nil => simp at h
  | cons c text ih =>
    rw [List.cons_append, meetsCased_cons, meetsCased_cons]
    by_cases hc : isIgnorable c
    · have htext : ∃ d ∈ text, isIgnorable d = false := by simpa [hc] using h
      rw [if_pos hc, if_pos hc, ih htext]
    · rw [if_neg hc, if_neg hc]

theorem meetsCased_append_of_forall (h : ∀ c ∈ text, isIgnorable c) (after : List Char) :
    meetsCased (text ++ after) = meetsCased after := by
  rw [meetsCased, List.dropWhile_append_of_pos h, ← meetsCased]

theorem exists_of_meetsCased (h : meetsCased text) : ∃ c ∈ text, isIgnorable c = false := by
  by_contra hnone
  have hall : ∀ c ∈ text, isIgnorable c := by simpa using hnone
  rw [← text.append_nil, meetsCased_append_of_forall hall] at h
  cases h

theorem meetsCased_append_of_meetsCased (h : meetsCased text) (after : List Char) :
    meetsCased (text ++ after) := by
  rw [meetsCased_append_of_exists (exists_of_meetsCased h), h]

/-- Where no cased character stands next to a text, it is as if the text stood alone. -/
theorem meetsCased_append_of_uncased (h : meetsCased after = false) (text : List Char) :
    meetsCased (text ++ after) = meetsCased text := by
  by_cases htext : ∃ c ∈ text, isIgnorable c = false
  · exact meetsCased_append_of_exists htext after
  · have hall : ∀ c ∈ text, isIgnorable c := by simpa using htext
    have halone : meetsCased text = false :=
      Bool.eq_false_iff.2 fun hcased => htext (exists_of_meetsCased hcased)
    rw [meetsCased_append_of_forall hall, h, halone]

theorem steady_of_uncased (hbefore : meetsCased before = false)
    (hafter : meetsCased after = false) : Steady before after text := by
  intro start rest _
  rw [endsWord, meetsCased_append_of_uncased hbefore, meetsCased_append_of_uncased hafter, endsWord]

theorem steady_of_settled (h : Settled text) (before after : List Char) :
    Steady before after text := by
  intro start rest hsplit
  rw [endsWord, endsWord]
  rcases h start rest hsplit with hnext | ⟨hleft, hright⟩
  · rw [meetsCased_append_of_meetsCased hnext, hnext, Bool.not_true, Bool.and_false, Bool.and_false]
  · have hleft' : ∃ c ∈ start.reverse, isIgnorable c = false := by simpa using hleft
    rw [meetsCased_append_of_exists hleft']
    rcases hright with huncased | hright
    · rw [huncased, Bool.false_and, Bool.false_and]
    · rw [meetsCased_append_of_exists hright]

/-! ### A text that is not settled -/

/-- Wherever a word ends between the first two texts, it ends between the other two. -/
def Closes (before after before' after' : List Char) : Prop :=
  ∀ start rest, endsWord (start ++ before) (rest ++ after) →
    endsWord (start ++ before') (rest ++ after')

theorem Closes.append (h : Closes before after before' after') (start rest : List Char) :
    Closes (start ++ before) (rest ++ after) (start ++ before') (rest ++ after') := by
  intro start' rest'
  simpa using h (start' ++ start) (rest' ++ rest)

/-- Where more words end there are more final sigmas, and fewer of the other form. -/
theorem Closes.counts (h : Closes before after before' after') (text : List Char) :
    (loweredBetween before after text).count 'ς' ≤ (loweredBetween before' after' text).count 'ς' ∧
      (loweredBetween before' after' text).count 'σ' ≤
        (loweredBetween before after text).count 'σ' := by
  induction text generalizing before before' with
  | nil => exact ⟨le_rfl, le_rfl⟩
  | cons c text ih =>
    obtain ⟨hfinal, hother⟩ := ih (h.append [c] [])
    simp only [List.singleton_append] at hfinal hother
    simp only [loweredBetween, List.count_append]
    by_cases hc : c = 'Σ'
    · have hhere := h [] text
      simp only [List.nil_append] at hhere
      rw [if_pos hc, if_pos hc]
      by_cases hends : endsWord before (text ++ after)
      · rw [if_pos hends, if_pos (hhere hends)]
        omega
      · rw [if_neg hends]
        split <;> simp <;> omega
    · rw [if_neg hc, if_neg hc]
      omega

/-- If a further sigma ends a word, the counts differ. -/
theorem Closes.counts_lt (h : Closes before after before' after')
    (hopen : endsWord (start.reverse ++ before) (rest ++ after) = false)
    (hclosed : endsWord (start.reverse ++ before') (rest ++ after')) :
    (loweredBetween before after (start ++ 'Σ' :: rest)).count 'ς' <
        (loweredBetween before' after' (start ++ 'Σ' :: rest)).count 'ς' ∧
      (loweredBetween before' after' (start ++ 'Σ' :: rest)).count 'σ' <
        (loweredBetween before after (start ++ 'Σ' :: rest)).count 'σ' := by
  have hstart := (h.append [] ('Σ' :: rest)).counts start
  have hrest := (h.append ('Σ' :: start.reverse) []).counts rest
  simp only [List.nil_append, List.cons_append] at hstart hrest
  simp only [loweredBetween_append, loweredBetween, List.count_append, hopen, hclosed, if_true,
    List.cons_append]
  simp
  omega

/-- A word ends where it ended before, if a cased character is put in front. -/
theorem closes_in_front : Closes [] [] ['a'] [] := by
  intro start rest hends
  rw [endsWord, Bool.and_eq_true, List.append_nil] at hends
  rw [endsWord, meetsCased_append_of_meetsCased hends.1, hends.2]
  rfl

/-- A word that ends before a cased character ends there also without it. -/
theorem closes_behind : Closes [] ['a'] [] [] := by
  intro start rest hends
  rw [endsWord, Bool.and_eq_true, Bool.not_eq_true'] at hends
  rw [endsWord, hends.1, List.append_nil, Bool.true_and, Bool.not_eq_true']
  by_contra hcased
  rw [Bool.not_eq_false] at hcased
  rw [meetsCased_append_of_meetsCased hcased] at hends
  exact absurd hends.2 Bool.noConfusion

/-- **The lower case of a text that is not settled is not found in that of some longer text.** -/
theorem not_infix_of_not_settled (h : ¬ Settled text) :
    ∃ before after, ¬ lowered text <:+: lowered (before ++ text ++ after) := by
  simp only [Settled, not_forall, not_or, not_and, exists_prop] at h
  obtain ⟨start, rest, rfl, hnext, hleft⟩ := h
  have hcased : meetsCased ['a'] := by decide +kernel
  have hlower : ∀ before after, loweredBetween before after ['a'] = ['a'] := fun _ _ => by
    simp [loweredBetween, lowerChar]
  rw [Bool.not_eq_true] at hnext
  by_cases hstart : ∃ c ∈ start, isIgnorable c = false
  · -- the sigma ends a word, but not before a cased character: there are too few final forms
    obtain ⟨hleft, hrest⟩ := hleft hstart
    rw [Bool.not_eq_false] at hleft
    have hall : ∀ c ∈ rest, isIgnorable c := by simpa using hrest
    have hopen : endsWord (start.reverse ++ []) (rest ++ ['a']) = false := by
      rw [endsWord, meetsCased_append_of_forall hall, hcased, Bool.not_true, Bool.and_false]
    have hclosed : endsWord (start.reverse ++ []) (rest ++ []) := by
      rw [endsWord, List.append_nil, List.append_nil, hleft, hnext]
      rfl
    refine ⟨[], ['a'], fun hinfix => ?_⟩
    have hle := hinfix.sublist.count_le 'ς'
    have hlt := (closes_behind.counts_lt hopen hclosed).1
    rw [lowered_append_append, hlower, lowered, lowerAfter_eq_loweredBetween] at hle
    simp [loweredBetween] at hle
    omega
  · -- the sigma ends no word, but behind a cased character: there are too many final forms
    have hall : ∀ c ∈ start.reverse, isIgnorable c := by simpa using hstart
    have hopen : endsWord (start.reverse ++ []) (rest ++ []) = false := by
      rw [endsWord, meetsCased_append_of_forall hall]
      rfl
    have hclosed : endsWord (start.reverse ++ ['a']) (rest ++ []) := by
      rw [endsWord, meetsCased_append_of_forall hall, List.append_nil, hcased, hnext]
      rfl
    refine ⟨['a'], [], fun hinfix => ?_⟩
    have hle := hinfix.sublist.count_le 'σ'
    have hlt := (closes_in_front.counts_lt hopen hclosed).2
    rw [lowered_append_append, hlower, lowered, lowerAfter_eq_loweredBetween] at hle
    simp [loweredBetween] at hle
    omega

end Accession.Text
