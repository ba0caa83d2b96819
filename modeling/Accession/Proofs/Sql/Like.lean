import Accession.Proofs.Sql.Pattern

/-!
# What a pattern says

A database tries a pattern against a text character by character, and takes back what it tried when
a `%` has taken too much.  Whether a text matches does not depend on how that is done: `Like` says
by rules what a pattern stands for, with no search in it.

* `Like` : the rules, one for each way in which a pattern may begin.
* `like?_eq_some_true_iff` : the matcher finds exactly the texts that the rules allow.  A pattern
  that ends in a backslash which escapes nothing allows none, and the matcher refuses it.
* `needle_matched_literally` : whatever characters a needle has, its pattern stands for the texts
  in which it occurs.
-/

namespace Accession.Sql

/-- The whole text is what the pattern stands for. -/
inductive Like : List Char → List Char → Prop
  | nil : Like [] []
  /-- A `%` stands for any characters, or for none. -/
  | anyText {pattern text : List Char} (before : List Char) (rest : Like pattern text) :
      Like ('%' :: pattern) (before ++ text)
  /-- A `_` stands for any one character. -/
  | anyChar {pattern text : List Char} (c : Char) (rest : Like pattern text) :
      Like ('_' :: pattern) (c :: text)
  /-- A backslash makes the next character, whatever it is, stand for itself. -/
  | escaped {pattern text : List Char} (c : Char) (rest : Like pattern text) :
      Like ('\\' :: c :: pattern) (c :: text)
  /-- All other characters stand for themselves. -/
  | char {pattern text : List Char} {c : Char} (hc : c ≠ '%' ∧ c ≠ '_' ∧ c ≠ '\\')
      (rest : Like pattern text) : Like (c :: pattern) (c :: text)

variable {pattern text : List Char} {parts : List PatternPart} {c : Char}

/-! ### The rules read backwards -/

theorem like_nil_iff : Like [] text ↔ text = [] := by
  constructor
  · rintro ⟨⟩
    rfl
  · rintro rfl
    exact .nil

theorem like_anyText_iff :
    Like ('%' :: pattern) text ↔ ∃ rest, rest <:+ text ∧ Like pattern rest := by
  constructor
  · intro h
    cases h with
    | anyText before rest => exact ⟨_, List.suffix_append before _, rest⟩
    | char hc _ => exact absurd rfl hc.1
  · rintro ⟨rest, ⟨before, rfl⟩, hrest⟩
    exact .anyText before hrest

theorem like_anyChar_iff :
    Like ('_' :: pattern) text ↔ ∃ d rest, text = d :: rest ∧ Like pattern rest := by
  constructor
  · intro h
    cases h with
    | anyChar d rest => exact ⟨d, _, rfl, rest⟩
    | char hc _ => exact absurd rfl hc.2.1
  · rintro ⟨d, rest, rfl, hrest⟩
    exact .anyChar d hrest

theorem like_escaped_iff :
    Like ('\\' :: c :: pattern) text ↔ ∃ rest, text = c :: rest ∧ Like pattern rest := by
  constructor
  · intro h
    cases h with
    | escaped _ rest => exact ⟨_, rfl, rest⟩
    | char hc _ => exact absurd rfl hc.2.2
  · rintro ⟨rest, rfl, hrest⟩
    exact .escaped c hrest

theorem like_char_iff (hc : c ≠ '%' ∧ c ≠ '_' ∧ c ≠ '\\') :
    Like (c :: pattern) text ↔ ∃ rest, text = c :: rest ∧ Like pattern rest := by
  constructor
  · intro h
    cases h with
    | anyText _ _ => exact absurd rfl hc.1
    | anyChar _ _ => exact absurd rfl hc.2.1
    | escaped _ _ => exact absurd rfl hc.2.2
    | char _ rest => exact ⟨_, rfl, rest⟩
  · rintro ⟨rest, rfl, hrest⟩
    exact .char hc hrest

/-! ### The matcher -/

theorem matchesParts_anyChar : matchesParts (.anyChar :: parts) text ↔
    ∃ d rest, text = d :: rest ∧ matchesParts parts rest := by
  cases text with
  | nil => simp [matchesParts]
  | cons d text => simp [matchesParts]

theorem matchesParts_char : matchesParts (.char c :: parts) text ↔
    ∃ rest, text = c :: rest ∧ matchesParts parts rest := by
  change matchesParts ([c].map .char ++ parts) text ↔ _
  exact matchesParts_chars

/-- The search goes through the rules: the parts of a pattern match what the pattern stands for. -/
theorem matchesParts_iff_like (h : patternParts? pattern = some parts) :
    matchesParts parts text ↔ Like pattern text := by
  -- along the reading of the pattern, which takes one part for each rule
  fun_induction patternParts? pattern generalizing parts text with
  | case1 =>
    cases h
    rw [matchesParts, List.isEmpty_iff, like_nil_iff]
  | case2 => cases h
  | case3 c pattern ih =>
    obtain ⟨parts, hparts, rfl⟩ := Option.map_eq_some_iff.1 h
    simp only [matchesParts_char, like_escaped_iff, ih hparts]
  | case4 pattern ih =>
    obtain ⟨parts, hparts, rfl⟩ := Option.map_eq_some_iff.1 h
    simp only [matchesParts_anyText, like_anyText_iff, ih hparts]
  | case5 pattern ih =>
    obtain ⟨parts, hparts, rfl⟩ := Option.map_eq_some_iff.1 h
    simp only [matchesParts_anyChar, like_anyChar_iff, ih hparts]
  | case6 c pattern hlone hescape hpercent hunderscore ih =>
    obtain ⟨parts, hparts, rfl⟩ := Option.map_eq_some_iff.1 h
    have hbackslash : c ≠ '\\' := by
      rintro rfl
      cases pattern with
      | nil => exact hlone rfl rfl
      | cons d pattern => exact hescape d pattern rfl rfl
    simp only [matchesParts_char, like_char_iff ⟨hpercent, hunderscore, hbackslash⟩, ih hparts]

/-- A pattern that stands for some text can be read. -/
theorem Like.isSome_parts (h : Like pattern text) : (patternParts? pattern).isSome := by
  induction h with
  | nil => rfl
  | anyText _ _ ih => simpa [patternParts?] using ih
  | anyChar _ _ ih => simpa [patternParts?] using ih
  | escaped _ _ ih => simpa [patternParts?] using ih
  | char hc _ ih => simpa [patternParts?, hc] using ih

/-- **The matcher finds what the rules allow**, and nothing else. -/
theorem like?_eq_some_true_iff : like? pattern text = some true ↔ Like pattern text := by
  constructor
  · intro h
    obtain ⟨parts, hparts, hmatch⟩ := Option.map_eq_some_iff.1 h
    exact (matchesParts_iff_like hparts).1 hmatch
  · intro h
    obtain ⟨parts, hparts⟩ := Option.isSome_iff_exists.1 h.isSome_parts
    rw [like?, hparts, Option.map_some, (matchesParts_iff_like hparts).2 h]

/-! ### Patterns of needles -/

/-- **A needle is matched literally.**  Escaped and put between two `%`, it stands for the texts in
which it occurs, though it may consist of wildcards and backslashes itself. -/
theorem needle_matched_literally (needle text : String) :
    Like ('%' :: escapePattern needle.toList ++ ['%']) text.toList ↔
      ∃ before after, text = before ++ needle ++ after := by
  change Like (containsPattern needle.toList) text.toList ↔ _
  rw [← like?_eq_some_true_iff, like?_containsPattern, Option.some_inj, Text.occursIn_iff_infix,
    Text.infix_toList_iff]

/-- A backslash and a percent sign are sought as they are. -/
example : like? (containsPattern ['\\', '%']) ['5', '\\', '%', '!'] = some true ∧
    like? (containsPattern ['\\', '%']) ['5', '%', '!'] = some false := by decide

end Accession.Sql
