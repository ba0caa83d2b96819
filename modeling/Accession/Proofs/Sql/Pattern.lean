import Accession.Store.Statement
import Mathlib.Data.List.Infix

/-!
# Patterns

In a pattern `%` stands for any text, `_` for any character, and a character after a backslash for
itself, as do all others.

* `patternParts?` : the parts of a pattern; one that ends in a single backslash is no pattern.
* `like?` : a pattern matches a text.
* `like?_containsPattern` : the pattern of a needle matches the texts in which the needle occurs,
  whatever characters the needle has.
-/

namespace Accession.Sql

/-- A part of a pattern. -/
inductive PatternPart where
  | anyText
  | anyChar
  | char (c : Char)
  deriving DecidableEq, Repr

/-- The parts of a pattern. -/
def patternParts? : List Char → Option (List PatternPart)
  | [] => some []
  | ['\\'] => none
  | '\\' :: c :: pattern => (patternParts? pattern).map (.char c :: ·)
  | '%' :: pattern => (patternParts? pattern).map (.anyText :: ·)
  | '_' :: pattern => (patternParts? pattern).map (.anyChar :: ·)
  | c :: pattern => (patternParts? pattern).map (.char c :: ·)

/-- The text consists of what the parts stand for. -/
def matchesParts : List PatternPart → List Char → Bool
  | [], text => text.isEmpty
  | .anyText :: parts, text => text.tails.any (matchesParts parts)
  | .anyChar :: parts, _ :: text => matchesParts parts text
  | .char c :: parts, d :: text => c == d && matchesParts parts text
  | _ :: _, [] => false

/-- The pattern matches the text. -/
def like? (pattern text : List Char) : Option Bool :=
  (patternParts? pattern).map (matchesParts · text)

variable {needle text pattern : List Char} {parts : List PatternPart}

theorem patternParts?_escapeChar (c : Char) (pattern : List Char) :
    patternParts? (escapeChar c ++ pattern) = (patternParts? pattern).map (.char c :: ·) := by
  rw [escapeChar]
  split
  · rfl
  · next h =>
    simp only [not_or] at h
    simp [patternParts?, h]

theorem patternParts?_escapePattern (needle pattern : List Char) :
    patternParts? (escapePattern needle ++ pattern) =
      (patternParts? pattern).map (needle.map .char ++ ·) := by
  induction needle with
  | nil => simp [escapePattern]
  | cons c needle ih =>
    have hcons : escapePattern (c :: needle) = escapeChar c ++ escapePattern needle := rfl
    rw [hcons, List.append_assoc, patternParts?_escapeChar, ih, Option.map_map]
    rfl

theorem matchesParts_chars : matchesParts (needle.map .char ++ parts) text ↔
    ∃ rest, text = needle ++ rest ∧ matchesParts parts rest := by
  induction needle generalizing text with
  | nil => simp
  | cons c needle ih =>
    cases text with
    | nil => simp [matchesParts]
    | cons d text =>
      rw [List.map_cons, List.cons_append, matchesParts, Bool.and_eq_true, ih, beq_iff_eq]
      constructor
      · rintro ⟨rfl, rest, rfl, hrest⟩
        exact ⟨rest, rfl, hrest⟩
      · rintro ⟨rest, htext, hrest⟩
        obtain ⟨rfl, rfl⟩ := List.cons.inj htext
        exact ⟨rfl, rest, rfl, hrest⟩

theorem matchesParts_anyText : matchesParts (.anyText :: parts) text ↔
    ∃ rest, rest <:+ text ∧ matchesParts parts rest := by
  simp only [matchesParts, List.any_eq_true, List.mem_tails]

theorem matchesParts_contains :
    matchesParts (.anyText :: (needle.map .char ++ [.anyText])) text ↔ needle <:+: text := by
  have htail : ∀ rest, matchesParts [.anyText] rest := fun rest =>
    matchesParts_anyText.2 ⟨[], List.nil_suffix, rfl⟩
  rw [matchesParts_anyText]
  constructor
  · rintro ⟨_, ⟨before, rfl⟩, hmatch⟩
    obtain ⟨rest, rfl, -⟩ := matchesParts_chars.1 hmatch
    exact ⟨before, rest, List.append_assoc _ _ _⟩
  · rintro ⟨before, rest, rfl⟩
    refine ⟨needle ++ rest, ⟨before, (List.append_assoc _ _ _).symm⟩, ?_⟩
    exact matchesParts_chars.2 ⟨rest, rfl, htail rest⟩

/-- The pattern of a needle matches exactly the texts in which the needle occurs. -/
theorem like?_containsPattern (needle text : List Char) :
    like? (containsPattern needle) text = some (Text.occursIn needle text) := by
  have hparts : patternParts? (containsPattern needle) =
      some (.anyText :: (needle.map .char ++ [.anyText])) := by
    rw [containsPattern, List.cons_append, patternParts?, patternParts?_escapePattern]
    rfl
  rw [like?, hparts, Option.map_some, Option.some.injEq, Bool.eq_iff_iff, matchesParts_contains,
    Text.occursIn_iff_infix]

end Accession.Sql
