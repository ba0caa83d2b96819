/-!
# Identifiers

An identifier is a letter or an underscore followed by letters, digits and underscores, all ASCII.
-/

namespace Accession.Text

/-- A character that may start an identifier. -/
def startsIdentifier (c : Char) : Bool := c.isAlpha || c == '_'

/-- A character that may follow in an identifier. -/
def continuesIdentifier (c : Char) : Bool := c.isAlphanum || c == '_'

/-- The characters spell an identifier. -/
def isIdentifier : List Char → Bool
  | [] => false
  | c :: cs => startsIdentifier c && cs.all continuesIdentifier

theorem ne_nil_of_isIdentifier {cs : List Char} (h : isIdentifier cs) : cs ≠ [] := by
  rintro rfl
  cases h

theorem continuesIdentifier_of_mem {cs : List Char} (h : isIdentifier cs) :
    ∀ c ∈ cs, continuesIdentifier c := by
  cases cs with
  | nil => simp
  | cons c cs =>
    rw [isIdentifier, Bool.and_eq_true, List.all_eq_true] at h
    refine List.forall_mem_cons.2 ⟨?_, h.2⟩
    -- a letter is a letter or a digit
    have hstart := h.1
    simp only [startsIdentifier, continuesIdentifier, Char.isAlphanum, Bool.or_eq_true] at hstart ⊢
    exact hstart.imp_left .inl

end Accession.Text
