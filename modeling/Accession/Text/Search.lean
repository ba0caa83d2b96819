/-!
# Finding and cutting text

* `occursIn` : a needle stands somewhere in a text, as consecutive characters, which is to say that
  the text is the needle between two others (`occursIn_iff_infix`, `infix_toList_iff`).
* `pieces` : a text cut at the successive occurrences of a delimiter.
-/

namespace Accession.Text

/-- The needle occurs in the text as consecutive characters. -/
def occursIn (needle : List Char) : List Char → Bool
  | [] => needle.isEmpty
  | c :: text => needle.isPrefixOf (c :: text) || occursIn needle text

theorem occursIn_self (text : List Char) : occursIn text text := by
  cases text with
  | nil => rfl
  | cons c text => simp [occursIn]

theorem occursIn_iff_infix {needle text : List Char} :
    occursIn needle text ↔ needle <:+: text := by
  induction text with
  | nil => simp [occursIn]
  | cons c text ih =>
    rw [occursIn, Bool.or_eq_true, List.isPrefixOf_iff_prefix, ih, List.infix_cons_iff]

/-- Consecutive characters of a text stand between two others. -/
theorem infix_toList_iff {needle text : String} :
    needle.toList <:+: text.toList ↔ ∃ before after, text = before ++ needle ++ after := by
  constructor
  · rintro ⟨before, after, h⟩
    refine ⟨String.ofList before, String.ofList after, ?_⟩
    rw [← String.toList_inj, String.toList_append, String.toList_append, String.toList_ofList,
      String.toList_ofList, h]
  · rintro ⟨before, after, rfl⟩
    refine ⟨before.toList, after.toList, ?_⟩
    rw [String.toList_append, String.toList_append]

/-- The text cut at the occurrences of `delimiter`, taken from left to right without overlap;
`skip` counts the characters of an occurrence that are still to be passed, and `piece` holds the
current piece, last character first. -/
def piecesFrom (delimiter : List Char) : Nat → List Char → List Char → List (List Char)
  | _, piece, [] => [piece.reverse]
  | skip + 1, piece, _ :: text => piecesFrom delimiter skip piece text
  | 0, piece, c :: text =>
    if delimiter.isPrefixOf (c :: text) then
      piece.reverse :: piecesFrom delimiter (delimiter.length - 1) [] text
    else
      piecesFrom delimiter 0 (c :: piece) text

/-- The parts of a text between the successive occurrences of a non-empty delimiter; one part
more than there are occurrences, and parts may be empty. -/
def pieces (delimiter text : List Char) : List (List Char) := piecesFrom delimiter 0 [] text

/-- The parts of a text between the occurrences of a delimiter. -/
def split (delimiter text : String) : List String :=
  (pieces delimiter.toList text.toList).map String.ofList

/-- What follows `start` in a text that begins with it. -/
def after? (start text : String) : Option String :=
  (start.toList.isPrefixOf? text.toList).map String.ofList

end Accession.Text
