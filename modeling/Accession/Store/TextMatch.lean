import Accession.Text.Casing
import Accession.Text.Search

/-!
# Matching text

A `TextMatch` says how a text column is compared with a needle, both in lower case.
-/

namespace Accession

/-- How a text column is compared. -/
inductive TextMatch where
  /-- The needle occurs in the text. -/
  | contains
  /-- The needle is the text. -/
  | exact
  deriving DecidableEq, Repr

namespace TextMatch

/-- The name of a mode. -/
def name : TextMatch → String
  | contains => "contains"
  | exact => "exact"

/-- The mode of a name. -/
def ofName? (name : String) : Option TextMatch :=
  [contains, exact].find? (·.name = name)

/-- The text matches the needle. -/
def holds (mode : TextMatch) (haystack needle : String) : Bool :=
  let text := Text.lowered haystack.toList
  let wanted := Text.lowered needle.toList
  match mode with
  | contains => Text.occursIn wanted text
  | exact => text == wanted

theorem holds_self (mode : TextMatch) (text : String) : mode.holds text text := by
  cases mode with
  | contains => exact Text.occursIn_self _
  | exact => simp [holds]

end TextMatch

end Accession
