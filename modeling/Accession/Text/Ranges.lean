/-!
# Character properties as ranges

A property of characters is written as the list of its runs of code points, in ascending order.
-/

namespace Accession.Text

/-- The character lies in one of the runs. -/
def inRanges (ranges : List (Nat × Nat)) (c : Char) : Bool :=
  ranges.any fun r => r.1 ≤ c.toNat && c.toNat ≤ r.2

end Accession.Text
