import Accession.Store.TextMatch
import Accession.Store.Value

/-!
# Filters

A `Filter` is a conjunction of conditions on single columns; a row without a value in the column
of a condition does not meet it.
-/

namespace Accession

/-- A condition on the value of a column. -/
inductive Condition where
  /-- The value equals another. -/
  | equals (value : Value)
  /-- The text of the value matches a needle. -/
  | text (needle : String) (mode : TextMatch)

/-- Conditions by column, all of which are to hold. -/
abbrev Filter := List (String × Condition)

namespace Condition

/-- The value meets the condition. -/
def holds : Condition → Value → Bool
  | equals expected, actual => actual == expected
  | text needle mode, actual => mode.holds actual.display needle

end Condition

/-- The row meets every condition. -/
def Filter.holds (filter : Filter) (row : Row) : Bool :=
  filter.all fun c =>
    match Dict.get? row c.1 with
    | some actual => c.2.holds actual
    | none => false

theorem Filter.holds_cons {column : String} {condition : Condition} {filter : Filter} {row : Row} :
    Filter.holds ((column, condition) :: filter) row ↔
      (∃ v, row.get? column = some v ∧ condition.holds v) ∧ filter.holds row := by
  rw [Filter.holds, List.all_cons, Bool.and_eq_true]
  cases row.get? column <;> simp [Filter.holds]

end Accession
