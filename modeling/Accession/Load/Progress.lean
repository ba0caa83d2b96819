import Accession.Decimal.Binary

/-!
# Progress of a load

* `Timespan` : a span of time in nanoseconds.
* `Progress.of?` : how far a load has come, and how long the rest will take at the same pace.
* `Progress.line` : the same in words.
-/

namespace Accession

/-- A span of time, in nanoseconds. -/
structure Timespan where
  nanoseconds : Nat
  deriving DecidableEq, Repr

namespace Timespan

/-- The nanoseconds of a second. -/
def perSecond : Nat := 1000000000

/-- The whole seconds of a span. -/
def seconds (t : Timespan) : Nat := t.nanoseconds / perSecond

/-- The nanoseconds of a span beyond its whole seconds. -/
def rest (t : Timespan) : Nat := t.nanoseconds % perSecond

/-- The whole seconds of a span fit a 64-bit word. -/
def fits (t : Timespan) : Bool := t.seconds < 0x10000000000000000

/-- The span in seconds, as a double. -/
def toFloat (t : Timespan) : Float :=
  Float.ofNat t.seconds + Float.ofNat t.rest / Float.ofNat perSecond

/-- The span of some seconds, rounded to the nearest nanosecond, a half to the even one; there is
none for a negative time, and none that does not fit. -/
def ofSeconds? (x : Float) : Option Timespan :=
  match Decimal.Binary.ofFloat? x with
  | none => none
  | some b =>
    if b.negative && b.mantissa != 0 then none
    else
      let t : Timespan := ⟨b.scaled perSecond⟩
      if t.fits then some t else none

end Timespan

/-- How far a load has come. -/
structure Progress where
  completed : Nat
  total : Nat
  elapsed : Timespan
  remaining : Timespan
  percent : Float

namespace Progress

/-- The part that is completed, in hundredths. -/
def percentOf (completed total : Nat) : Float :=
  if total = 0 then 100
  else Float.ofNat completed * 100 / Float.ofNat total

/-- The time that the rest will take at the pace so far; none before the first record and after
the last. -/
def remainingOf? (completed total : Nat) (elapsed : Timespan) : Option Timespan :=
  if completed = 0 ∨ total ≤ completed then some ⟨0⟩
  else
    Timespan.ofSeconds?
      (Float.ofNat (total - completed) / Float.ofNat completed * elapsed.toFloat)

/-- How far a load has come; there is no answer if the time that remains does not fit. -/
def of? (completed total : Nat) (elapsed : Timespan) : Option Progress :=
  (remainingOf? completed total elapsed).map fun remaining =>
    ⟨completed, total, elapsed, remaining, percentOf completed total⟩

/-- A double with one place after the point. -/
def oneDecimal (x : Float) : String :=
  match Decimal.Binary.ofFloat? x with
  | some b => b.fixed 1
  | none => ""

/-- How far a load has come, in words. -/
def line (p : Progress) : String :=
  toString p.completed ++ "/" ++ toString p.total
    ++ " elapsed " ++ oneDecimal p.elapsed.toFloat
    ++ "s remaining " ++ oneDecimal p.remaining.toFloat
    ++ "s (" ++ oneDecimal p.percent ++ "%)"

end Progress

end Accession
