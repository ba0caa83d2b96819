import Accession.Decimal.Binary

/-!
# The shortest decimal that reads back

A double stands for every real number that rounds to it.  Among the decimals in that interval,
`Decimal.shortest` takes one with the fewest digits, and of those the nearest to the double.

* `Scientific` : a decimal `coefficient · 10 ^ exponent`.
* `Span` : the interval around a double, in quarters of its last place.
* `shortest` : the first decimal grid, from coarse to fine, on which a neighbour of the double lies
  in its interval.
-/

namespace Accession.Decimal

/-- The decimal `coefficient · 10 ^ exponent`. -/
structure Scientific where
  coefficient : Nat
  exponent : Int
  deriving DecidableEq, Repr

/-- Which of two decimals at the same distance is taken. -/
inductive Tie where
  /-- The greater one. -/
  | up
  /-- The one whose last digit is even. -/
  | even
  deriving DecidableEq, Repr

/-- The numbers that round to a double, as multiples of `2 ^ exponent`. -/
structure Span where
  low : Nat
  value : Nat
  high : Nat
  exponent : Int
  /-- The ends belong to the interval. -/
  closed : Bool

/-- The interval of a positive double: half a unit of the last place to either side, less below a
power of two. -/
def Span.ofBinary (b : Binary) : Span :=
  -- the next double below is half as far away, except at the least exponent
  let narrow := b.mantissa == Nat.pow 2 52 && -1074 < b.exponent
  { low := 4 * b.mantissa - (if narrow then 1 else 2)
    value := 4 * b.mantissa
    high := 4 * b.mantissa + 2
    exponent := b.exponent - 2
    closed := b.mantissa % 2 == 0 }

/-- The number of decimal digits; none for zero. -/
def digitCount (n : Nat) : Nat := if n = 0 then 0 else (Nat.toDigits 10 n).length

/-- The least `k` with the magnitude below `10 ^ k`. -/
def magnitude (b : Binary) : Int :=
  let (num, den) := b.fraction
  if den ≤ num then digitCount (num / den)
  else 1 - (digitCount ((den + num - 1) / num - 1) : Int)

namespace Span

/-- A grid of step `10 ^ g` and the unit of the span over a common denominator: the step and the
unit as natural numbers. -/
def scales (s : Span) (g : Int) : Nat × Nat :=
  (Nat.pow 10 g.toNat * Nat.pow 2 (-s.exponent).toNat,
    Nat.pow 10 (-g).toNat * Nat.pow 2 s.exponent.toNat)

/-- The multiple `c` of the step lies in the interval. -/
def holds (s : Span) (step unit c : Nat) : Bool :=
  if s.closed then s.low * unit ≤ c * step && c * step ≤ s.high * unit
  else s.low * unit < c * step && c * step < s.high * unit

/-- The neighbour of the double on the grid of step `10 ^ g` that reads back, the nearer one if
both do. -/
def onGrid? (tie : Tie) (s : Span) (g : Int) : Option Nat :=
  let (step, unit) := s.scales g
  let below := s.value * unit / step
  let rest := s.value * unit % step
  match s.holds step unit below, s.holds step unit (below + 1) with
  | true, false => some below
  | false, true => some (below + 1)
  | false, false => none
  | true, true =>
    if 2 * rest < step then some below
    else if step < 2 * rest then some (below + 1)
    else match tie with
      | .up => some (below + 1)
      | .even => some (below + below % 2)

end Span

/-- Drops zeros at the end of the coefficient, at most `fuel` of them. -/
def Scientific.withoutZeros : Nat → Scientific → Scientific
  | 0, d => d
  | fuel + 1, d =>
    if d.coefficient % 10 = 0 then withoutZeros fuel ⟨d.coefficient / 10, d.exponent + 1⟩ else d

/-- The shortest decimal that reads back as the double of this positive magnitude; seventeen
digits always suffice. -/
def shortest (tie : Tie) (b : Binary) : Scientific :=
  let span := Span.ofBinary b
  let top := magnitude b
  -- from the coarsest grid on; the first one with a decimal in the span has the fewest digits
  let grids := (List.range 17).map fun (n : Nat) => top - n - 1
  match grids.findSome? fun g => (span.onGrid? tie g).map fun c => Scientific.mk c g with
  | some d => d.withoutZeros 18
  | none => ⟨0, 0⟩

end Accession.Decimal
