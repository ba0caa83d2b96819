import Accession.Decimal.Integer

/-!
# Doubles as exact numbers

* `Binary` : a number `± mantissa · 2 ^ exponent`; `Binary.ofFloat?` gives what the bits of a
  finite double denote.
* `Binary.whole?` : the integer that a number is, if it is one.
* `Binary.scaled` : a multiple of the magnitude rounded to the nearest natural number.
* `Binary.fixed` : decimal text with a fixed number of places.
-/

namespace Accession.Decimal

/-- The number `mantissa · 2 ^ exponent`, negated if `negative`. -/
structure Binary where
  negative : Bool
  mantissa : Nat
  exponent : Int
  deriving DecidableEq, Repr

/-- The quotient rounded to the nearest natural number, a half to the even neighbour. -/
def roundedDiv (num den : Nat) : Nat :=
  let q := num / den
  let r := num % den
  if 2 * r < den then q else if den < 2 * r then q + 1 else q + q % 2

namespace Binary

/-- The number that the bits of a double denote; infinities and what is not a number have none. -/
def ofFloat? (x : Float) : Option Binary :=
  let bits := x.toBits.toNat
  let negative : Bool := bits / Nat.pow 2 63 == 1
  let exponent : Nat := bits / Nat.pow 2 52 % 2048
  let fraction : Nat := bits % Nat.pow 2 52
  if exponent == 2047 then none
  else if exponent == 0 then some ⟨negative, fraction, -1074⟩
  else some ⟨negative, Nat.pow 2 52 + fraction, (exponent : Int) - 1075⟩

/-- The magnitude as a numerator over a power of two. -/
def fraction (b : Binary) : Nat × Nat :=
  (b.mantissa * Nat.pow 2 b.exponent.toNat, Nat.pow 2 (-b.exponent).toNat)

/-- The integer that the number is, if it is whole. -/
def whole? (b : Binary) : Option Int :=
  let (num, den) := b.fraction
  if num % den == 0 then
    some (if b.negative then -((num / den : Nat) : Int) else ((num / den : Nat) : Int))
  else none

/-- The magnitude times `factor`, rounded to the nearest natural number. -/
def scaled (factor : Nat) (b : Binary) : Nat :=
  let (num, den) := b.fraction
  roundedDiv (num * factor) den

/-- Decimal text with `places` places after the point. -/
def fixed (places : Nat) (b : Binary) : String :=
  let units := b.scaled (Nat.pow 10 places)
  let digits := Nat.toDigits 10 units
  let padded := List.replicate (places + 1 - digits.length) '0' ++ digits
  let (whole, rest) := padded.splitAt (padded.length - places)
  String.ofList ((if b.negative then ['-'] else []) ++ whole
    ++ (if places = 0 then [] else '.' :: rest))

end Binary

end Accession.Decimal
