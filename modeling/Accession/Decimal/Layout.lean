import Accession.Decimal.Shortest

/-!
# Layouts of decimal text

A `Layout` settles how the digits of a double are written: where positional notation ends, the
form of whole numbers and of exponents, and the texts of what has no digits.
-/

namespace Accession.Decimal

/-- How a double is written. -/
structure Layout where
  /-- Which of two equally near decimals is written. -/
  tie : Tie
  /-- The decimal exponents of the first digit that are written positionally; `none` for all. -/
  positional : Option (Int × Int)
  /-- What follows a whole number in positional notation. -/
  wholeSuffix : String
  /-- What stands before a non-negative exponent. -/
  exponentPlus : String
  /-- The text of what is not a number. -/
  nan : String
  /-- The text of positive infinity. -/
  infinity : String

namespace Layout

/-- The digits with the point after the first `1 + exponent` of them. -/
def positionalText (l : Layout) (digits : List Char) (exponent : Int) : String :=
  if exponent < 0 then
    String.ofList ("0.".toList ++ List.replicate (-exponent - 1).toNat '0' ++ digits)
  else
    let whole := exponent.toNat + 1
    if digits.length ≤ whole then
      String.ofList (digits ++ List.replicate (whole - digits.length) '0') ++ l.wholeSuffix
    else
      String.ofList (digits.take whole ++ '.' :: digits.drop whole)

/-- The digits with the point after the first one, and a power of ten. -/
def scientificText (l : Layout) (digits : List Char) (exponent : Int) : String :=
  String.ofList (digits.take 1 ++ (if digits.length ≤ 1 then [] else '.' :: digits.drop 1))
    ++ "e" ++ (if exponent < 0 then "" else l.exponentPlus) ++ toString exponent

/-- The text of a magnitude. -/
def magnitudeText (l : Layout) (b : Binary) : String :=
  if b.mantissa = 0 then l.positionalText ['0'] 0
  else
    let d := shortest l.tie b
    let digits := Nat.toDigits 10 d.coefficient
    let exponent := d.exponent + digits.length - 1
    match l.positional with
    | none => l.positionalText digits exponent
    | some (least, greatest) =>
      if least ≤ exponent ∧ exponent ≤ greatest then l.positionalText digits exponent
      else l.scientificText digits exponent

/-- The text of a double. -/
def text (l : Layout) (x : Float) : String :=
  match Binary.ofFloat? x with
  | some b => (if b.negative then "-" else "") ++ l.magnitudeText b
  | none => if x.isNaN then l.nan else if x < 0 then "-" ++ l.infinity else l.infinity

end Layout

end Accession.Decimal
