import Accession.Decimal.Shortest

/-!
# Doubles in text

`readFloat?` reads a decimal with an optional sign, point and power of ten, or one of the words
for what has no digits, and rounds it to the nearest double.
-/

namespace Accession.Decimal

/-- The double nearest to a decimal. -/
def nearest (d : Scientific) : Float :=
  let size := (digitCount d.coefficient : Int) + d.exponent
  if d.coefficient = 0 ∨ size < -400 then 0
  else if 400 < size then Float.ofBits 0x7ff0000000000000
  else Float.ofScientific d.coefficient (d.exponent < 0) d.exponent.natAbs

/-- The characters in front that are ASCII digits, and what follows them. -/
def spanDigits (cs : List Char) : List Char × List Char := cs.span Char.isDigit

/-- The power of ten at the end of a decimal: nothing, or the letter `e` and a signed integer. -/
def readExponent? : List Char → Option Int
  | [] => some 0
  | c :: cs => if c = 'e' ∨ c = 'E' then readInteger? cs else none

/-- An unsigned decimal: digits with at most one point, at least one of them, and an optional
power of ten. -/
def readScientific? (cs : List Char) : Option Scientific :=
  let (whole, rest) := spanDigits cs
  let (places, rest) := match rest with
    | '.' :: rest => spanDigits rest
    | _ => ([], rest)
  match readDigits? 10 (whole ++ places), readExponent? rest with
  | some n, some e => some ⟨n, e - places.length⟩
  | _, _ => none

/-- An unsigned double: a decimal, or a word for infinity or for what is not a number, in any
case. -/
def readMagnitude? (cs : List Char) : Option Float :=
  let word := String.ofList (cs.map Char.toLower)
  if word = "inf" ∨ word = "infinity" then some (Float.ofBits 0x7ff0000000000000)
  else if word = "nan" then some (Float.ofBits 0x7ff8000000000000)
  else (readScientific? cs).map nearest

/-- The double that a text spells, with an optional sign. -/
def readFloat? : List Char → Option Float
  | '+' :: cs => readMagnitude? cs
  | '-' :: cs => (readMagnitude? cs).map fun x => -x
  | cs => readMagnitude? cs

end Accession.Decimal
