/-!
# Integers in text

* `readDigits?` : one or more digits of a base and nothing else.
* `readInteger?` : decimal digits after an optional sign.
* `readWord?` : the same, within the range of a 64-bit signed word.
-/

namespace Accession.Decimal

/-- The value of a digit, in bases up to sixteen. -/
def digitValue? (c : Char) : Option Nat :=
  if c.isDigit then some (c.toNat - '0'.toNat)
  else if 'a' ≤ c ∧ c ≤ 'f' then some (c.toNat - 'a'.toNat + 10)
  else if 'A' ≤ c ∧ c ≤ 'F' then some (c.toNat - 'A'.toNat + 10)
  else none

/-- The value of a digit of the base. -/
def digitIn? (base : Nat) (c : Char) : Option Nat := (digitValue? c).filter (· < base)

/-- The number that the digits continue, read so far as `value`. -/
def continueDigits? (base : Nat) : Nat → List Char → Option Nat
  | value, [] => some value
  | value, c :: cs => (digitIn? base c).bind fun d => continueDigits? base (value * base + d) cs

/-- The number that one or more digits of the base spell. -/
def readDigits? (base : Nat) (cs : List Char) : Option Nat :=
  if cs.isEmpty then none else continueDigits? base 0 cs

/-- The integer that an optional sign and one or more decimal digits spell. -/
def readInteger? : List Char → Option Int
  | '+' :: cs => (readDigits? 10 cs).map Int.ofNat
  | '-' :: cs => (readDigits? 10 cs).map fun n => -(n : Int)
  | cs => (readDigits? 10 cs).map Int.ofNat

/-- The least integer of a 64-bit signed word. -/
def wordMin : Int := -0x8000000000000000

/-- The greatest integer of a 64-bit signed word. -/
def wordMax : Int := 0x7FFFFFFFFFFFFFFF

/-- The integer fits a 64-bit signed word. -/
def fitsWord (i : Int) : Bool := wordMin ≤ i && i ≤ wordMax

/-- The nearest integer that fits a 64-bit signed word. -/
def clampWord (i : Int) : Int := max wordMin (min i wordMax)

/-- The integer spelled in decimal, if it fits a 64-bit signed word. -/
def readWord? (cs : List Char) : Option Int := (readInteger? cs).filter fitsWord

end Accession.Decimal
