import Accession.Decimal.Layout
import Accession.Decimal.Reader
import Accession.Text.Quoted
import Accession.Yaml.Cursor

/-!
# YAML values

* `Yaml` : a value, with the kind that a scalar without quotes has by its form.
* `Yaml.ofPlain` : the value of a scalar without quotes.
* `Yaml.ofTyped` : the value of a scalar with a tag.
* `Yaml.same` : when two values count as the same key.
* `Yaml.display` : a value written out with its kinds.
-/

namespace Accession

/-- A YAML value. -/
inductive Yaml where
  | null
  | bool (b : Bool)
  | integer (i : Int)
  | float (x : Float)
  | text (s : String)
  | sequence (items : List Yaml)
  | mapping (entries : List (Yaml × Yaml))
  | tagged (tag : String) (value : Yaml)

namespace Yaml

/-! ### Scalars -/

/-- The scalars for null. -/
def nullWords : List String := ["null", "Null", "NULL", "~"]

/-- The truth value that a scalar names. -/
def readBool? (s : String) : Option Bool :=
  if ["true", "True", "TRUE"].contains s then some true
  else if ["false", "False", "FALSE"].contains s then some false
  else none

/-- The number of an unsigned integer: decimal, or after `0x`, `0o` or `0b` in another base. -/
def readUnsigned? : List Char → Option Nat
  | '0' :: 'x' :: digits => Decimal.readDigits? 16 digits
  | '0' :: 'o' :: digits => Decimal.readDigits? 8 digits
  | '0' :: 'b' :: digits => Decimal.readDigits? 2 digits
  | digits => Decimal.readDigits? 10 digits

/-- Decimal digits of which the first is a zero, and not the only one. -/
def leadingZero : List Char → Bool
  | '0' :: d :: digits => (d :: digits).all Char.isDigit
  | _ => false

/-- The integer of a scalar, with an optional sign; digits after a leading zero are none. -/
def readInteger? (cs : List Char) : Option Int :=
  let (negative, magnitude) := match cs with
    | '+' :: cs => (false, cs)
    | '-' :: cs => (true, cs)
    | cs => (false, cs)
  if leadingZero magnitude then none
  else (readUnsigned? magnitude).map fun n => if negative then -(n : Int) else n

/-- The integer fits a 64-bit word, signed or unsigned. -/
def fitsWord (i : Int) : Bool := -0x8000000000000000 ≤ i && i < 0x10000000000000000

/-- The integer fits a 128-bit word, signed or unsigned. -/
def fitsLongWord (i : Int) : Bool :=
  -0x80000000000000000000000000000000 ≤ i && i < 0x100000000000000000000000000000000

/-- The scalars for infinity, without a sign. -/
def infinityWords : List String := [".inf", ".Inf", ".INF"]

/-- The scalars for what is not a number. -/
def nanWords : List String := [".nan", ".NaN", ".NAN"]

/-- The double of a scalar; a decimal too great for one is none. -/
def readFloat? (cs : List Char) : Option Float :=
  let unsigned := match cs with
    | '+' :: cs => if cs.head? = some '+' ∨ cs.head? = some '-' then [] else cs
    | cs => cs
  if infinityWords.contains (String.ofList unsigned) then some (Float.ofBits 0x7ff0000000000000)
  else if cs.head? = some '-' ∧ infinityWords.contains (String.ofList (cs.drop 1)) then
    some (Float.ofBits 0xfff0000000000000)
  else if nanWords.contains (String.ofList cs) then some (Float.ofBits 0x7ff8000000000000)
  else (Decimal.readFloat? unsigned).filter Float.isFinite

/-- The digits of a scalar after an optional sign start with a zero that is not the only one. -/
def hasLeadingZero (cs : List Char) : Bool :=
  match cs with
  | '+' :: cs => leadingZero cs
  | '-' :: cs => leadingZero cs
  | cs => leadingZero cs

/-- The integer of a scalar as a value; one that only fits a 128-bit word is refused, and a longer
one is none. -/
def ofInteger? (s : String) : Except Error (Option Yaml) :=
  match readInteger? s.toList with
  | none => .ok none
  | some i =>
    if fitsWord i then .ok (some (integer i))
    else if fitsLongWord i then .error .shape
    else .ok none

/-- The value of a scalar without quotes and tag, by its form. -/
def ofPlain (s : String) : Except Error Yaml :=
  if s = "" ∨ nullWords.contains s then .ok null
  else match readBool? s with
    | some b => .ok (bool b)
    | none =>
      match ofInteger? s with
      | .error e => .error e
      | .ok (some v) => .ok v
      | .ok none =>
        if hasLeadingZero s.toList then .ok (text s)
        else .ok (((readFloat? s.toList).map float).getD (text s))

/-- The start of the tags of the basic kinds. -/
def coreTag (kind : String) : String := "tag:yaml.org,2002:" ++ kind

/-- The value of a scalar whose tag names a basic kind; with any other tag it is a text. -/
def ofTyped (tag s : String) : Except Error Yaml :=
  if tag = coreTag "bool" then
    match readBool? s with
    | some b => .ok (bool b)
    | none => .error .shape
  else if tag = coreTag "int" then
    match ofInteger? s with
    | .ok (some v) => .ok v
    | _ => .error .shape
  else if tag = coreTag "float" then
    match readFloat? s.toList with
    | some x => .ok (float x)
    | none => .error .shape
  else if tag = coreTag "null" then
    if nullWords.contains s then .ok null else .error .shape
  else .ok (text s)

/-! ### Values -/

/-- The value without the tags around it. -/
def untagged : Yaml → Yaml
  | tagged _ v => v.untagged
  | v => v

/-- The text of a value that is one, tags aside. -/
def asText? (v : Yaml) : Option String :=
  match v.untagged with
  | text s => some s
  | _ => none

mutual

/-- Two values count as the same key: numbers by value, what is not a number included, mappings
without regard to order. -/
def same : Yaml → Yaml → Bool
  | null, null => true
  | bool b, bool c => b == c
  | integer i, integer j => i == j
  | float x, float y => x == y || (x.isNaN && y.isNaN)
  | text s, text t => s == t
  | sequence xs, sequence ys => sameItems xs ys
  | mapping xs, mapping ys => xs.length == ys.length && includes xs ys
  | tagged t v, tagged u w => t == u && same v w
  | _, _ => false

/-- The items are the same, one by one. -/
def sameItems : List Yaml → List Yaml → Bool
  | [], [] => true
  | x :: xs, y :: ys => same x y && sameItems xs ys
  | _, _ => false

/-- Every entry is one of the others. -/
def includes : List (Yaml × Yaml) → List (Yaml × Yaml) → Bool
  | [], _ => true
  | (k, v) :: rest, others =>
    others.any (fun o => same k o.1 && same v o.2) && includes rest others

end

/-! ### Writing out -/

/-- Numbers are written positionally while the exponent of the first digit is at least -5 and
below 16, with a point. -/
def number : Decimal.Layout where
  tie := .even
  positional := some (-5, 15)
  wholeSuffix := ".0"
  exponentPlus := ""
  nan := ".nan"
  infinity := ".inf"

mutual

/-- A value with its kinds. -/
def display : Yaml → String
  | null => "Null"
  | bool b => "Bool(" ++ toString b ++ ")"
  | integer i => "Number(" ++ toString i ++ ")"
  | float x => "Number(" ++ number.text x ++ ")"
  | text s => "String(" ++ Text.quoted s ++ ")"
  | sequence items => "Sequence [" ++ String.intercalate ", " (displayItems items) ++ "]"
  | mapping entries =>
    "Mapping \x7b" ++ String.intercalate ", " (displayEntries entries) ++ "\x7d"
  | tagged tag v => "TaggedValue \x7b tag: !" ++ tag ++ ", value: " ++ v.display ++ " \x7d"

/-- The items of a sequence, each with its kinds. -/
def displayItems : List Yaml → List String
  | [] => []
  | v :: rest => v.display :: displayItems rest

/-- The entries of a mapping; a key that is a truth value, a number or a text is written
without its kind. -/
def displayEntries : List (Yaml × Yaml) → List String
  | [] => []
  | (k, v) :: rest => (displayKey k ++ ": " ++ v.display) :: displayEntries rest

/-- A key of a mapping. -/
def displayKey : Yaml → String
  | bool b => toString b
  | integer i => toString i
  | float x => number.text x
  | text s => Text.quoted s
  | v => v.display

end

end Yaml

end Accession
