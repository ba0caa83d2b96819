import Accession.Decimal.Layout
import Accession.Decimal.Reader
import Accession.Dict
import Accession.Text.Blank
import Accession.Text.Casing

/-!
# Column values

* `Value` : a text, an integer, a double or a truth value; `ColumnType` : which of them a column
  holds.
* `Value.coerce` : the value as a column of some type stores it, if it can.
* `Value.display` : the text of a value.
* `Row` : values by column.
-/

namespace Accession

/-- A value of a column.  An integer is one of a 64-bit signed word; readers refuse others. -/
inductive Value where
  | text (s : String)
  | integer (i : Int)
  | float (x : Float)
  | boolean (b : Bool)

/-- What a column holds. -/
inductive ColumnType where
  | text
  | integer
  | float
  | boolean
  deriving DecidableEq, Repr

namespace ColumnType

/-- The name of a type. -/
def name : ColumnType → String
  | text => "text"
  | integer => "integer"
  | float => "float"
  | boolean => "boolean"

/-- The types in order, each with the names it may be declared by. -/
def declared : List (ColumnType × List String) :=
  [(text, ["text", "string", "varchar"]),
    (integer, ["integer", "int", "bigint"]),
    (float, ["float", "double", "real"]),
    (boolean, ["boolean", "bool"])]

/-- The type declared by a name. -/
def ofName? (name : String) : Option ColumnType :=
  (declared.find? fun t => t.2.contains name).map Prod.fst

end ColumnType

namespace Value

/-- Doubles are written with the fewest digits and no exponent, and whole ones without a point. -/
def columnText : Decimal.Layout where
  tie := .up
  positional := none
  wholeSuffix := ""
  exponentPlus := ""
  nan := "NaN"
  infinity := "inf"

/-- The text of a value. -/
def display : Value → String
  | text s => s
  | integer i => toString i
  | float x => columnText.text x
  | boolean b => toString b

/-- Two values are equal when they are of one kind and equal in it; doubles are compared as
numbers, so what is not a number equals nothing. -/
def equal : Value → Value → Bool
  | text s, text t => s == t
  | integer i, integer j => i == j
  | float x, float y => x == y
  | boolean b, boolean c => b == c
  | _, _ => false

instance : BEq Value := ⟨equal⟩

/-- The value is a double that is not a number. -/
def isNaN : Value → Bool
  | float x => x.isNaN
  | _ => false

theorem unpacked_beq_self {x : Float.Model.UnpackedFloat} (h : x.isNaN = false) : x.beq x := by
  cases x with
  | notANumber => cases h
  | infinity sign => cases sign <;> rfl
  | zero sign => rfl
  | finite sign mantissa exponent =>
    have hself : (compare exponent exponent).then (compare mantissa mantissa) = .eq := by
      rw [Std.ReflOrd.compare_self, Std.ReflOrd.compare_self]
      rfl
    cases sign with
    | positive => exact beq_iff_eq.2 (congrArg some hself)
    | negative => exact beq_iff_eq.2 (congrArg (fun o => some (Ordering.swap o)) hself)

theorem unpacked_beq_comm (x y : Float.Model.UnpackedFloat) : x.beq y = y.beq x := by
  have hswap : ∀ o : Ordering, (some o.swap == some .eq) = (some o == some .eq) := by decide
  cases x with
  | notANumber => cases y <;> rfl
  | infinity s => cases y with
    | infinity s' => cases s <;> cases s' <;> rfl
    | notANumber | zero _ | finite _ _ _ _ => cases s <;> rfl
  | zero s => cases y with
    | notANumber | zero _ => rfl
    | infinity s' | finite s' _ _ _ => cases s' <;> rfl
  | finite s m e hm => cases y with
    | notANumber | zero _ => cases s <;> rfl
    | infinity s' => cases s <;> cases s' <;> rfl
    | finite s' m' e' hm' =>
      have hsizes : (compare e' e).then (compare m' m) =
          ((compare e e').then (compare m m')).swap := by
        rw [Ordering.swap_then, ← Std.OrientedCmp.eq_swap, ← Std.OrientedCmp.eq_swap]
      -- only for doubles of one sign do the sizes matter
      cases s <;> cases s'
      · change _ = (some ((compare e' e).then (compare m' m)).swap == some .eq)
        rw [hsizes]
        exact (hswap _).symm
      · rfl
      · rfl
      · change _ = (some ((compare e' e).then (compare m' m)) == some .eq)
        rw [hsizes]
        exact (hswap _).symm

/-- Equality of values goes both ways. -/
theorem beq_comm (v w : Value) : (v == w) = (w == v) := by
  cases v <;> cases w <;> try rfl
  case text.text s t => exact BEq.comm (a := s) (b := t)
  case integer.integer i j => exact BEq.comm (a := i) (b := j)
  case float.float x y => exact unpacked_beq_comm _ _
  case boolean.boolean b c => exact BEq.comm (a := b) (b := c)

/-- Every value but one that is not a number equals itself. -/
theorem beq_self {v : Value} (h : v.isNaN = false) : v == v := by
  cases v with
  | float x => exact unpacked_beq_self h
  | text s => exact BEq.rfl (a := s)
  | integer i => exact BEq.rfl (a := i)
  | boolean b => exact BEq.rfl (a := b)

/-- What is not a number equals nothing. -/
theorem isNaN_of_beq {v w : Value} (h : v == w) : w.isNaN = false := by
  have hfloat : ∀ x y : Float.Model.UnpackedFloat, x.beq y → y.isNaN = false := by
    intro x y hxy
    cases y with
    | notANumber => cases x <;> cases hxy
    | infinity | zero | finite => rfl
  cases w with
  | float y => cases v with
    | float x => exact hfloat _ _ h
    | text | integer | boolean => cases h
  | text | integer | boolean => rfl

theorem eq_text_of_beq {v : Value} {s : String} (h : v == text s) : v = text s := by
  cases v with
  | text t => rw [eq_of_beq (a := t) h]
  | _ => cases h

/-- Words for true. -/
def trueWords : List String := ["true", "t", "yes", "y", "1"]

/-- Words for false. -/
def falseWords : List String := ["false", "f", "no", "n", "0"]

/-- The truth value that a word names, in any case and with white space around it. -/
def readBoolean? (s : String) : Option Bool :=
  let word := Text.lower (Text.trim s)
  if trueWords.contains word then some true
  else if falseWords.contains word then some false
  else none

/-- The integer that a double without a fraction stands for, at most as far as the ends of the
64-bit range. -/
def integerOfFloat? (x : Float) : Option Int :=
  ((Decimal.Binary.ofFloat? x).bind (·.whole?)).map Decimal.clampWord

/-- The value as a column of the type stores it. -/
def coerce : ColumnType → Value → Option Value
  | .text, v => some (text v.display)
  | .integer, integer i => some (integer i)
  | .integer, text s => (Decimal.readWord? (Text.trimmed s.toList)).map integer
  | .integer, float x => (integerOfFloat? x).map integer
  | .integer, boolean _ => none
  | .float, float x => some (float x)
  | .float, integer i => some (float (Float.ofInt i))
  | .float, text s => (Decimal.readFloat? (Text.trimmed s.toList)).map float
  | .float, boolean _ => none
  | .boolean, boolean b => some (boolean b)
  | .boolean, integer i =>
    if i = 0 then some (boolean false) else if i = 1 then some (boolean true) else none
  | .boolean, text s => (readBoolean? s).map boolean
  | .boolean, float _ => none

/-- What kind of column holds values of this kind. -/
def type : Value → ColumnType
  | text _ => .text
  | integer _ => .integer
  | float _ => .float
  | boolean _ => .boolean

theorem type_of_coerce {type : ColumnType} {v w : Value} (h : v.coerce type = some w) :
    w.type = type := by
  cases type with
  | text =>
    cases h
    rfl
  | integer => cases v with
    | text _ | float _ =>
      rw [coerce, Option.map_eq_some_iff] at h
      obtain ⟨_, -, rfl⟩ := h
      rfl
    | integer _ =>
      cases h
      rfl
    | boolean _ => cases h
  | float => cases v with
    | text _ =>
      rw [coerce, Option.map_eq_some_iff] at h
      obtain ⟨_, -, rfl⟩ := h
      rfl
    | integer _ | float _ =>
      cases h
      rfl
    | boolean _ => cases h
  | boolean => cases v with
    | text _ =>
      rw [coerce, Option.map_eq_some_iff] at h
      obtain ⟨_, -, rfl⟩ := h
      rfl
    | integer i =>
      -- only zero and one are truth values
      rw [coerce] at h
      split at h
      · cases h
        rfl
      · split at h
        · cases h
          rfl
        · cases h
    | boolean _ =>
      cases h
      rfl
    | float _ => cases h

/-- The text of a value that is one. -/
def asText? : Value → Option String
  | text s => some s
  | _ => none

end Value

/-- Values by column, in the order in which the columns were bound. -/
abbrev Row := Dict String Value

end Accession
