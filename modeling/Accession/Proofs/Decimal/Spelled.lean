import Mathlib.Data.Nat.Digits.Defs
import Mathlib.Tactic.Ring
import Accession.Decimal.Integer
import Accession.Proofs.Text.Blanks

/-!
# Integers as they are spelled

An integer is spelled by decimal digits, which may begin with zeros, after an optional sign.  The
reader goes through the digits from the left and keeps the value of those it has read; what they
mean is a sum over their places, and the two are the same.

* `placeValue` : the number that digits stand for.
* `Spelled` : the spellings of an integer.
* `readInteger?_eq_some_iff` : the reader accepts the spellings and nothing else, with their
  integer.
* `spelled_toString` : an integer is written in one of its spellings.
-/

namespace Accession.Decimal

variable {digits cs : List Char} {c : Char} {i : ℤ}

/-- The value of a digit. -/
def digitOf (c : Char) : ℕ := c.toNat - '0'.toNat

/-- The number that digits stand for: each counts as often as a power of ten says, those of the last
being one, of the last but one ten, and so on. -/
def placeValue (digits : List Char) : ℕ := Nat.ofDigits 10 (digits.reverse.map digitOf)

/-- One or more digits, and nothing else. -/
structure Numeral (digits : List Char) : Prop where
  nonempty : digits ≠ []
  isDigit : ∀ c ∈ digits, c.isDigit

/-- An optional sign and one or more digits that stand for the integer. -/
inductive Spelled : List Char → ℤ → Prop
  | plain {digits : List Char} (h : Numeral digits) : Spelled digits (placeValue digits)
  | plus {digits : List Char} (h : Numeral digits) : Spelled ('+' :: digits) (placeValue digits)
  | minus {digits : List Char} (h : Numeral digits) : Spelled ('-' :: digits) (-placeValue digits)

/-! ### The value of digits -/

theorem placeValue_cons (c : Char) (digits : List Char) :
    placeValue (c :: digits) = placeValue digits + 10 ^ digits.length * digitOf c := by
  rw [placeValue, List.reverse_cons, List.map_append, Nat.ofDigits_append, List.length_map,
    List.length_reverse, List.map_singleton, Nat.ofDigits_singleton, placeValue]

/-- Digits that go on after others move these to higher places. -/
theorem ofDigitChars_eq (value : ℕ) (digits : List Char) :
    Nat.ofDigitChars 10 digits value = placeValue digits + 10 ^ digits.length * value := by
  -- the value so far is left open, as it grows with each digit
  induction digits generalizing value with
  | nil => simp [placeValue]
  | cons c digits ih =>
    rw [Nat.ofDigitChars_cons, ih, placeValue_cons, List.length_cons, digitOf]
    ring

theorem placeValue_eq_ofDigitChars (digits : List Char) :
    placeValue digits = Nat.ofDigitChars 10 digits 0 := by
  rw [ofDigitChars_eq, Nat.mul_zero, Nat.add_zero]

/-! ### The reader -/

theorem digitOf_lt (h : c.isDigit) : digitOf c < 10 := by
  have hbounds := Char.isDigit_iff_toNat.1 h
  have hzero : '0'.toNat = 48 := rfl
  have hnine : '9'.toNat = 57 := rfl
  rw [digitOf]
  omega

/-- Letters are digits of greater bases only. -/
theorem digitIn?_ten (c : Char) :
    digitIn? 10 c = if c.isDigit then some (digitOf c) else none := by
  rw [digitIn?, digitValue?]
  split
  · next h => exact Option.filter_some_pos (decide_eq_true (digitOf_lt h))
  · split
    · simp
    · split
      · simp
      · rfl

theorem continueDigits?_ten (value : ℕ) (cs : List Char) :
    continueDigits? 10 value cs =
      if cs.all Char.isDigit then some (Nat.ofDigitChars 10 cs value) else none := by
  induction cs generalizing value with
  | nil => rfl
  | cons c cs ih =>
    rw [continueDigits?, digitIn?_ten, List.all_cons]
    by_cases hc : c.isDigit
    · rw [if_pos hc, Option.bind_some, ih, Nat.ofDigitChars_cons, Nat.mul_comm value 10, hc,
        Bool.true_and]
      rfl
    · rw [if_neg hc, Option.bind_none, if_neg]
      simp [hc]

theorem readDigits?_ten_eq_some_iff {n : ℕ} :
    readDigits? 10 cs = some n ↔ Numeral cs ∧ n = placeValue cs := by
  rw [readDigits?, continueDigits?_ten, placeValue_eq_ofDigitChars]
  split
  · next hempty =>
    refine iff_of_false (Option.some_ne_none n).symm fun h => ?_
    exact h.1.nonempty (List.isEmpty_iff.1 hempty)
  · next hempty =>
    have hne : cs ≠ [] := fun h => hempty (List.isEmpty_iff.2 h)
    split
    · next hdigits =>
      rw [Option.some_inj]
      exact ⟨fun h => ⟨⟨hne, List.all_eq_true.1 hdigits⟩, h.symm⟩, fun h => h.2.symm⟩
    · next hdigits =>
      refine iff_of_false (Option.some_ne_none n).symm fun h => ?_
      exact hdigits (List.all_eq_true.2 h.1.isDigit)

theorem map_readDigits?_eq_some_iff {f : ℕ → ℤ} :
    (readDigits? 10 cs).map f = some i ↔ Numeral cs ∧ i = f (placeValue cs) := by
  simp only [Option.map_eq_some_iff, readDigits?_ten_eq_some_iff]
  constructor
  · rintro ⟨_, ⟨hnumeral, rfl⟩, rfl⟩
    exact ⟨hnumeral, rfl⟩
  · rintro ⟨hnumeral, rfl⟩
    exact ⟨_, ⟨hnumeral, rfl⟩, rfl⟩

/-- A numeral does not start with a sign. -/
theorem Numeral.isDigit_head (h : Numeral (c :: digits)) : c.isDigit :=
  h.isDigit c List.mem_cons_self

theorem readInteger?_minus (cs : List Char) :
    readInteger? ('-' :: cs) = (readDigits? 10 cs).map fun n => -(Int.ofNat n) := by
  rw [readInteger?]
  cases readDigits? 10 cs <;> rfl

/-- **The reader accepts the spellings of integers**, with any number of zeros in front, and
nothing else. -/
theorem readInteger?_eq_some_iff : readInteger? cs = some i ↔ Spelled cs i := by
  fun_cases readInteger? cs with
  | case1 digits =>
    rw [map_readDigits?_eq_some_iff]
    constructor
    · rintro ⟨hnumeral, rfl⟩
      exact .plus hnumeral
    · intro h
      cases h with
      | plain h => exact absurd h.isDigit_head (by decide)
      | plus h => exact ⟨h, rfl⟩
  | case2 digits =>
    change readInteger? ('-' :: digits) = some i ↔ _
    rw [readInteger?_minus, map_readDigits?_eq_some_iff]
    constructor
    · rintro ⟨hnumeral, rfl⟩
      exact .minus hnumeral
    · intro h
      cases h with
      | plain h => exact absurd h.isDigit_head (by decide)
      | minus h => exact ⟨h, rfl⟩
  | case3 _ hplus hminus =>
    rw [map_readDigits?_eq_some_iff]
    constructor
    · rintro ⟨hnumeral, rfl⟩
      exact .plain hnumeral
    · intro h
      cases h with
      | plain h => exact ⟨h, rfl⟩
      | plus _ => exact absurd rfl (hplus _)
      | minus _ => exact absurd rfl (hminus _)

theorem readWord?_eq_some_iff : readWord? cs = some i ↔ Spelled cs i ∧ fitsWord i := by
  rw [readWord?, Option.filter_eq_some_iff, readInteger?_eq_some_iff]

/-! ### Written integers -/

theorem numeral_toDigits (n : ℕ) : Numeral (Nat.toDigits 10 n) :=
  ⟨Nat.toDigits_ne_nil, fun _ hc => Nat.isDigit_of_mem_toDigits (by decide) le_rfl hc⟩

theorem placeValue_toDigits (n : ℕ) : placeValue (Nat.toDigits 10 n) = n := by
  rw [placeValue_eq_ofDigitChars, Nat.ofDigitChars_ten_toDigits]

/-- **An integer is written in one of its spellings.** -/
theorem spelled_toString (i : ℤ) : Spelled (toString i).toList i := by
  rw [Int.toString_eq_repr]
  cases i with
  | ofNat n =>
    have h := Spelled.plain (numeral_toDigits n)
    rw [placeValue_toDigits] at h
    rwa [Int.repr, Nat.toList_repr]
  | negSucc n =>
    have h := Spelled.minus (numeral_toDigits (n + 1))
    rw [placeValue_toDigits, Nat.cast_succ, ← Int.negSucc_eq] at h
    rw [Int.repr, String.toList_append, Nat.toList_repr]
    exact h

/-! ### White space -/

theorem Numeral.not_isBlank (h : Numeral digits) : ∀ c ∈ digits, Text.isBlank c = false := by
  intro c hc
  have hdigit := h.isDigit c hc
  by_contra hblank
  rw [Text.isDigit_of_isBlank (by simpa using hblank)] at hdigit
  cases hdigit

theorem Spelled.not_isBlank (h : Spelled cs i) : ∀ c ∈ cs, Text.isBlank c = false := by
  cases h with
  | plain h => exact h.not_isBlank
  | plus h => exact List.forall_mem_cons.2 ⟨by decide, h.not_isBlank⟩
  | minus h => exact List.forall_mem_cons.2 ⟨by decide, h.not_isBlank⟩

/-- White space around a spelling does not belong to it. -/
theorem Spelled.unblanked (h : Spelled cs i) : Text.Unblanked cs :=
  ⟨fun c hc => h.not_isBlank c (List.mem_of_mem_head? hc),
    fun c hc => h.not_isBlank c (List.mem_of_getLast? hc)⟩

end Accession.Decimal
