import Accession.Proofs.Decimal.Numbers
import Accession.Store.Value

/-!
# Numbers in columns of another type

A whole double becomes the integer that it is, as far as the integers of a word reach: beyond, it
becomes the last of them.  An integer becomes the double that is closest to it, which is the same
number just if that has at most 53 binary digits.

* `Value.number?` : the number that a value is.
* `Decimal.clampWord_eq_iff` : what is left as it is at the ends of a word.
* `Value.coerce_number` : what becomes of a number that is coerced.
-/

namespace Accession

open Decimal (wordMin wordMax fitsWord clampWord)

namespace Decimal

variable {i j z : ℤ}

theorem fitsWord_iff : fitsWord i ↔ wordMin ≤ i ∧ i ≤ wordMax := by
  simp [fitsWord]

theorem fitsWord_clampWord (z : ℤ) : fitsWord (clampWord z) := by
  rw [fitsWord_iff, clampWord, wordMin, wordMax]
  omega

theorem clampWord_eq_iff : clampWord z = z ↔ fitsWord z := by
  rw [fitsWord_iff, clampWord, wordMin, wordMax]
  omega

/-- No integer of a word is nearer. -/
theorem abs_clampWord_sub_le (hj : fitsWord j) : |clampWord z - z| ≤ |j - z| := by
  rw [fitsWord_iff] at hj
  rw [clampWord]
  rcases abs_cases (j - z) with h | h <;> rw [abs_le, h.1] <;> omega

end Decimal

namespace Value

/-- The number that a value is, if it is one. -/
def number? : Value → Option ℚ
  | integer i => some i
  | float x => Decimal.number? x
  | text _ | boolean _ => none

theorem coerce_float_integer (x : Float) {q : ℚ} (h : (float x).number? = some q) :
    ((float x).coerce .integer = none ∧ ∀ z : ℤ, q ≠ z) ∨
      ∃ z : ℤ, q = z ∧ (float x).coerce .integer = some (integer (clampWord z)) := by
  obtain ⟨b, hb, rfl⟩ := Option.map_eq_some_iff.1 h
  rw [coerce, integerOfFloat?, hb, Option.bind_some]
  cases hz : b.whole? with
  | none =>
    refine .inl ⟨rfl, fun z hz' => ?_⟩
    rw [Decimal.Binary.whole?_eq_some_iff.2 hz'] at hz
    cases hz
  | some z => exact .inr ⟨z, Decimal.Binary.whole?_eq_some_iff.1 hz, rfl⟩

/-- **A number keeps its value when it is coerced, as far as the column has it.**  A double becomes
an integer if it is whole: itself if a word has it, and else the nearest that a word has.  What is
no number becomes none.  An integer of a word becomes the nearest double, and that is the same
number just if it has no more than 53 binary digits apart from zeros at its end. -/
theorem coerce_number (x : Float) (i : ℤ) :
    (∀ q, (float x).number? = some q →
      (((float x).coerce .integer).isSome ↔ ∃ z : ℤ, q = z) ∧
      ∀ w, (float x).coerce .integer = some w → ∃ k, w = integer k ∧ fitsWord k ∧
        (w.number? = some q ↔ wordMin ≤ q ∧ q ≤ wordMax) ∧
        ∀ j, fitsWord j → |(k : ℚ) - q| ≤ |(j : ℚ) - q|) ∧
    ((float x).number? = none → (float x).coerce .integer = none) ∧
    (fitsWord i → ∃ y q, (integer i).coerce .float = some (float y) ∧
      (float y).number? = some q ∧
      (q = i ↔ ∃ (m : ℤ) (k : ℕ), |m| < 2 ^ 53 ∧ i = m * 2 ^ k) ∧
      ∀ y' q', (float y').number? = some q' → |q - i| ≤ |q' - i|) := by
  refine ⟨fun q hq => ?_, fun hx => ?_, fun hi => ?_⟩
  · rcases coerce_float_integer x hq with ⟨hnone, hfraction⟩ | ⟨z, rfl, hsome⟩
    · rw [hnone]
      refine ⟨iff_of_false Bool.false_ne_true ?_, fun w hw => by cases hw⟩
      rintro ⟨z, hz⟩
      exact hfraction z hz
    · rw [hsome]
      refine ⟨iff_of_true rfl ⟨z, rfl⟩, ?_⟩
      rintro w ⟨rfl⟩
      refine ⟨clampWord z, rfl, Decimal.fitsWord_clampWord z, ?_, fun j hj => ?_⟩
      · rw [number?, Option.some_inj, Int.cast_inj, Decimal.clampWord_eq_iff, Decimal.fitsWord_iff,
          Int.cast_le, Int.cast_le]
      · exact_mod_cast Decimal.abs_clampWord_sub_le hj
  · rw [number?, Decimal.number?, Option.map_eq_none_iff] at hx
    rw [coerce, integerOfFloat?, hx]
    rfl
  · have hsize : i.natAbs < 2 ^ 64 := by
      rw [Decimal.fitsWord_iff, wordMin, wordMax] at hi
      omega
    obtain ⟨q, hq, hclosest⟩ := Decimal.exists_ofInt hsize
    refine ⟨Float.ofInt i, q, rfl, hq, ?_, fun x q' hq' => ?_⟩
    · rw [hclosest.eq_iff, Decimal.representable_int_iff]
    · exact hclosest.le q' (Decimal.representable_of_number? hq')

/-- **Two numbers that change.**  Ten to the nineteenth is beyond the integers of a word, and an
integer of 54 binary digits is none of a double. -/
theorem numbers_changed :
    (∃ x, (float x).number? = some (10 ^ 19) ∧
      (float x).coerce .integer = some (integer 9223372036854775807)) ∧
    ∃ y, (integer 9007199254740993).coerce .float = some (float y) ∧
      (float y).number? = some 9007199254740992 := by
  have hbits : Decimal.Binary.ofFloat? (Float.ofBits 0x43E158E460913D00) =
      some ⟨false, 4882812500000000, 11⟩ := by decide +kernel
  have hinteger : integerOfFloat? (Float.ofBits 0x43E158E460913D00) =
      some 9223372036854775807 := by decide +kernel
  have hrounded : Decimal.Binary.ofFloat? (Float.ofInt 9007199254740993) =
      some ⟨false, 4503599627370496, 1⟩ := by decide +kernel
  refine ⟨⟨Float.ofBits 0x43E158E460913D00, ?_, ?_⟩, Float.ofInt 9007199254740993, rfl, ?_⟩
  · rw [number?, Decimal.number?, hbits, Option.map_some, Decimal.Binary.number]
    norm_num
  · rw [coerce, hinteger]
    rfl
  · rw [number?, Decimal.number?, hrounded, Option.map_some, Decimal.Binary.number]
    norm_num

/-- Forty-two stays what it is, as a double and as an integer. -/
theorem forty_two_kept :
    (∃ x w, (float x).number? = some 42 ∧ (float x).coerce .integer = some w ∧
      w.number? = some 42) ∧
    ∃ y q, (integer 42).coerce .float = some (float y) ∧ (float y).number? = some q ∧ q = 42 := by
  obtain ⟨hdouble, -, hinteger⟩ := coerce_number (Float.ofBits 0x4045000000000000) 42
  have hbits : Decimal.Binary.ofFloat? (Float.ofBits 0x4045000000000000) =
      some ⟨false, 5910974510923776, -47⟩ := by decide +kernel
  have hnumber : (float (Float.ofBits 0x4045000000000000)).number? = some 42 := by
    rw [number?, Decimal.number?, hbits, Option.map_some, Decimal.Binary.number]
    norm_num
  constructor
  · obtain ⟨hsome, hkept⟩ := hdouble _ hnumber
    obtain ⟨w, hw⟩ := Option.isSome_iff_exists.1 (hsome.2 ⟨42, by norm_num⟩)
    obtain ⟨i, rfl, -, hsame, -⟩ := hkept w hw
    refine ⟨_, _, hnumber, hw, hsame.2 ?_⟩
    norm_num [wordMin, wordMax]
  · obtain ⟨y, q, hy, hq, hexact, -⟩ := hinteger (by decide)
    exact ⟨y, q, hy, hq, by simpa using hexact.2 ⟨42, 0, by norm_num, by norm_num⟩⟩

end Value

end Accession
