import Accession.Proofs.Decimal.Normal

/-!
# Rounding

A number of more binary digits than a double has is shifted until 53 of them are left, and two
further bits tell how the digits that were cut off compare with a half.  What is rounded by these
bits is the nearest multiple of the unit, the value of the last digit.

* `Leaves` : what is left of a mantissa that was shifted.
* `Nearest` : the nearest multiple of a unit.
* `exists_round` : rounding to a double.
-/

namespace Accession.Decimal

open Float.Model Float.Model.UnpackedFloat

/-! ### Shifting -/

/-- What is left of a mantissa that was shifted: its first digits, the digit after them, and whether
any digit follows. -/
def Leaves (m places : Nat) (em : ExtendedMantissa) : Prop :=
  ∃ rest, 2 * m = (2 * em.mantissa + em.roundBit.toNat) * 2 ^ places + rest ∧ rest < 2 ^ places ∧
    (em.stickyBit ↔ 0 < rest)

theorem Leaves.shiftRightOne {m places : Nat} {em : ExtendedMantissa} (h : Leaves m places em) :
    Leaves m (places + 1) em.shiftRightOne := by
  obtain ⟨rest, hm, hrest, hsticky⟩ := h
  have hdigit : 2 * (em.mantissa / 2) + (em.mantissa % 2 != 0).toNat = em.mantissa := by
    rcases Nat.mod_two_eq_zero_or_one em.mantissa with h | h <;> simp [h] <;> omega
  refine ⟨em.roundBit.toNat * 2 ^ places + rest, ?_, ?_, ?_⟩
  · rw [ExtendedMantissa.shiftRightOne, hdigit, hm, Nat.pow_succ]
    ring
  · cases em.roundBit <;> simp [Nat.pow_succ] <;> omega
  · cases hround : em.roundBit <;> simp [ExtendedMantissa.shiftRightOne, hround, hsticky]

theorem leaves_self (m : Nat) : Leaves m 0 ⟨m, false, false⟩ :=
  ⟨0, by simp, by simp, by simp⟩

theorem leaves_shiftRight (m places : Nat) :
    Leaves m places ((⟨m, false, false⟩ : ExtendedMantissa) >>> places) := by
  induction places with
  | zero => exact leaves_self m
  | succ places ih => exact ih.shiftRightOne

/-- The shifted mantissa, rounded, is nearest to what was shifted. -/
theorem Leaves.rounded {m places : Nat} {em : ExtendedMantissa} (h : Leaves m places em) :
    2 * (em.roundedMantissa * 2 ^ places) ≤ 2 * m + 2 ^ places ∧
      2 * m ≤ 2 * (em.roundedMantissa * 2 ^ places) + 2 ^ places := by
  obtain ⟨rest, hm, hrest, hsticky⟩ := h
  obtain ⟨mantissa, roundBit, stickyBit⟩ := em
  rw [Nat.add_mul, Nat.mul_assoc] at hm
  have hnext : (mantissa + 1) * 2 ^ places = mantissa * 2 ^ places + 2 ^ places := by ring
  cases roundBit <;> cases stickyBit <;> simp only [Bool.toNat_true, Bool.toNat_false] at hm
  · -- nothing is cut off
    have hnone : rest = 0 := by simpa using hsticky
    change 2 * (mantissa * 2 ^ places) ≤ _ ∧ _ ≤ 2 * (mantissa * 2 ^ places) + _
    omega
  · -- less than a half
    change 2 * (mantissa * 2 ^ places) ≤ _ ∧ _ ≤ 2 * (mantissa * 2 ^ places) + _
    omega
  · -- a half
    have hnone : rest = 0 := by simpa using hsticky
    change 2 * ((mantissa + mantissa % 2) * 2 ^ places) ≤ _ ∧
      _ ≤ 2 * ((mantissa + mantissa % 2) * 2 ^ places) + _
    rcases Nat.mod_two_eq_zero_or_one mantissa with heven | hodd
    · rw [heven, Nat.add_zero]
      omega
    · rw [hodd, hnext]
      omega
  · -- more than a half
    change 2 * ((mantissa + 1) * 2 ^ places) ≤ _ ∧ _ ≤ 2 * ((mantissa + 1) * 2 ^ places) + _
    rw [hnext]
    omega

/-! ### The nearest multiple -/

/-- The number is a multiple of a unit, and no further than half a unit from another. -/
structure Nearest (unit v q : ℚ) : Prop where
  multiple : ∃ r : ℤ, q = r * unit
  near : 2 * |q - v| ≤ unit

namespace Nearest

variable {unit v q : ℚ}

/-- No multiple of the unit is nearer. -/
theorem le (h : Nearest unit v q) (r : ℤ) : |q - v| ≤ |r * unit - v| := by
  obtain ⟨⟨r', rfl⟩, hnear⟩ := h
  have hunit : 0 ≤ unit := le_trans (by positivity) hnear
  by_cases hr : r = r'
  · rw [hr]
  · have hone : (1 : ℚ) ≤ |(r : ℚ) - r'| := by
      exact_mod_cast Int.one_le_abs (sub_ne_zero.2 hr)
    have happart : unit ≤ |(r * unit - v) - (r' * unit - v)| := by
      rw [sub_sub_sub_cancel_right, ← sub_mul, abs_mul, abs_of_nonneg hunit]
      exact le_mul_of_one_le_left hunit hone
    have htriangle := abs_sub (r * unit - v) (r' * unit - v)
    linarith

theorem self (hunit : 0 ≤ unit) (hv : ∃ r : ℤ, v = r * unit) : Nearest unit v v :=
  ⟨hv, by rwa [sub_self, abs_zero, mul_zero]⟩

/-- A multiple of the unit is nearest to itself only. -/
theorem eq_of_multiple (h : Nearest unit v q) (hv : ∃ r : ℤ, v = r * unit) : q = v := by
  obtain ⟨r, rfl⟩ := hv
  have hle := h.le r
  rw [sub_self, abs_zero] at hle
  exact eq_of_abs_sub_nonpos hle

end Nearest

theorem nearest_of_rounded {m places r : Nat}
    (h : 2 * (r * 2 ^ places) ≤ 2 * m + 2 ^ places ∧ 2 * m ≤ 2 * (r * 2 ^ places) + 2 ^ places)
    (e : Int) : Nearest (2 ^ (e + places)) (m * 2 ^ e) (r * 2 ^ (e + places)) := by
  refine ⟨⟨r, by push_cast; rfl⟩, ?_⟩
  have hover : (2 : ℚ) * (r * 2 ^ places) ≤ 2 * m + 2 ^ places := by exact_mod_cast h.1
  have hunder : (2 : ℚ) * m ≤ 2 * (r * 2 ^ places) + 2 ^ places := by exact_mod_cast h.2
  have hunit : (0 : ℚ) < 2 ^ e := by positivity
  have hfactor : (r : ℚ) * 2 ^ (e + places) - m * 2 ^ e = (r * 2 ^ places - m) * 2 ^ e := by
    rw [zpow_add₀ (by norm_num), zpow_natCast]
    ring
  have hnear : 2 * |(r : ℚ) * 2 ^ places - m| ≤ 2 ^ places := by
    rw [← abs_two, ← abs_mul, abs_two, abs_le]
    constructor <;> linarith
  calc 2 * |(r : ℚ) * 2 ^ (e + places) - m * 2 ^ e|
      = 2 * |(r : ℚ) * 2 ^ places - m| * 2 ^ e := by
        rw [hfactor, abs_mul, abs_of_pos hunit, mul_assoc]
    _ ≤ 2 ^ places * 2 ^ e := mul_le_mul_of_nonneg_right hnear hunit.le
    _ = 2 ^ (e + places) := by rw [zpow_add₀ (by norm_num), zpow_natCast, mul_comm]

/-! ### Rounding to a double -/

/-- A number of 53 digits or more, rounded to 53 digits. -/
theorem rounded_bounds {m places : Nat} (hlog : m.log2 = 52 + places) :
    2 ^ 52 ≤ ((⟨m, false, false⟩ : ExtendedMantissa) >>> places).roundedMantissa ∧
      ((⟨m, false, false⟩ : ExtendedMantissa) >>> places).roundedMantissa ≤ 2 ^ 53 := by
  obtain ⟨hover, hunder⟩ := (leaves_shiftRight m places).rounded
  have hpos : 0 < 2 ^ places := Nat.two_pow_pos places
  have hne : m ≠ 0 := by
    rintro rfl
    rw [Nat.log2_zero] at hlog
    omega
  obtain ⟨hlower, hupper⟩ := (Nat.log2_eq_iff hne).1 hlog
  rw [Nat.pow_add] at hlower
  rw [Nat.add_right_comm, Nat.pow_add] at hupper
  generalize ((⟨m, false, false⟩ : ExtendedMantissa) >>> places).roundedMantissa = r at *
  generalize 2 ^ places = u at *
  constructor
  · by_contra hlt
    have hr : (r + 1) * u ≤ 2 ^ 52 * u := Nat.mul_le_mul_right u (by omega)
    rw [Nat.add_mul] at hr
    omega
  · by_contra hgt
    have hr : (2 ^ 53 + 1) * u ≤ r * u := Nat.mul_le_mul_right u (by omega)
    omega

/-- The target exponent of a number of 53 digits or more keeps 53 of them. -/
theorem targetExponent_eq {m places : Nat} {e : Int} (hlog : m.log2 = 52 + places)
    (hleast : -1074 ≤ e + places) :
    Format.targetExponent .binary64 (totalExponent m e) = e + places := by
  have hmin : Format.minExponent .binary64 = -1074 := by decide
  have hbits : Format.mantissaBits .binary64 = 53 := rfl
  rw [Format.targetExponent, totalExponent, hlog, hmin, hbits]
  omega

theorem shiftToTargetExponent_eq {m places : Nat} {e : Int} (hlog : m.log2 = 52 + places)
    (hleast : -1074 ≤ e + places) :
    shiftToTargetExponent .binary64 m e .exact =
      ((⟨m, false, false⟩ : ExtendedMantissa) >>> places, e + places) := by
  rw [shiftToTargetExponent, targetExponent_eq hlog hleast, shiftToExponent]
  have hplaces : (e + places - e).toNat = places := by omega
  rw [hplaces]
  rfl

/-- A number of 53 digits or more is rounded to a double that is nearest to it. -/
theorem exists_round (s : Sign) {m places : Nat} {e : Int} (hlog : m.log2 = 52 + places)
    (hleast : -1074 ≤ e + places) (hgreatest : e + places < 971) :
    ∃ d : Normal, roundWithAccuracy .binary64 s m e .exact = d.unpacked ∧ d.sign = s ∧
      d.exponent ≤ e + places + 1 ∧ Nearest (2 ^ (e + places)) (m * 2 ^ e) d.magnitude := by
  obtain ⟨hlower, hupper⟩ := rounded_bounds hlog
  have hnear := nearest_of_rounded (leaves_shiftRight m places).rounded e
  rw [roundWithAccuracy, shiftToTargetExponent_eq hlog hleast]
  dsimp only
  generalize ((⟨m, false, false⟩ : ExtendedMantissa) >>> places).roundedMantissa = r at *
  rcases hupper.lt_or_eq with hlt | rfl
  · have hr : r.log2 = 52 + 0 := (Nat.log2_eq_iff (by omega)).2 ⟨hlower, hlt⟩
    rw [shiftToTargetExponent_eq hr (by omega)]
    have hexponent : e + places + (0 : Nat) = e + places := by omega
    have hpos : r ≠ 0 := by omega
    refine ⟨⟨s, r, e + places, hlower, hlt, hleast, by omega⟩, ?_, rfl, ?_, hnear⟩
    · rw [hexponent]
      exact dif_neg hpos
    · change e + places ≤ _
      omega
  · -- the mantissa has run over, and is shifted by one more digit
    have hr : (2 ^ 53 : Nat).log2 = 52 + 1 := by decide
    rw [shiftToTargetExponent_eq hr (by omega)]
    have hhalf : ((⟨2 ^ 53, false, false⟩ : ExtendedMantissa) >>> 1).mantissa = 2 ^ 52 := by decide
    refine ⟨⟨s, 2 ^ 52, e + places + 1, le_rfl, by decide, by omega, by omega⟩, ?_, rfl, le_rfl, ?_⟩
    · rw [Normal.unpacked]
      simp only [hhalf]
      rfl
    · have hcarry : ((2 ^ 52 : Nat) : ℚ) * 2 ^ (e + places + 1) =
          ((2 ^ 53 : Nat) : ℚ) * 2 ^ (e + places) := by
        push_cast
        rw [zpow_add₀ (by norm_num : (2 : ℚ) ≠ 0) (e + places) 1]
        ring
      rw [Normal.magnitude, hcarry]
      exact hnear

end Accession.Decimal
