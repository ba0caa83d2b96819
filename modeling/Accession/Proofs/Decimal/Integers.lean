import Accession.Proofs.Decimal.Rounding

/-!
# Natural numbers as doubles

A natural number of at most 53 binary digits is converted as it is, and then multiplied by one; a
longer one is shifted, and rounded once.

* `Normal.exists_mul_one` : a double multiplied by one.
* `exists_ofNat` : a natural number becomes a double that is nearest to it among the multiples of
  the unit of its size.
-/

namespace Accession.Decimal

open Float.Model Float.Model.UnpackedFloat

theorem log2_mul_two_pow {n : Nat} (hn : n ≠ 0) (places : Nat) :
    (n * 2 ^ places).log2 = n.log2 + places := by
  induction places with
  | zero => simp
  | succ places ih =>
    have hne : n * 2 ^ places ≠ 0 := Nat.mul_ne_zero hn (Nat.two_pow_pos places).ne'
    rw [Nat.pow_succ', Nat.mul_left_comm, Nat.log2_two_mul hne, ih, Nat.add_assoc]

theorem cast_mul_two_pow (n places : Nat) (e : ℤ) :
    ((n * 2 ^ places : Nat) : ℚ) * 2 ^ (e - places) = n * 2 ^ e := by
  rw [Nat.cast_mul, Nat.cast_pow, Nat.cast_ofNat, mul_assoc, ← zpow_natCast,
    ← zpow_add₀ (by norm_num), add_sub_cancel]

/-! ### Naturals -/

namespace Normal

/-- The double that is one. -/
def one : Normal := ⟨.positive, 2 ^ 52, -52, le_rfl, by decide, by decide, by decide⟩

theorem float_one : one.float = Float.ofBits 0x3FF0000000000000 := by decide +kernel

/-- A product is rounded once. -/
theorem mul_float (d d' : Normal) : d.float * d'.float =
    .ofModel (.pack (UnpackedFloat.mul .binary64 d.unpacked d'.unpacked)) := by
  change Float.ofModel (.pack (UnpackedFloat.mul .binary64 d.float.toModel.unpack
    d'.float.toModel.unpack)) = _
  rw [unpack_float, unpack_float]

/-- Multiplied by one a double stays the number that it is. -/
theorem exists_mul_one (d : Normal) (h : d.exponent < 971) :
    ∃ d' : Normal, d.float * one.float = d'.float ∧ d'.sign = d.sign ∧
      d'.magnitude = d.magnitude := by
  have hleast := d.least
  have hlower := d.lower
  have hlog : (d.mantissa * 2 ^ 52).log2 = 52 + 52 := by
    rw [log2_mul_two_pow (by omega), d.log2_mantissa]
  obtain ⟨d', hd', hsign, -, hnear⟩ :=
    exists_round (d.sign * .positive) (e := d.exponent - (52 : Nat)) hlog (by omega) (by omega)
  refine ⟨d', ?_, ?_, ?_⟩
  · rw [mul_float]
    exact congrArg (fun u => Float.ofModel (.pack u)) hd'
  · rw [hsign]
    cases d.sign <;> rfl
  · rw [cast_mul_two_pow, sub_add_cancel] at hnear
    exact hnear.eq_of_multiple ⟨d.mantissa, by push_cast; rfl⟩

end Normal

/-- A number of at most 53 digits is a multiple of the unit of its double. -/
theorem eq_mul_unit (n : Nat) {places : Nat} (h : n.log2 + places = 52) :
    (n : ℚ) = ((n * 2 ^ places : Nat) : ℤ) * 2 ^ ((n.log2 : ℤ) - 52) := by
  have hexponent : (n.log2 : ℤ) - 52 = 0 - places := by omega
  rw [hexponent, Int.cast_natCast, cast_mul_two_pow, zpow_zero, mul_one]

/-- A natural number of at most 53 digits is converted as it is. -/
theorem exists_round_natural {n places : Nat} (hn : n ≠ 0) (h : n.log2 + places = 52) :
    ∃ d : Normal, UnpackedFloat.round .binary64 .positive n 0 = d.unpacked ∧ d.sign = .positive ∧
      d.exponent < 971 ∧ d.magnitude = n := by
  have hlog : (n * 2 ^ places).log2 = 52 + 0 := by
    rw [log2_mul_two_pow hn]
    omega
  have htarget : Format.targetExponent .binary64 (totalExponent n 0) = 0 - places := by
    have hmin : Format.minExponent .binary64 = -1074 := by decide
    have hbits : Format.mantissaBits .binary64 = 53 := rfl
    rw [Format.targetExponent, totalExponent, hmin, hbits]
    omega
  have hround : UnpackedFloat.round .binary64 .positive n 0 =
      roundWithAccuracy .binary64 .positive (n * 2 ^ places) (0 - places) .exact := by
    have hplaces : ((0 : Int) - (0 - places)).toNat = places := by omega
    rw [UnpackedFloat.round, htarget, decreaseExponent, hplaces, Nat.shiftLeft_eq]
  obtain ⟨d, hd, hsign, hexponent, hnear⟩ :=
    exists_round .positive (e := 0 - places) hlog (by omega) (by omega)
  refine ⟨d, hround.trans hd, hsign, by omega, ?_⟩
  rw [cast_mul_two_pow, zpow_zero, mul_one, Nat.cast_zero, add_zero] at hnear
  have hunit : (0 : ℤ) - places = n.log2 - 52 := by omega
  rw [hunit] at hnear
  exact hnear.eq_of_multiple ⟨_, eq_mul_unit n h⟩

theorem toFloat_eq {n : Nat} (hlt : n < 2 ^ 53) (hn : n ≠ 0) : n.toUInt64.toFloat =
    .ofModel (.pack (UnpackedFloat.round .binary64 .positive n 0)) := by
  have hsize : n.toUInt64.toNat = n := by
    rw [Nat.toUInt64_eq, UInt64.toNat_ofNat', Nat.mod_eq_of_lt (by omega)]
  change Float.ofModel (.pack (UnpackedFloat.normalize .binary64 (n.toUInt64.toNat : Int) 0
    .positive)) = _
  rw [hsize, UnpackedFloat.normalize]
  have hpos : compare (n : Int) 0 = .gt := by
    rw [Int.compare_eq_gt]
    omega
  rw [hpos]
  rfl

theorem scientific_eq {n : Nat} (hn : n ≠ 0) : UnpackedFloat.ofScientific .binary64 n 0 =
    roundWithAccuracy .binary64 .positive (n * 2 ^ 53) (0 - (53 : Nat)) .exact := by
  have hsmall : ¬ (0 : Int) < -((2 ^ 11 : Int) + n.log2) := by norm_num
  have hmantissa : n * 2 ^ Format.mantissaBits .binary64 * 10 ^ (0 : Int).toNat = n * 2 ^ 53 := by
    rw [Int.toNat_zero, Nat.pow_zero, Nat.mul_one]
    rfl
  rw [UnpackedFloat.ofScientific, dif_neg hn, if_neg (by decide), if_neg hsmall,
    if_pos (le_refl (0 : Int)), UnpackedFloat.mul]
  rw [Nat.shiftLeft_eq, hmantissa]
  rfl

/-- **A natural number becomes a double that is nearest to it.** -/
theorem exists_ofNat {n : Nat} (hn : n ≠ 0) (hlog : n.log2 < 64) :
    ∃ d : Normal, Float.ofNat n = d.float ∧ d.sign = .positive ∧
      Nearest (2 ^ ((n.log2 : ℤ) - 52)) n d.magnitude := by
  change ∃ d : Normal, Float.ofScientific n false 0 = _ ∧ _
  rw [Float.ofScientific]
  split
  · next h =>
    have hlog : n.log2 < 53 := (Nat.log2_lt hn).2 h.1
    have hplaces : n.log2 + (52 - n.log2) = 52 := by omega
    obtain ⟨d, hd, hsign, hexponent, hmagnitude⟩ := exists_round_natural hn hplaces
    obtain ⟨d', hd', hsign', hmagnitude'⟩ := d.exists_mul_one hexponent
    refine ⟨d', ?_, hsign'.trans hsign, ?_⟩
    · rw [← hd', Normal.float_one, Normal.float, ← hd, ← toFloat_eq h.1 hn]
      rfl
    · rw [hmagnitude', hmagnitude]
      exact .self (by positivity) ⟨_, eq_mul_unit n hplaces⟩
  · next h =>
    have hlarge : 53 ≤ n.log2 := (Nat.le_log2 hn).2 (by omega)
    have hshifted : (n * 2 ^ 53).log2 = 52 + (n.log2 + 1) := by
      rw [log2_mul_two_pow hn]
      omega
    obtain ⟨d, hd, hsign, -, hnear⟩ :=
      exists_round .positive (e := 0 - (53 : Nat)) hshifted (by omega) (by omega)
    refine ⟨d, ?_, hsign, ?_⟩
    · rw [Normal.float, ← hd, ← scientific_eq hn]
      rfl
    · rw [cast_mul_two_pow, zpow_zero, mul_one] at hnear
      have hunit : (0 : ℤ) - (53 : Nat) + (n.log2 + 1 : Nat) = n.log2 - 52 := by omega
      rwa [hunit] at hnear

end Accession.Decimal
