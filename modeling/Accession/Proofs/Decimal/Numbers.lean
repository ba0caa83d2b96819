import Accession.Proofs.Decimal.Integers

/-!
# Doubles as numbers

The bits of a double that is finite denote a number with at most 53 binary digits, apart from zeros
at its end.

* `Binary.number` : the number, as a fraction; `Binary.whole?_eq_some_iff` : the integer that it is.
* `number?` : the number that a double is, if it is one.
* `Representable` : the number has at most 53 binary digits; so have those of doubles
  (`representable_of_number?`), and `representable_int_iff` says which integers have.
* `Closest` : no such number is nearer.
* `exists_ofInt` : an integer becomes the double that is closest to it.
-/

namespace Accession.Decimal

open Float.Model Float.Model.UnpackedFloat

/-! ### Exact numbers -/

/-- The number. -/
def Binary.number (b : Binary) : ℚ :=
  ((if b.negative then -b.mantissa else b.mantissa : ℤ) : ℚ) * 2 ^ b.exponent

/-- The number that a double is, if it is one. -/
def number? (x : Float) : Option ℚ := (Binary.ofFloat? x).map Binary.number

/-- The number has at most 53 binary digits. -/
def Representable (q : ℚ) : Prop := ∃ m e : ℤ, |m| < 2 ^ 53 ∧ q = m * 2 ^ e

namespace Binary

variable {b : Binary} {z : ℤ}

theorem fraction_eq (b : Binary) :
    (b.fraction.1 : ℚ) = b.mantissa * 2 ^ b.exponent * b.fraction.2 := by
  simp only [fraction, Nat.pow_eq]
  push_cast
  rw [mul_assoc, ← zpow_natCast, ← zpow_natCast, ← zpow_add₀ (by norm_num)]
  congr 2
  omega

theorem den_pos (b : Binary) : 0 < b.fraction.2 := Nat.two_pow_pos _

/-- The magnitude is a natural number just if the numerator is that multiple of the denominator. -/
theorem magnitude_eq_iff {k : Nat} :
    (b.mantissa : ℚ) * 2 ^ b.exponent = k ↔ b.fraction.1 = k * b.fraction.2 := by
  have hden : (b.fraction.2 : ℚ) ≠ 0 := by exact_mod_cast b.den_pos.ne'
  rw [← Nat.cast_inj (R := ℚ), fraction_eq, Nat.cast_mul, mul_left_inj' hden]

theorem number_eq_iff {k : Nat} (h : (b.mantissa : ℚ) * 2 ^ b.exponent = k) :
    b.number = z ↔ (if b.negative then -k else k : ℤ) = z := by
  rw [number, ← Int.cast_inj (α := ℚ)]
  split <;> push_cast
  · rw [neg_mul, h]
  · rw [h]

theorem magnitude_of_number (h : b.number = z) :
    (b.mantissa : ℚ) * 2 ^ b.exponent = z.natAbs := by
  have hmagnitude : (0 : ℚ) ≤ b.mantissa * 2 ^ b.exponent := by positivity
  rw [Nat.cast_natAbs, Int.cast_abs, ← h, number]
  split <;> push_cast
  · rw [neg_mul, abs_neg, abs_of_nonneg hmagnitude]
  · rw [abs_of_nonneg hmagnitude]

theorem whole?_eq_some_iff : b.whole? = some z ↔ b.number = z := by
  rw [whole?]
  constructor
  · intro h
    dsimp only at h
    split at h
    · next hmod =>
      have hnum : b.fraction.1 = b.fraction.1 / b.fraction.2 * b.fraction.2 :=
        (Nat.div_mul_cancel (Nat.dvd_of_mod_eq_zero (by simpa using hmod))).symm
      exact (number_eq_iff (magnitude_eq_iff.2 hnum)).2 (Option.some.inj h)
    · cases h
  · intro h
    have hwhole := magnitude_of_number h
    have hnum := magnitude_eq_iff.1 hwhole
    have hmod : b.fraction.1 % b.fraction.2 = 0 := by rw [hnum, Nat.mul_mod_left]
    have hdiv : b.fraction.1 / b.fraction.2 = z.natAbs := by
      rw [hnum, Nat.mul_div_cancel _ b.den_pos]
    dsimp only
    rw [hmod, hdiv, if_pos (show ((0 : Nat) == 0) = true from rfl), (number_eq_iff hwhole).1 h]

end Binary

/-! ### The numbers of doubles -/

theorem representable_of_number? {x : Float} {q : ℚ} (h : number? x = some q) :
    Representable q := by
  obtain ⟨b, hb, rfl⟩ := Option.map_eq_some_iff.1 h
  refine ⟨_, b.exponent, ?_, rfl⟩
  have hmantissa : b.mantissa < 2 ^ 53 := by
    rw [Binary.ofFloat?] at hb
    simp only [Nat.pow_eq] at hb
    split at hb
    · cases hb
    · split at hb
      · cases hb
        dsimp only
        omega
      · cases hb
        dsimp only
        omega
  split <;> rw [abs_lt] <;> omega

theorem Representable.neg {q : ℚ} (h : Representable q) : Representable (-q) := by
  obtain ⟨m, e, hm, rfl⟩ := h
  exact ⟨-m, e, by rwa [abs_neg], by push_cast; ring⟩

namespace Normal

/-- The double with the other sign. -/
def neg (d : Normal) : Normal := { d with sign := -d.sign }

theorem neg_float (d : Normal) : d.float.neg = d.neg.float := by
  change Float.ofModel (.pack (UnpackedFloat.neg d.float.toModel.unpack)) = _
  rw [unpack_float]
  rfl

theorem number?_float (d : Normal) :
    number? d.float = some (((d.sign.apply d.mantissa : ℤ) : ℚ) * 2 ^ d.exponent) := by
  rw [number?, ofFloat?_float, Option.map_some, Binary.number]
  cases d.sign <;> rfl

end Normal

/-- A nearest multiple of the unit of a natural number is nearest among all numbers of so many
digits. -/
theorem Nearest.le_representable {n : Nat} {q q' : ℚ} (hn : n ≠ 0)
    (h : Nearest (2 ^ ((n.log2 : ℤ) - 52)) n q) (hq' : Representable q') :
    |q - n| ≤ |q' - n| := by
  obtain ⟨m, e, hm, rfl⟩ := hq'
  have htwo : (2 : ℚ) ≠ 0 := by norm_num
  have hpower : (2 : ℚ) ^ n.log2 ≤ n := by exact_mod_cast Nat.log2_self_le hn
  by_cases hlarge : (2 : ℚ) ^ (n.log2 : ℤ) ≤ |(m : ℚ) * 2 ^ e|
  · -- a number that is as large is itself a multiple of the unit
    have hexponent : (n.log2 : ℤ) < 53 + e := by
      rw [← zpow_lt_zpow_iff_right₀ (by norm_num : (1 : ℚ) < 2), zpow_add₀ htwo]
      refine hlarge.trans_lt ?_
      rw [abs_mul, abs_of_pos (by positivity : (0 : ℚ) < 2 ^ e)]
      have hm' : |(m : ℚ)| < 2 ^ 53 := by exact_mod_cast hm
      exact mul_lt_mul_of_pos_right hm' (by positivity)
    obtain ⟨places, hplaces⟩ := Int.eq_ofNat_of_zero_le
      (show 0 ≤ e - ((n.log2 : ℤ) - 52) by omega)
    have hmultiple : ((m * 2 ^ places : ℤ) : ℚ) * 2 ^ ((n.log2 : ℤ) - 52) = m * 2 ^ e := by
      push_cast
      rw [mul_assoc, ← zpow_natCast, ← zpow_add₀ htwo]
      congr 2
      omega
    rw [← hmultiple]
    exact h.le _
  · -- a smaller one lies below the power of two that is no greater than the natural number
    have hbelow := h.le (2 ^ 52)
    have hunit : (((2 ^ 52 : ℤ)) : ℚ) * 2 ^ ((n.log2 : ℤ) - 52) = 2 ^ n.log2 := by
      rw [Int.cast_pow, Int.cast_ofNat, ← zpow_natCast, ← zpow_natCast, ← zpow_add₀ htwo]
      congr 1
      omega
    rw [hunit, abs_sub_comm (2 ^ n.log2 : ℚ), abs_of_nonneg (sub_nonneg.2 hpower)] at hbelow
    rw [not_le, zpow_natCast] at hlarge
    have hless := (le_abs_self _).trans_lt hlarge
    have happart : |(m : ℚ) * 2 ^ e - n| = n - m * 2 ^ e := by
      rw [abs_sub_comm, abs_of_nonneg (by linarith)]
    linarith

/-! ### Integers -/

/-- The number is the nearest to a given one among those of at most 53 binary digits. -/
structure Closest (v q : ℚ) : Prop where
  representable : Representable q
  le : ∀ q', Representable q' → |q - v| ≤ |q' - v|

namespace Closest

variable {v q : ℚ}

theorem neg (h : Closest v q) : Closest (-v) (-q) := by
  refine ⟨h.representable.neg, fun q' hq' => ?_⟩
  have hleft : -q - -v = -(q - v) := by ring
  have hright : q' - -v = -(-q' - v) := by ring
  rw [hleft, hright, abs_neg, abs_neg]
  exact h.le _ hq'.neg

theorem eq_iff (h : Closest v q) : q = v ↔ Representable v := by
  refine ⟨fun hq => hq ▸ h.representable, fun hv => ?_⟩
  have hle := h.le v hv
  rw [sub_self, abs_zero] at hle
  exact eq_of_abs_sub_nonpos hle

end Closest

theorem exists_ofNat_closest {n : Nat} (hn : n ≠ 0) (hlog : n.log2 < 64) :
    ∃ d : Normal, Float.ofNat n = d.float ∧ d.sign = .positive ∧
      number? d.float = some d.magnitude ∧ Closest n d.magnitude := by
  obtain ⟨d, hd, hsign, hnear⟩ := exists_ofNat hn hlog
  have hnumber : number? d.float = some d.magnitude := by
    rw [Normal.number?_float, hsign]
    rfl
  exact ⟨d, hd, hsign, hnumber, representable_of_number? hnumber,
    fun q' hq' => hnear.le_representable hn hq'⟩

/-- **An integer becomes the double that is closest to it.** -/
theorem exists_ofInt {i : ℤ} (h : i.natAbs < 2 ^ 64) :
    ∃ q, number? (Float.ofInt i) = some q ∧ Closest i q := by
  cases i with
  | ofNat n =>
    by_cases hn : n = 0
    · subst hn
      have hzero : number? (Float.ofInt 0) = some 0 := by
        have hbits : Binary.ofFloat? (Float.ofInt 0) = some ⟨false, 0, -1074⟩ := by decide +kernel
        rw [number?, hbits, Option.map_some, Binary.number]
        simp
      refine ⟨0, hzero, representable_of_number? hzero, fun q' _ => ?_⟩
      simp
    · obtain ⟨d, hd, -, hnumber, hclosest⟩ := exists_ofNat_closest hn ((Nat.log2_lt hn).2 h)
      exact ⟨d.magnitude, (congrArg number? hd).trans hnumber, hclosest⟩
  | negSucc n =>
    obtain ⟨d, hd, hsign, hnumber, hclosest⟩ :=
      exists_ofNat_closest n.succ_ne_zero ((Nat.log2_lt n.succ_ne_zero).2 h)
    have hneg : number? d.neg.float = some (-d.magnitude) := by
      rw [Normal.number?_float, Normal.neg, hsign, Normal.magnitude, ← neg_mul]
      simp [Sign.apply]
    refine ⟨-d.magnitude, ?_, ?_⟩
    · rw [Float.ofInt, hd, Normal.neg_float, hneg]
    · rw [Int.cast_negSucc]
      exact_mod_cast hclosest.neg

/-- An integer has at most 53 binary digits if it is a smaller one than those of 54, times a power
of two. -/
theorem representable_int_iff {i : ℤ} :
    Representable i ↔ ∃ (m : ℤ) (k : ℕ), |m| < 2 ^ 53 ∧ i = m * 2 ^ k := by
  constructor
  · rintro ⟨m, e, hm, hi⟩
    rcases le_or_gt 0 e with he | he
    · obtain ⟨k, rfl⟩ := Int.eq_ofNat_of_zero_le he
      exact ⟨m, k, hm, by exact_mod_cast hi⟩
    · -- with a negative exponent the mantissa is no smaller than the integer
      obtain ⟨k, hk⟩ := Int.eq_ofNat_of_zero_le (show 0 ≤ -e by omega)
      have hmul : i * 2 ^ k = m := by
        have hrat : (i : ℚ) * 2 ^ k = m := by
          rw [hi, mul_assoc, ← zpow_natCast, ← zpow_add₀ (by norm_num), ← hk, add_neg_cancel,
            zpow_zero, mul_one]
        exact_mod_cast hrat
      have hfactor : 1 ≤ |(2 : ℤ) ^ k| := Int.one_le_abs (by positivity)
      refine ⟨i, 0, lt_of_le_of_lt ?_ hm, by rw [pow_zero, mul_one]⟩
      rw [← hmul, abs_mul]
      exact le_mul_of_one_le_right (abs_nonneg i) hfactor
  · rintro ⟨m, k, hm, rfl⟩
    exact ⟨m, k, hm, by push_cast; rfl⟩

end Accession.Decimal
