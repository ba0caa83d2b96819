import Mathlib
import Accession.Decimal.Binary

/-!
# Normal doubles

A double of full precision has a mantissa of 53 binary digits, the first of which is not stored.

* `Normal` : such a double by its sign, its mantissa and its exponent; `Normal.float` is the double
  and `Normal.magnitude` the number without the sign.
* `Normal.unpack_float` : packed and unpacked again it is the same.
* `Normal.toBits_float` : its bits, and `Normal.ofFloat?_float` : what they denote.
-/

namespace Accession.Decimal

open Float.Model Float.Model.UnpackedFloat

/-- A double of full precision: neither zero nor near it. -/
structure Normal where
  sign : Sign
  mantissa : Nat
  exponent : Int
  lower : 2 ^ 52 ≤ mantissa
  upper : mantissa < 2 ^ 53
  least : -1074 ≤ exponent
  greatest : exponent ≤ 971

namespace Normal

variable (d : Normal)

/-- The double apart from its bits. -/
def unpacked : UnpackedFloat :=
  .finite d.sign d.mantissa d.exponent (Nat.lt_of_lt_of_le (by decide) d.lower)

/-- The double. -/
def float : Float := .ofModel (.pack d.unpacked)

/-- The number that the double is, without its sign. -/
def magnitude : ℚ := d.mantissa * 2 ^ d.exponent

/-- The exponent as it is stored. -/
def biased : Nat := (d.exponent + 1075).toNat

theorem biased_bounds : 1 ≤ d.biased ∧ d.biased ≤ 2046 ∧ (d.biased : Int) = d.exponent + 1075 := by
  have := d.least
  have := d.greatest
  rw [biased]
  omega

theorem log2_mantissa : d.mantissa.log2 = 52 :=
  (Nat.log2_eq_iff (Nat.ne_of_gt (Nat.lt_of_lt_of_le (by decide) d.lower))).2 ⟨d.lower, d.upper⟩

theorem pack_unpacked : UnpackedFloat.pack .binary64 d.unpacked =
    packComponents .binary64 d.sign (BitVec.ofNat 11 d.biased) (BitVec.ofNat 52 d.mantissa) := by
  obtain ⟨hleast, hgreatest, -⟩ := d.biased_bounds
  have hbiased : (d.exponent + (Format.exponentBias .binary64 : Nat) + (52 : Nat)).toNat =
      d.biased := by
    rw [biased]
    congr 1
    change d.exponent + 1023 + 52 = _
    omega
  have hbits : 52 + 1 = Format.mantissaBits .binary64 := rfl
  rw [unpacked, UnpackedFloat.pack]
  simp only [hbiased, d.log2_mantissa]
  rw [if_neg (by omega), if_pos hbits]

theorem toNat_append {m n : Nat} (x : BitVec m) (y : BitVec n) :
    (x ++ y).toNat = x.toNat * 2 ^ n + y.toNat := by
  rw [BitVec.toNat_append, ← Nat.shiftLeft_add_eq_or_of_lt y.isLt, Nat.shiftLeft_eq]

theorem unpack_float : d.float.toModel.unpack = d.unpacked := by
  obtain ⟨hleast, hgreatest, hbiased⟩ := d.biased_bounds
  have hlower := d.lower
  have hupper := d.upper
  have hexponent : (BitVec.ofNat 11 d.biased).toNat = d.biased := by
    rw [BitVec.toNat_ofNat, Nat.mod_eq_of_lt (by omega)]
  have hinfinite : BitVec.ofNat 11 d.biased ≠ -1#11 := fun h => by
    have := congrArg BitVec.toNat h
    rw [hexponent] at this
    simp at this
    omega
  have hsubnormal : BitVec.ofNat 11 d.biased ≠ 0#11 := fun h => by
    have := congrArg BitVec.toNat h
    rw [hexponent] at this
    simp at this
    omega
  have hmantissa : (1#1 ++ BitVec.ofNat 52 d.mantissa).toNat = d.mantissa := by
    rw [toNat_append, BitVec.toNat_ofNat]
    simp
    omega
  change UnpackedFloat.unpack .binary64 (UnpackedFloat.pack .binary64 d.unpacked) = _
  rw [pack_unpacked, UnpackedFloat.unpack]
  simp only [unpackMantissa_packComponents, unpackExponent_packComponents,
    unpackSign_packComponents, Sign.ofBitVec_toBitVec]
  rw [if_neg hinfinite, if_neg hsubnormal, unpacked]
  simp only [hmantissa, hexponent]
  congr 1
  change (d.biased : Int) - (1023 + 52) = _
  omega

/-- The bits of a double: its sign, its exponent and its mantissa without the first digit. -/
theorem toBits_float : d.float.toBits.toNat =
    d.sign.toBitVec.toNat * 2 ^ 63 + d.biased * 2 ^ 52 + (d.mantissa - 2 ^ 52) := by
  obtain ⟨hleast, hgreatest, hbiased⟩ := d.biased_bounds
  have hlower := d.lower
  have hupper := d.upper
  change (UnpackedFloat.pack .binary64 d.unpacked).toNat = _
  rw [pack_unpacked, packComponents, toNat_append, toNat_append, BitVec.toNat_ofNat,
    BitVec.toNat_ofNat]
  omega

theorem ofFloat?_float : Binary.ofFloat? d.float =
    some ⟨d.sign.toBitVec.toNat == 1, d.mantissa, d.exponent⟩ := by
  obtain ⟨hleast, hgreatest, hbiased⟩ := d.biased_bounds
  have hlower := d.lower
  have hupper := d.upper
  have hsign : d.sign.toBitVec.toNat < 2 := d.sign.toBitVec.isLt
  have hnegative : d.float.toBits.toNat / 2 ^ 63 = d.sign.toBitVec.toNat := by
    rw [toBits_float]
    omega
  have hexponent : d.float.toBits.toNat / 2 ^ 52 % 2048 = d.biased := by
    rw [toBits_float]
    omega
  have hfraction : d.float.toBits.toNat % 2 ^ 52 = d.mantissa - 2 ^ 52 := by
    rw [toBits_float]
    omega
  rw [Binary.ofFloat?]
  simp only [Nat.pow_eq, hnegative, hexponent, hfraction]
  have hfinite : ¬ (d.biased == 2047) = true := by simpa using by omega
  have hzero : ¬ (d.biased == 0) = true := by simpa using by omega
  have hmantissa : 2 ^ 52 + (d.mantissa - 2 ^ 52) = d.mantissa := by omega
  have hexact : (d.biased : Int) - 1075 = d.exponent := by omega
  rw [if_neg hfinite, if_neg hzero, hmantissa, hexact]

end Normal

end Accession.Decimal
