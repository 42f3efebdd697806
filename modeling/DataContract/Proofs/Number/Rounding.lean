import DataContract.Proofs.Number.Exact
import Mathlib.Tactic.Ring
/-!
# Rounding of doubles

A number that is a double is rounded to itself: the exponent that is found for it is its
own, and the quotient that gives the mantissa leaves no remainder.

**Results.**
* `round_of_canonical`: the mantissa and the exponent of a double come back.
* `Double.ofScaled_of_canonical`: so does the double.
* `Double.isFinite_maxFinite`, `Double.isFinite_minFinite`: the widest bounds are finite.
* `Double.extended?_ofInt`: an integer that is the value of a double is rounded to it.
* `Number.extended?_toDouble_congr`: numbers of one value are rounded to one value.
-/

namespace DataContract

theorem log2_mul_two_pow {n : Nat} (hn : n ≠ 0) (k : Nat) :
    (n * 2 ^ k).log2 = n.log2 + k := by
  have hPower : 0 < 2 ^ k := Nat.two_pow_pos k
  have hLow : 2 ^ n.log2 ≤ n := Nat.log2_self_le hn
  have hHigh : n < 2 ^ (n.log2 + 1) := Nat.lt_log2_self
  rw [Nat.log2_eq_iff (Nat.mul_ne_zero hn hPower.ne'), Nat.add_right_comm, Nat.pow_add,
    Nat.pow_add]
  constructor
  · exact Nat.mul_le_mul_right _ hLow
  · exact Nat.mul_lt_mul_of_pos_right hHigh hPower

/-- The bits of a natural tell which powers of two it is below. -/
theorem natCast_lt_two_zpow_iff {n : Nat} (hn : n ≠ 0) {j : Int} :
    (n : ℚ) < 2 ^ j ↔ (n.log2 : Int) < j := by
  rcases Int.lt_or_le j 0 with hNeg | hNonneg
  · have hPower : (2 : ℚ) ^ j < 1 := zpow_lt_one_of_neg₀ one_lt_two hNeg
    have hOne : (1 : ℚ) ≤ n := Nat.one_le_cast.mpr (Nat.one_le_iff_ne_zero.mpr hn)
    exact iff_of_false (hPower.le.trans hOne).not_gt (by omega)
  · obtain ⟨i, rfl⟩ := Int.eq_ofNat_of_zero_le hNonneg
    rw [zpow_natCast, ← Nat.cast_ofNat, ← Nat.cast_pow, Nat.cast_lt, ← Nat.log2_lt hn,
      Int.ofNat_lt]

/-- A quotient without remainder is its own nearest natural. -/
theorem nearestEven_mul {m d : Nat} (hd : 0 < d) : nearestEven (m * d) d = m := by
  have hQuotient : m * d / d = m := Nat.mul_div_cancel m hd
  have hRemainder : m * d % d = 0 := Nat.mul_mod_left m d
  simp only [nearestEven, hQuotient, hRemainder, Nat.mul_zero, if_pos hd]

namespace BinaryFormat

section Scaled

variable {num den a k : Nat} {j : Int}

theorem scaled_den_pos (hDen : 0 < den) (j : Int) : 0 < (scaled num den j).2 :=
  Nat.mul_pos hDen (Nat.two_pow_pos _)

/-- A power of two is a quotient of two natural ones. -/
theorem two_zpow_mul_two_pow (j : Int) : (2 : ℚ) ^ j * 2 ^ (-j).toNat = 2 ^ j.toNat := by
  rw [← zpow_natCast, ← zpow_natCast, ← zpow_add₀ two_ne_zero]
  congr 1
  omega

theorem cast_mul_two_pow (m : Nat) (e : Int) :
    ((m * Nat.pow 2 e.toNat : Nat) : ℚ) = m * (2 ^ e * (2 ^ (-e).toNat : Nat)) := by
  simp only [Nat.pow_eq, Nat.cast_mul, Nat.cast_pow, Nat.cast_ofNat, two_zpow_mul_two_pow]

theorem cast_scaled_num : ((scaled num den j).1 : ℚ) = num * 2 ^ (-j).toNat := by
  simp [scaled]

theorem cast_scaled_den : ((scaled num den j).2 : ℚ) = 2 ^ j * den * 2 ^ (-j).toNat := by
  rw [mul_right_comm, two_zpow_mul_two_pow]
  simp [scaled, mul_comm]

theorem mul_scaled_den_le_iff :
    a * (scaled num den j).2 ≤ (scaled num den j).1 ↔ (a : ℚ) * (2 ^ j * den) ≤ num := by
  rw [← Nat.cast_le (α := ℚ), Nat.cast_mul, cast_scaled_num, cast_scaled_den, ← mul_assoc,
    mul_le_mul_iff_left₀ (pow_pos two_pos _)]

theorem scaled_num_le_iff :
    (scaled num den j).1 ≤ a * (scaled num den j).2 ↔ (num : ℚ) ≤ a * (2 ^ j * den) := by
  rw [← Nat.cast_le (α := ℚ), Nat.cast_mul, cast_scaled_num, cast_scaled_den, ← mul_assoc,
    mul_le_mul_iff_left₀ (pow_pos two_pos _)]

theorem two_pow_mul_two_zpow (a : Nat) (j : Int) (k : Nat) :
    ((2 ^ a : Nat) : ℚ) * (2 ^ j * (2 ^ k : Nat)) = 2 ^ (a + j + k) := by
  rw [zpow_add₀ two_ne_zero, zpow_add₀ two_ne_zero, zpow_natCast, zpow_natCast, Nat.cast_pow,
    Nat.cast_pow, Nat.cast_ofNat, mul_assoc]

/-- The scaled quotient reaches a power of two when its bits do. -/
theorem two_pow_mul_scaled_den_le_iff (hNum : num ≠ 0) :
    2 ^ a * (scaled num (2 ^ k) j).2 ≤ (scaled num (2 ^ k) j).1 ↔ a + j + k ≤ num.log2 := by
  rw [mul_scaled_den_le_iff, two_pow_mul_two_zpow, ← not_lt, natCast_lt_two_zpow_iff hNum, not_lt]

/-- The exponent that is found leaves as many bits for the mantissa as the format has, or
fewer where it is the least. -/
theorem exponentOf_eq (f : BinaryFormat) (hNum : num ≠ 0) (k : Nat) :
    f.exponentOf num (2 ^ k) = max f.minExponent ((num.log2 : Int) + 1 - k - f.width) := by
  have hDen : (2 ^ k).log2 = k := Nat.log2_two_pow
  simp only [exponentOf, hDen, Nat.pow_eq, two_pow_mul_scaled_den_le_iff hNum]
  split <;> omega

end Scaled

section Representable

variable {num den k m : Nat} {e : Int}

/-- Scaled by a power of two that is no larger than its own, the quotient is whole. -/
theorem scaled_num_eq (h : (num : ℚ) = m * 2 ^ e * den) {j : Int} (hj : j ≤ e) :
    (scaled num den j).1 = m * 2 ^ (e - j).toNat * (scaled num den j).2 := by
  have hPower : (2 : ℚ) ^ e = 2 ^ (e - j).toNat * 2 ^ j := by
    rw [← zpow_natCast, ← zpow_add₀ two_ne_zero]
    congr 1
    omega
  rw [← Nat.cast_inj (R := ℚ), Nat.cast_mul, cast_scaled_num, cast_scaled_den, h, hPower]
  push_cast
  ring

theorem num_eq_zero_iff (h : (num : ℚ) = m * 2 ^ e * (2 ^ k : Nat)) : num = 0 ↔ m = 0 := by
  have hExponent : (2 : ℚ) ^ e ≠ 0 := zpow_ne_zero e two_ne_zero
  have hDen : ((2 ^ k : Nat) : ℚ) ≠ 0 := Nat.cast_ne_zero.mpr (Nat.two_pow_pos k).ne'
  rw [← Nat.cast_eq_zero (R := ℚ), h, mul_eq_zero_iff_right hDen, mul_eq_zero_iff_right hExponent,
    Nat.cast_eq_zero]

/-- The bits of the quotient are counted by its mantissa and its exponent. -/
theorem log2_add_exponent (hm : m ≠ 0) (h : (num : ℚ) = m * 2 ^ e * (2 ^ k : Nat)) :
    (num.log2 : Int) - k = m.log2 + e := by
  have hEq := scaled_num_eq h le_rfl
  rw [sub_self, Int.toNat_zero, pow_zero, mul_one] at hEq
  simp only [scaled, Nat.pow_eq, ← Nat.pow_add] at hEq
  have hNum : num ≠ 0 := (num_eq_zero_iff h).not.mpr hm
  have hLog := congrArg Nat.log2 hEq
  rw [log2_mul_two_pow hNum, log2_mul_two_pow hm] at hLog
  omega

/-- The exponent that is found for a double is its own. -/
theorem exponentOf_of_canonical (hm : m ≠ 0) (hc : CanonicalDouble m e)
    (h : (num : ℚ) = m * 2 ^ e * (2 ^ k : Nat)) :
    double.exponentOf num (2 ^ k) = e := by
  obtain ⟨hWidth, hLeast, -, hNormal⟩ := hc
  have hLog := log2_add_exponent hm h
  have hBits : m.log2 < 53 := (Nat.log2_lt hm).mpr hWidth
  have hFull : 2 ^ 52 ≤ m → 52 ≤ m.log2 := (Nat.le_log2 hm).mpr
  rw [exponentOf_eq _ ((num_eq_zero_iff h).not.mpr hm)]
  simp only [double]
  -- A mantissa has all its bits, unless the exponent is the least.
  rcases hNormal with hNormal | hNormal
  · have := hFull hNormal
    omega
  · omega

/-- The mantissa and the exponent of a double come back. -/
theorem round_of_canonical (hc : CanonicalDouble m e)
    (h : (num : ℚ) = m * 2 ^ e * (2 ^ k : Nat)) :
    double.round num (2 ^ k) = (m, e) := by
  by_cases hm : m = 0
  · have hExponent : e = -1074 := by
      obtain ⟨-, -, -, hNormal⟩ := hc
      omega
    rw [round, if_pos ((num_eq_zero_iff h).mpr hm), hm, hExponent]
    rfl
  · have hNum : num ≠ 0 := (num_eq_zero_iff h).not.mpr hm
    have hPos := @scaled_den_pos num (2 ^ k) (Nat.two_pow_pos k) e
    have hWidth : m ≠ Nat.pow 2 double.width := by
      have hLess : m < 2 ^ 53 := hc.1
      exact hLess.ne
    rw [round, if_neg hNum]
    simp only [exponentOf_of_canonical hm hc h, scaled_num_eq h le_rfl, sub_self, Int.toNat_zero,
      pow_zero, mul_one, nearestEven_mul hPos, if_neg hWidth]

end Representable

end BinaryFormat

namespace Double

/-- A double is rounded to itself. -/
theorem nearest_of_canonical {negative : Bool} {num k m : Nat} {e : Int}
    (hc : CanonicalDouble m e) (h : (num : ℚ) = m * 2 ^ e * (2 ^ k : Nat)) :
    nearest negative num (2 ^ k) = .finite ⟨negative, m, e, hc⟩ := by
  simp only [nearest, BinaryFormat.round_of_canonical hc h, ofRounded, dif_pos hc]

theorem ofScaled_of_canonical {negative : Bool} {n m : Nat} {j e : Int}
    (hc : CanonicalDouble m e) (h : (n : ℚ) * 2 ^ j = m * 2 ^ e) :
    ofScaled negative n j = .finite ⟨negative, m, e, hc⟩ := by
  refine nearest_of_canonical hc ?_
  rw [BinaryFormat.cast_mul_two_pow, ← mul_assoc, h]

/-- An integer that is the value of a double is rounded to a double of that value. -/
theorem extended?_ofInt {x : FiniteDouble} {n : Int} (h : x.value = n) :
    (ofInt n).extended? = (finite x).extended? := by
  have hMagnitude : (x.mantissa : ℚ) * 2 ^ x.exponent = n.natAbs := by
    rw [Nat.cast_natAbs, Int.cast_abs, ← h, FiniteDouble.abs_value]
  have hNearest : ofInt n = .finite ⟨decide (n < 0), x.mantissa, x.exponent, x.canonical⟩ := by
    rw [ofInt, ← Nat.pow_zero 2]
    refine nearest_of_canonical x.canonical ?_
    rw [hMagnitude, Nat.pow_zero, Nat.cast_one, mul_one]
  -- The sign may differ from that of the double, but only at zero.
  have hValue : (FiniteDouble.mk (decide (n < 0)) x.mantissa x.exponent x.canonical).value =
      x.value := by
    rw [h, FiniteDouble.value, hMagnitude, Nat.cast_natAbs, Int.cast_abs]
    by_cases hSign : n < 0
    · have hCast : (n : ℚ) < 0 := Int.cast_lt_zero.mpr hSign
      rw [decide_eq_true hSign, if_pos rfl, abs_of_neg hCast, neg_mul_neg, one_mul]
    · have hCast : (0 : ℚ) ≤ n := Int.cast_nonneg (not_lt.mp hSign)
      rw [decide_eq_false hSign, if_neg Bool.false_ne_true, abs_of_nonneg hCast, one_mul]
  rw [hNearest, extended?, extended?, hValue]

theorem isFinite_maxFinite : maxFinite.isFinite = true := by
  rw [maxFinite, ofScaled_of_canonical (by decide) rfl]
  rfl

theorem isFinite_minFinite : minFinite.isFinite = true := by
  rw [minFinite, ofScaled_of_canonical (by decide) rfl]
  rfl

end Double

namespace Number

/-- Numbers of the same value are nearest to doubles of the same value. -/
theorem extended?_toDouble_congr {a b : Number} (h : a.value = b.value) :
    a.toDouble.extended? = b.toDouble.extended? := by
  cases a with
  | whole m hm =>
      cases b with
      | whole n hn =>
          have hEq : m = n := Int.cast_inj.mp h
          simp only [toDouble, hEq]
      | real y => exact Double.extended?_ofInt h.symm
  | real x =>
      cases b with
      | whole n hn => exact (Double.extended?_ofInt h).symm
      | real y =>
          have hValue : x.value = y.value := h
          simp only [toDouble, Double.extended?, hValue]

end Number
end DataContract
