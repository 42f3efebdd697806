import DataContract.Proofs.Number.Rounding
/-!
# Rounding keeps the order

A natural has as many bits behind its highest one as its exponent tells, and fifty-two of them
make its mantissa.  Naturals of one exponent are rounded in order because quotients by one
power of two are.  Between exponents lie powers of two, which are doubles, and no rounding
goes past a double.

**Results.**
* `nearestEven_mono`: larger naturals have larger nearest quotients.
* `BinaryFormat.le_uncarried`, `BinaryFormat.uncarried_le`: the bits of a mantissa.
* `exists_nearest_nat`: the double nearest to a natural, with its value.
* `Double.ofInt_atMost_ofInt`: integers are rounded in order.
-/

namespace DataContract

section Quotients

variable {m n n' d : Nat}

theorem nearestEven_bounds (n d : Nat) : n / d ≤ nearestEven n d ∧ nearestEven n d ≤ n / d + 1 := by
  rw [nearestEven]
  split
  · omega
  · split
    · omega
    · split <;> omega

theorem nearestEven_mono (h : n ≤ n') : nearestEven n d ≤ nearestEven n' d := by
  have hQuotients : n / d ≤ n' / d := Nat.div_le_div_right h
  rcases hQuotients.lt_or_eq with hLess | hEq
  · have hBounds := nearestEven_bounds n d
    have hBounds' := nearestEven_bounds n' d
    omega
  · -- With one quotient, the larger natural has the larger remainder.
    have hParts := Nat.div_add_mod n d
    have hParts' := Nat.div_add_mod n' d
    rw [hEq] at hParts
    rw [nearestEven, nearestEven, hEq]
    split_ifs <;> omega

theorem le_nearestEven (hd : 0 < d) (h : m * d ≤ n) : m ≤ nearestEven n d :=
  (nearestEven_mul hd).symm.trans_le (nearestEven_mono h)

theorem nearestEven_le (hd : 0 < d) (h : n ≤ m * d) : nearestEven n d ≤ m :=
  (nearestEven_mono h).trans_eq (nearestEven_mul hd)

end Quotients

namespace BinaryFormat

section Mantissas

variable {f : BinaryFormat} {num k : Nat}

/-- The mantissa at the exponent that is found, before a carry. -/
def uncarried (f : BinaryFormat) (num den : Nat) : Nat :=
  nearestEven (scaled num den (f.exponentOf num den)).1
    (scaled num den (f.exponentOf num den)).2

theorem round_of_ne_zero (hNum : num ≠ 0) (den : Nat) :
    f.round num den =
      if f.uncarried num den = 2 ^ f.width then (2 ^ (f.width - 1), f.exponentOf num den + 1)
      else (f.uncarried num den, f.exponentOf num den) := by
  rw [round, if_neg hNum]
  rfl

theorem uncarried_le (hNum : num ≠ 0) : f.uncarried num (2 ^ k) ≤ 2 ^ f.width := by
  have hExponent := exponentOf_eq f hNum k
  rw [uncarried]
  refine nearestEven_le (scaled_den_pos (Nat.two_pow_pos k) _) (le_of_not_ge fun hReach => ?_)
  rw [two_pow_mul_scaled_den_le_iff hNum] at hReach
  omega

/-- Above the least exponent the mantissa has all its bits. -/
theorem le_uncarried (hWidth : 0 < f.width) (hNum : num ≠ 0)
    (hNormal : f.exponentOf num (2 ^ k) ≠ f.minExponent) :
    2 ^ (f.width - 1) ≤ f.uncarried num (2 ^ k) := by
  have hExponent := exponentOf_eq f hNum k
  rw [uncarried]
  refine le_nearestEven (scaled_den_pos (Nat.two_pow_pos k) _) ?_
  rw [two_pow_mul_scaled_den_le_iff hNum]
  omega

end Mantissas

section Naturals

variable {n : Nat}

/-- The mantissa of a natural, before a carry. -/
def mantissaOf (n : Nat) : Nat := nearestEven (n * 2 ^ (52 - n.log2)) (2 ^ (n.log2 - 52))

/-- The value that a natural is rounded to. -/
def nearestValue (n : Nat) : ℚ := mantissaOf n * 2 ^ ((n.log2 : ℤ) - 52)

theorem scaled_nat (n : Nat) :
    scaled n 1 ((n.log2 : ℤ) - 52) = (n * 2 ^ (52 - n.log2), 2 ^ (n.log2 - 52)) := by
  have hUp : (-((n.log2 : ℤ) - 52)).toNat = 52 - n.log2 := by omega
  have hDown : ((n.log2 : ℤ) - 52).toNat = n.log2 - 52 := by omega
  rw [scaled, hUp, hDown, Nat.pow_eq, Nat.pow_eq, Nat.one_mul]

theorem exponentOf_nat (hn : n ≠ 0) : double.exponentOf n 1 = (n.log2 : ℤ) - 52 := by
  rw [← Nat.pow_zero 2, exponentOf_eq _ hn]
  simp only [double]
  omega

theorem uncarried_nat (hn : n ≠ 0) : double.uncarried n 1 = mantissaOf n := by
  rw [uncarried, exponentOf_nat hn, scaled_nat, mantissaOf]

theorem le_mantissaOf (hn : n ≠ 0) : 2 ^ 52 ≤ mantissaOf n := by
  have hNormal : double.exponentOf n 1 ≠ double.minExponent := by
    rw [exponentOf_nat hn]
    simp only [double]
    omega
  rw [← uncarried_nat hn]
  exact @le_uncarried double n 0 (by decide) hn hNormal

theorem mantissaOf_le (hn : n ≠ 0) : mantissaOf n ≤ 2 ^ 53 := by
  rw [← uncarried_nat hn]
  exact @uncarried_le double n 0 hn

theorem nearestValue_nonneg (n : Nat) : 0 ≤ nearestValue n :=
  mul_nonneg (Nat.cast_nonneg _) (zpow_nonneg two_pos.le _)

theorem nearestValue_zero : nearestValue 0 = 0 := by
  have hMantissa : mantissaOf 0 = 0 := by decide
  rw [nearestValue, hMantissa, Nat.cast_zero, zero_mul]

/-- A natural is not rounded below the power of two that it reaches. -/
theorem two_zpow_le_nearestValue (hn : n ≠ 0) : 2 ^ (n.log2 : ℤ) ≤ nearestValue n := by
  have hPower : (2 : ℚ) ^ (n.log2 : ℤ) = (2 ^ 52 : Nat) * 2 ^ ((n.log2 : ℤ) - 52) := by
    rw [Nat.cast_pow, Nat.cast_ofNat, ← zpow_natCast, ← zpow_add₀ two_ne_zero]
    congr 1
    omega
  rw [hPower, nearestValue]
  exact mul_le_mul_of_nonneg_right (Nat.cast_le.mpr (le_mantissaOf hn)) (zpow_nonneg two_pos.le _)

/-- A natural is not rounded above the power of two that it does not reach. -/
theorem nearestValue_le_two_zpow (hn : n ≠ 0) : nearestValue n ≤ 2 ^ ((n.log2 : ℤ) + 1) := by
  have hPower : (2 : ℚ) ^ ((n.log2 : ℤ) + 1) = (2 ^ 53 : Nat) * 2 ^ ((n.log2 : ℤ) - 52) := by
    rw [Nat.cast_pow, Nat.cast_ofNat, ← zpow_natCast, ← zpow_add₀ two_ne_zero]
    congr 1
    omega
  rw [hPower, nearestValue]
  exact mul_le_mul_of_nonneg_right (Nat.cast_le.mpr (mantissaOf_le hn)) (zpow_nonneg two_pos.le _)

theorem nearestValue_mono {m n : Nat} (h : m ≤ n) : nearestValue m ≤ nearestValue n := by
  by_cases hm : m = 0
  · rw [hm, nearestValue_zero]
    exact nearestValue_nonneg n
  have hn : n ≠ 0 := by omega
  have hLog : m.log2 ≤ n.log2 := (Nat.le_log2 hn).mpr ((Nat.log2_self_le hm).trans h)
  rcases hLog.lt_or_eq with hLess | hEq
  · calc nearestValue m
        ≤ 2 ^ ((m.log2 : ℤ) + 1) := nearestValue_le_two_zpow hm
      _ ≤ 2 ^ (n.log2 : ℤ) := zpow_le_zpow_right₀ one_le_two (by omega)
      _ ≤ nearestValue n := two_zpow_le_nearestValue hn
  · rw [nearestValue, nearestValue, mantissaOf, mantissaOf, hEq]
    refine mul_le_mul_of_nonneg_right (Nat.cast_le.mpr ?_) (zpow_nonneg two_pos.le _)
    exact nearestEven_mono (Nat.mul_le_mul_right _ h)

theorem round_nat (hn : n ≠ 0) :
    double.round n 1 =
      if mantissaOf n = 2 ^ 53 then (2 ^ 52, (n.log2 : ℤ) - 52 + 1)
      else (mantissaOf n, (n.log2 : ℤ) - 52) := by
  rw [round_of_ne_zero hn, uncarried_nat hn, exponentOf_nat hn]
  rfl

end Naturals
end BinaryFormat

namespace Double

open BinaryFormat

/-- The double nearest to a natural, with its value.  A natural of at most as many bits as the
largest double has is rounded to a finite one. -/
theorem exists_nearest_nat {n : Nat} (hn : n.log2 ≤ 1022) (negative : Bool) :
    ∃ x : FiniteDouble, nearest negative n 1 = .finite x ∧
      x.value = (if negative then -1 else 1) * nearestValue n := by
  by_cases hZero : n = 0
  · refine ⟨.zero negative, ?_, ?_⟩
    · rw [hZero]
      cases negative <;> rfl
    · rw [hZero, nearestValue_zero, FiniteDouble.value]
      simp [FiniteDouble.zero]
  have hLow := le_mantissaOf hZero
  have hHigh := mantissaOf_le hZero
  simp only [nearest, round_nat hZero]
  by_cases hCarry : mantissaOf n = 2 ^ 53
  · have hCanonical : CanonicalDouble (2 ^ 52) ((n.log2 : ℤ) - 52 + 1) := by
      rw [CanonicalDouble]
      omega
    refine ⟨⟨negative, 2 ^ 52, _, hCanonical⟩, ?_, ?_⟩
    · rw [if_pos hCarry, ofRounded, dif_pos hCanonical]
    · rw [FiniteDouble.value, nearestValue, hCarry, zpow_add_one₀ two_ne_zero]
      push_cast
      ring
  · have hCanonical : CanonicalDouble (mantissaOf n) ((n.log2 : ℤ) - 52) := by
      rw [CanonicalDouble]
      omega
    refine ⟨⟨negative, mantissaOf n, _, hCanonical⟩, ?_, rfl⟩
    rw [if_neg hCarry, ofRounded, dif_pos hCanonical]

/-- Integers are rounded in order. -/
theorem ofInt_atMost_ofInt {m n : Int} (hm : m.natAbs.log2 ≤ 1022) (hn : n.natAbs.log2 ≤ 1022)
    (h : m ≤ n) :
    (ofInt m).AtMost (ofInt n) := by
  obtain ⟨x, hx, hxValue⟩ := exists_nearest_nat hm (decide (m < 0))
  obtain ⟨y, hy, hyValue⟩ := exists_nearest_nat hn (decide (n < 0))
  rw [ofInt, ofInt, hx, hy]
  refine ⟨_, _, rfl, rfl, ?_⟩
  rw [WithBot.coe_le_coe, WithTop.coe_le_coe, hxValue, hyValue]
  by_cases hmSign : m < 0
  · by_cases hnSign : n < 0
    · have hOrder := nearestValue_mono (show n.natAbs ≤ m.natAbs by omega)
      simpa [hmSign, hnSign] using hOrder
    · have hBelow := nearestValue_nonneg m.natAbs
      have hAbove := nearestValue_nonneg n.natAbs
      simp only [hmSign, hnSign, decide_true, decide_false, if_true, Bool.false_eq_true, if_false]
      linarith
  · have hnSign : ¬ n < 0 := by omega
    have hOrder := nearestValue_mono (show m.natAbs ≤ n.natAbs by omega)
    simpa [hmSign, hnSign] using hOrder

theorem extended?_ofInt_ne_none {n : Int} (hn : n.natAbs.log2 ≤ 1022) :
    (ofInt n).extended? ≠ none := by
  obtain ⟨z, hz, -⟩ := exists_nearest_nat hn (decide (n < 0))
  rw [ofInt, hz]
  exact Option.some_ne_none _

/-- Literals are far below the largest double. -/
theorem log2_natAbs_le {n : Int} (h : -0x8000000000000000 ≤ n ∧ n < 0x10000000000000000) :
    n.natAbs.log2 ≤ 1022 := by
  by_cases hZero : n.natAbs = 0
  · rw [hZero]
    decide
  · have hBits : n.natAbs.log2 < 64 := (Nat.log2_lt hZero).mpr (by omega)
    omega

end Double

namespace Number

/-- The double nearest to a number is a number. -/
theorem extended?_toDouble_ne_none (m : Number) : m.toDouble.extended? ≠ none := by
  cases m with
  | whole n inRange => exact Double.extended?_ofInt_ne_none (Double.log2_natAbs_le inRange)
  | real x => exact Option.some_ne_none _

end Number
end DataContract
