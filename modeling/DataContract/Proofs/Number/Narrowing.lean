import DataContract.Proofs.Number.Monotone
import DataContract.Target.Shape
/-!
# Rounding without overflow

A quotient is rounded at the exponent that leaves its highest bit the place of the highest bit
of a mantissa, and a carry may raise that exponent by one.  There is no carry out of the
greatest exponent of a format when the quotient is at most the largest mantissa there, which is
a natural itself.  So nothing up to the largest number of a format is rounded to infinity.

**Results.**
* `BinaryFormat.round_bounds`: rounding ends at an exponent at which a mantissa was a bound.
* `Double.exists_nearest_eq`: up to the largest double the nearest double is finite.
* `FloatFormat.exists_store_eq`: what is in the range of a format is stored as a finite number.
-/

namespace DataContract

namespace BinaryFormat

section Bounds

variable {f : BinaryFormat} {num k most : Nat} {j : Int}

theorem exponentOf_le (hNum : num ≠ 0) (hLeast : f.minExponent ≤ j) (hMost : most < 2 ^ f.width)
    (h : (num : ℚ) ≤ most * (2 ^ j * (2 ^ k : Nat))) :
    f.exponentOf num (2 ^ k) ≤ j := by
  have hUnit : (0 : ℚ) < 2 ^ j * (2 ^ k : Nat) :=
    mul_pos (zpow_pos two_pos _) (Nat.cast_pos.mpr (Nat.two_pow_pos k))
  have hPower := h.trans_lt (mul_lt_mul_of_pos_right (Nat.cast_lt.mpr hMost) hUnit)
  rw [two_pow_mul_two_zpow, natCast_lt_two_zpow_iff hNum] at hPower
  rw [exponentOf_eq f hNum]
  omega

/-- What is at most a mantissa at some exponent is rounded to a mantissa at that exponent or a
lower one.  The mantissa has all its bits, unless the exponent is the least. -/
theorem round_bounds (hWidth : 0 < f.width) (hLeast : f.minExponent ≤ j)
    (hMost : most < 2 ^ f.width) (h : (num : ℚ) ≤ most * (2 ^ j * (2 ^ k : Nat))) :
    (f.round num (2 ^ k)).1 < 2 ^ f.width ∧
      f.minExponent ≤ (f.round num (2 ^ k)).2 ∧ (f.round num (2 ^ k)).2 ≤ j ∧
      (2 ^ (f.width - 1) ≤ (f.round num (2 ^ k)).1 ∨
        (f.round num (2 ^ k)).2 = f.minExponent) := by
  by_cases hNum : num = 0
  · rw [round, if_pos hNum]
    exact ⟨Nat.two_pow_pos _, le_rfl, hLeast, Or.inr rfl⟩
  have hExponent := exponentOf_eq f hNum k
  have hLe := exponentOf_le hNum hLeast hMost h
  rw [round_of_ne_zero hNum]
  by_cases hCarry : f.uncarried num (2 ^ k) = 2 ^ f.width
  · rw [if_pos hCarry]
    have hBelow : f.exponentOf num (2 ^ k) ≠ j := by
      intro hEq
      have hTop : f.uncarried num (2 ^ k) ≤ most := by
        rw [uncarried]
        refine nearestEven_le (scaled_den_pos (Nat.two_pow_pos k) _) (scaled_num_le_iff.mpr ?_)
        rwa [hEq]
      omega
    refine ⟨Nat.pow_lt_pow_right one_lt_two (by omega), ?_, ?_, Or.inl le_rfl⟩
    · omega
    · omega
  · rw [if_neg hCarry]
    refine ⟨lt_of_le_of_ne (uncarried_le hNum) hCarry, ?_, hLe, ?_⟩
    · omega
    · by_cases hNormal : f.exponentOf num (2 ^ k) = f.minExponent
      · exact Or.inr hNormal
      · exact Or.inl (le_uncarried hWidth hNum hNormal)

end Bounds

end BinaryFormat

namespace Double

section Finite

variable {negative : Bool} {num k m : Nat} {e : Int} {x : FiniteDouble}

/-- Up to the largest double the nearest double is finite. -/
theorem exists_nearest_eq
    (h : (num : ℚ) ≤ (0x1fffffffffffff : Nat) * (2 ^ (971 : Int) * (2 ^ k : Nat))) :
    ∃ x : FiniteDouble, nearest negative num (2 ^ k) = .finite x := by
  have hCanonical : CanonicalDouble (BinaryFormat.double.round num (2 ^ k)).1
      (BinaryFormat.double.round num (2 ^ k)).2 :=
    BinaryFormat.round_bounds (by decide) (by decide) (by decide) h
  simp only [nearest, ofRounded, dif_pos hCanonical]
  exact ⟨_, rfl⟩

/-- A mantissa at an exponent that are no larger than those of the largest double make a finite
one, also where they are not in canonical form. -/
theorem exists_ofScaled_eq (hm : m ≤ 0x1fffffffffffff) (he : e ≤ 971) :
    ∃ x : FiniteDouble, ofScaled negative m e = .finite x := by
  refine exists_nearest_eq ?_
  rw [BinaryFormat.cast_mul_two_pow]
  have hMantissa : (m : ℚ) ≤ (0x1fffffffffffff : Nat) := Nat.cast_le.mpr hm
  have hPower : (2 : ℚ) ^ e ≤ 2 ^ (971 : Int) := zpow_le_zpow_right₀ one_le_two he
  exact mul_le_mul hMantissa (mul_le_mul_of_nonneg_right hPower (Nat.cast_nonneg _))
    (mul_nonneg (zpow_nonneg two_pos.le _) (Nat.cast_nonneg _)) (Nat.cast_nonneg _)

/-- Up to the largest single the nearest single is finite. -/
theorem exists_toSingle_eq (h : |x.value| ≤ (0xffffff : Nat) * 2 ^ (104 : Int)) :
    ∃ y : FiniteDouble, (Double.finite x).toSingle = .finite y := by
  rw [FiniteDouble.abs_value] at h
  have hNum : ((x.mantissa * Nat.pow 2 x.exponent.toNat : Nat) : ℚ) ≤
      (0xffffff : Nat) * (2 ^ (104 : Int) * (2 ^ (-x.exponent).toNat : Nat)) := by
    rw [BinaryFormat.cast_mul_two_pow, ← mul_assoc, ← mul_assoc]
    exact mul_le_mul_of_nonneg_right h (Nat.cast_nonneg _)
  obtain ⟨hMantissa, -, hGreatest, -⟩ := BinaryFormat.round_bounds (f := .single)
    (by decide) (by decide) (by decide) hNum
  have hInRange : ¬ BinaryFormat.single.maxExponent <
      (BinaryFormat.single.round (x.mantissa * Nat.pow 2 x.exponent.toNat)
        (2 ^ (-x.exponent).toNat)).2 := not_lt.mpr hGreatest
  have hSmall : 2 ^ BinaryFormat.single.width ≤ 0x1fffffffffffff := by decide
  simp only [toSingle, BinaryFormat.scaled, neg_neg, Nat.one_mul]
  rw [@Nat.pow_eq 2 (-x.exponent).toNat, if_neg hInRange]
  exact exists_ofScaled_eq (hMantissa.le.trans hSmall) (hGreatest.trans (by decide))

end Finite

end Double

namespace FloatFormat

/-- The finite numbers of a format that are furthest from zero, in canonical form. -/
def extreme (f : FloatFormat) (negative : Bool) : FiniteDouble :=
  match f with
  | .single => ⟨negative, 0xffffff * 2 ^ 29, 75, by decide⟩
  | .double => ⟨negative, 0x1fffffffffffff, 971, by decide⟩

theorem value_extreme_single (negative : Bool) :
    (FloatFormat.single.extreme negative).value =
      (if negative then -1 else 1) * ((0xffffff : Nat) * 2 ^ (104 : Int)) := by
  rw [FiniteDouble.value]
  norm_num [extreme]

theorem ofScaled_single (negative : Bool) :
    Double.ofScaled negative 0xffffff 104 = .finite (FloatFormat.single.extreme negative) :=
  Double.ofScaled_of_canonical (FloatFormat.single.extreme negative).canonical
    (by norm_num [extreme])

theorem ofScaled_double (negative : Bool) :
    Double.ofScaled negative 0x1fffffffffffff 971 = .finite (FloatFormat.double.extreme negative) :=
  Double.ofScaled_of_canonical (FloatFormat.double.extreme negative).canonical rfl

theorem greatest_eq (f : FloatFormat) : f.greatest = .finite (f.extreme false) := by
  cases f with
  | single => exact ofScaled_single false
  | double => exact ofScaled_double false

theorem least_eq (f : FloatFormat) : f.least = .finite (f.extreme true) := by
  cases f with
  | single => exact ofScaled_single true
  | double => exact ofScaled_double true

section Range

variable {f : FloatFormat} {x : FiniteDouble} {y : Double}

/-- The range of a format is finite on both sides. -/
theorem exists_finite_eq (hLow : f.least.AtMost y) (hHigh : y.AtMost f.greatest) :
    ∃ x : FiniteDouble, y = .finite x ∧
      (f.extreme true).value ≤ x.value ∧ x.value ≤ (f.extreme false).value := by
  rw [least_eq, ← Double.le_iff_atMost] at hLow
  rw [greatest_eq, ← Double.le_iff_atMost] at hHigh
  cases y with
  | nan => cases hLow
  | infinite negative => cases negative <;> simp [Double.le] at hLow hHigh
  | finite x =>
      simp only [Double.le, decide_eq_true_eq, FiniteDouble.units_le_units_iff] at hLow hHigh
      exact ⟨x, rfl, hLow, hHigh⟩

/-- Within the range of a format a double is stored as a finite one. -/
theorem exists_store_eq (hLow : f.least.AtMost y) (hHigh : y.AtMost f.greatest) :
    ∃ x : FiniteDouble, f.store y = .finite x := by
  obtain ⟨x, rfl, hLow, hHigh⟩ := exists_finite_eq hLow hHigh
  cases f with
  | single =>
      rw [value_extreme_single, if_pos rfl, neg_one_mul] at hLow
      rw [value_extreme_single, if_neg Bool.false_ne_true, one_mul] at hHigh
      exact Double.exists_toSingle_eq (abs_le.mpr ⟨hLow, hHigh⟩)
  | double => exact ⟨x, rfl⟩

end Range

end FloatFormat
end DataContract
