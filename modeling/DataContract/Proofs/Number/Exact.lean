import DataContract.Value
import Mathlib.Algebra.Order.WithTop.Untop0
import Mathlib.Data.Rat.Cast.Order
import Mathlib.Tactic.FieldSimp
import Mathlib.Tactic.Linarith
import Mathlib.Tactic.Positivity
/-!
# Exact values of numbers

A finite double stands for a rational number, and so does a number as it was written.
The comparisons and conversions of doubles, which count in units of the least double,
agree with those of the rational numbers.

**Results.**
* `FiniteDouble.units_lt_units_iff`: the units of doubles compare as their values do.
* `FiniteDouble.whole?_eq_some_iff`: a double is whole exactly when its value is an integer.
* `Double.lt_iff_below`, `Double.le_iff_atMost`: the order of doubles is that of their
  values, with two infinities.
* `Double.numEq_iff`: doubles are equal as numbers when they have a value and the same one.
* `Number.exists_integral?_iff`: clamping is invisible between bounds of 128 bits.
-/

namespace DataContract

namespace FiniteDouble

/-- The exact value, `± mantissa * 2 ^ exponent`. -/
def value (x : FiniteDouble) : ℚ :=
  (if x.negative then -1 else 1) * (x.mantissa * 2 ^ x.exponent)

theorem abs_value (x : FiniteDouble) : |x.value| = x.mantissa * 2 ^ x.exponent := by
  have hNonneg : (0 : ℚ) ≤ x.mantissa * 2 ^ x.exponent :=
    mul_nonneg (Nat.cast_nonneg _) (zpow_nonneg two_pos.le _)
  rw [value, abs_mul, abs_of_nonneg hNonneg]
  cases x.negative <;> simp

theorem cast_unitsPerOne : (unitsPerOne : ℚ) = 2 ^ (1074 : ℤ) := by
  -- The exponent is kept as a variable, so that nothing evaluates the power.
  obtain ⟨n, hn, hUnits⟩ : ∃ n, n = 1074 ∧ unitsPerOne = Nat.pow 2 n :=
    ⟨1074, rfl, by delta unitsPerOne; rfl⟩
  have hExponent : (1074 : ℤ) = n := by omega
  rw [hUnits, Nat.pow_eq, Nat.cast_pow, Nat.cast_ofNat, hExponent, zpow_natCast]

theorem unitsPerOne_pos : (0 : ℚ) < unitsPerOne := by
  rw [cast_unitsPerOne]
  exact zpow_pos two_pos _

/-- Both sides count the same multiple of the least power of two. -/
theorem cast_magnitude (x : FiniteDouble) :
    (x.magnitude : ℚ) = x.mantissa * 2 ^ x.exponent * unitsPerOne := by
  have hExponent : 0 ≤ x.exponent + 1074 := by
    have := x.canonical.2.1
    omega
  have hPower : (2 : ℚ) ^ (x.exponent + 1074).toNat = 2 ^ x.exponent * unitsPerOne := by
    rw [← zpow_natCast, Int.toNat_of_nonneg hExponent, zpow_add₀ two_ne_zero, cast_unitsPerOne]
  rw [magnitude, Nat.pow_eq, Nat.cast_mul, Nat.cast_pow, Nat.cast_ofNat, hPower, mul_assoc]

/-- The units are the value, scaled. -/
theorem cast_units (x : FiniteDouble) : (x.units : ℚ) = x.value * unitsPerOne := by
  have h := x.cast_magnitude
  cases hSign : x.negative with
  | false =>
      simp only [units, value, hSign, Bool.false_eq_true, if_false, Int.cast_natCast, h, one_mul]
  | true =>
      simp only [units, value, hSign, if_true, Int.cast_neg, Int.cast_natCast, h, neg_mul,
        one_mul]

theorem units_lt_units_iff {x y : FiniteDouble} : x.units < y.units ↔ x.value < y.value := by
  rw [← Int.cast_lt (R := ℚ), cast_units, cast_units]
  exact mul_lt_mul_iff_left₀ unitsPerOne_pos

theorem units_le_units_iff {x y : FiniteDouble} : x.units ≤ y.units ↔ x.value ≤ y.value := by
  rw [← not_lt, units_lt_units_iff, not_lt]

/-- Equal units are equal values; the sign of a zero does not count. -/
theorem sameValue_iff {x y : FiniteDouble} : x.sameValue y = true ↔ x.value = y.value := by
  rw [sameValue, beq_iff_eq, le_antisymm_iff, le_antisymm_iff, units_le_units_iff,
    units_le_units_iff]

/-- A value is an integer exactly when the units are that many times those of one. -/
theorem value_eq_intCast_iff {x : FiniteDouble} {n : Int} :
    x.value = n ↔ x.units = n * unitsPerOne := by
  rw [← Int.cast_inj (α := ℚ), cast_units, Int.cast_mul, Int.cast_natCast]
  exact (mul_left_inj' unitsPerOne_pos.ne').symm

theorem natAbs_units (x : FiniteDouble) : x.units.natAbs = x.magnitude := by
  cases hSign : x.negative <;> simp [units, hSign]

/-- The test on the magnitude is a test on the signed units. -/
theorem isWhole_iff_dvd {x : FiniteDouble} :
    x.isWhole = true ↔ (unitsPerOne : Int) ∣ x.units := by
  rw [isWhole, beq_iff_eq, ← Nat.dvd_iff_mod_eq_zero, ← natAbs_units, Int.natCast_dvd]

/-- A double is whole exactly when its value is an integer. -/
theorem whole?_eq_some_iff {x : FiniteDouble} {n : Int} :
    x.whole? = some n ↔ x.value = n := by
  have hUnit : (unitsPerOne : Int) ≠ 0 := by
    have := unitsPerOne_pos
    exact_mod_cast this.ne'
  rw [value_eq_intCast_iff]
  constructor
  · intro h
    rw [whole?] at h
    split at h
    · rename_i hWhole
      cases h
      exact (Int.tdiv_mul_cancel (isWhole_iff_dvd.mp hWhole)).symm
    · cases h
  · intro h
    have hWhole : x.isWhole = true := isWhole_iff_dvd.mpr ⟨n, by rw [h, mul_comm]⟩
    rw [whole?, if_pos hWhole, truncate, h, Int.mul_tdiv_cancel _ hUnit]

end FiniteDouble

namespace Double

/-- The value of a double, infinities included. -/
def extended? : Double → Option (WithBot (WithTop ℚ))
  | .finite x => some ((x.value : WithTop ℚ) : WithBot (WithTop ℚ))
  | .infinite true => some ⊥
  | .infinite false => some ((⊤ : WithTop ℚ) : WithBot (WithTop ℚ))
  | .nan => none

/-- One double has a value below that of the other. -/
def Below (x y : Double) : Prop :=
  ∃ a b, x.extended? = some a ∧ y.extended? = some b ∧ a < b

/-- One double has a value that is at most that of the other. -/
def AtMost (x y : Double) : Prop :=
  ∃ a b, x.extended? = some a ∧ y.extended? = some b ∧ a ≤ b

theorem value_lt_top (x : FiniteDouble) :
    ((x.value : WithTop ℚ) : WithBot (WithTop ℚ)) < ((⊤ : WithTop ℚ) : WithBot (WithTop ℚ)) :=
  WithBot.coe_lt_coe.mpr (WithTop.coe_lt_top _)

theorem lt_iff_below {x y : Double} : x.lt y = true ↔ x.Below y := by
  cases x with
  | nan => simp [lt, Below, extended?]
  | finite x =>
      cases y with
      | nan => simp [lt, Below, extended?]
      | finite y => simp [lt, Below, extended?, FiniteDouble.units_lt_units_iff]
      | infinite n =>
          cases n with
          | false => exact iff_of_true rfl ⟨_, _, rfl, rfl, value_lt_top x⟩
          | true => simp [lt, Below, extended?]
  | infinite n =>
      cases y with
      | nan => simp [lt, Below, extended?]
      | finite y => cases n <;> simp [lt, Below, extended?]
      | infinite m => cases n <;> cases m <;> simp [lt, Below, extended?]

theorem le_iff_atMost {x y : Double} : x.le y = true ↔ x.AtMost y := by
  cases x with
  | nan => simp [le, AtMost, extended?]
  | finite x =>
      cases y with
      | nan => simp [le, AtMost, extended?]
      | finite y => simp [le, AtMost, extended?, FiniteDouble.units_le_units_iff]
      | infinite n =>
          cases n with
          | false => exact iff_of_true rfl ⟨_, _, rfl, rfl, (value_lt_top x).le⟩
          | true => simp [le, AtMost, extended?]
  | infinite n =>
      cases y with
      | nan => simp [le, AtMost, extended?]
      | finite y => cases n <;> simp [le, AtMost, extended?]
      | infinite m => cases n <;> cases m <;> simp [le, AtMost, extended?]

/-- A comparison depends on the values of its sides only. -/
theorem lt_congr {x y u w : Double} (hxy : x.extended? = y.extended?)
    (huw : u.extended? = w.extended?) :
    x.lt u = y.lt w := by
  rw [Bool.eq_iff_iff, lt_iff_below, lt_iff_below, Below, Below, hxy, huw]

theorem AtMost.extended?_ne_none_left {x y : Double} (h : x.AtMost y) : x.extended? ≠ none := by
  obtain ⟨a, -, ha, -, -⟩ := h
  rw [ha]
  exact Option.some_ne_none a

theorem AtMost.extended?_ne_none_right {x y : Double} (h : x.AtMost y) : y.extended? ≠ none := by
  obtain ⟨-, b, -, hb, -⟩ := h
  rw [hb]
  exact Option.some_ne_none b

theorem atMost_iff_not_below {x y : Double} (hx : x.extended? ≠ none)
    (hy : y.extended? ≠ none) :
    x.AtMost y ↔ ¬ y.Below x := by
  obtain ⟨a, ha⟩ := Option.ne_none_iff_exists'.mp hx
  obtain ⟨b, hb⟩ := Option.ne_none_iff_exists'.mp hy
  simp [AtMost, Below, ha, hb]

theorem AtMost.trans {x y z : Double} (hxy : x.AtMost y) (hyz : y.AtMost z) : x.AtMost z := by
  obtain ⟨a, b, ha, hb, hab⟩ := hxy
  obtain ⟨b', c, hb', hc, hbc⟩ := hyz
  obtain rfl : b = b' := Option.some.inj (hb.symm.trans hb')
  exact ⟨a, c, ha, hc, hab.trans hbc⟩

/-- Doubles are equal as numbers when they have a value and the same one. -/
theorem numEq_iff {x y : Double} :
    x.numEq y = true ↔ x.extended? ≠ none ∧ x.extended? = y.extended? := by
  cases x with
  | nan => cases y <;> simp [numEq, extended?]
  | infinite n =>
      cases y with
      | nan => cases n <;> simp [numEq, extended?]
      | infinite m => cases n <;> cases m <;> simp [numEq, extended?]
      | finite y => cases n <;> simp [numEq, extended?]
  | finite x =>
      cases y with
      | nan => simp [numEq, extended?]
      | infinite m => cases m <;> simp [numEq, extended?]
      | finite y => simp [numEq, extended?, FiniteDouble.sameValue_iff]

theorem numEq_comm (x y : Double) : x.numEq y = y.numEq x := by
  rw [Bool.eq_iff_iff, numEq_iff, numEq_iff]
  constructor
  · rintro ⟨h, hEq⟩
    exact ⟨hEq ▸ h, hEq.symm⟩
  · rintro ⟨h, hEq⟩
    exact ⟨hEq ▸ h, hEq.symm⟩

theorem numEq_congr {x y : Double} (h : x.numEq y = true) (z : Double) :
    x.numEq z = y.numEq z := by
  rw [Bool.eq_iff_iff, numEq_iff, numEq_iff, (numEq_iff.mp h).2]

end Double

namespace Number

/-- The exact value of a number. -/
def value : Number → ℚ
  | .whole n _ => n
  | .real x => x.value

/-- Clamping is invisible between bounds of 128 bits. -/
theorem clamp_mem_iff {n lo hi : Int} (hLo : -2 ^ 127 < lo) (hHi : hi < 2 ^ 127 - 1) :
    (lo ≤ clamp n ∧ clamp n ≤ hi) ↔ (lo ≤ n ∧ n ≤ hi) := by
  unfold clamp
  split
  · omega
  · split <;> omega

theorem clamp_of_mem {n lo hi : Int} (hLo : -2 ^ 127 < lo) (hHi : hi < 2 ^ 127 - 1)
    (h : lo ≤ n ∧ n ≤ hi) :
    clamp n = n := by
  unfold clamp
  split
  · omega
  · split <;> omega

/-- Within 128 bits only an integer itself is clamped to it. -/
theorem clamp_eq_iff {n k : Int} (hLo : -2 ^ 127 < k) (hHi : k < 2 ^ 127 - 1) :
    clamp n = k ↔ n = k := by
  have hMem := clamp_mem_iff (n := n) hLo hHi
  omega

/-- The integer that is read off a number is its value, clamped. -/
theorem integral?_eq_some_iff {m : Number} {k : Int} :
    m.integral? = some k ↔ ∃ n : Int, m.value = n ∧ clamp n = k := by
  cases m with
  | whole n inRange =>
      have hClamp : clamp n = n :=
        @clamp_of_mem n (-2 ^ 63) (2 ^ 64) (by decide) (by decide) (by omega)
      constructor
      · intro h
        obtain rfl : n = k := Option.some.inj h
        exact ⟨n, rfl, hClamp⟩
      · rintro ⟨n', hValue, rfl⟩
        have hEq : n = n' := by exact_mod_cast (show ((n : Int) : ℚ) = n' from hValue)
        rw [← hEq, hClamp]
        rfl
  | real x =>
      show x.whole?.map clamp = some k ↔ _
      rw [Option.map_eq_some_iff]
      exact exists_congr fun n => and_congr_left fun _ => FiniteDouble.whole?_eq_some_iff

/-- An integer within 128 bits is read off a number exactly when it is its value. -/
theorem integral?_eq_some_iff_value_eq {m : Number} {k : Int} (hLo : -2 ^ 127 < k)
    (hHi : k < 2 ^ 127 - 1) :
    m.integral? = some k ↔ m.value = k := by
  rw [integral?_eq_some_iff]
  simp only [clamp_eq_iff hLo hHi, exists_eq_right]

/-- The integer that is read off a number depends on its value only. -/
theorem integral?_congr {a b : Number} (h : a.value = b.value) : a.integral? = b.integral? := by
  ext k
  rw [integral?_eq_some_iff, integral?_eq_some_iff, h]

/-- Between bounds of 128 bits, what is read off a number is its exact value. -/
theorem exists_integral?_iff {m : Number} {lo hi : Int} (hLo : -2 ^ 127 < lo)
    (hHi : hi < 2 ^ 127 - 1) :
    (∃ k, m.integral? = some k ∧ lo ≤ k ∧ k ≤ hi) ↔
      ∃ n : Int, m.value = n ∧ lo ≤ n ∧ n ≤ hi := by
  constructor
  · rintro ⟨k, hk, hBounds⟩
    obtain ⟨n, hn, rfl⟩ := integral?_eq_some_iff.mp hk
    exact ⟨n, hn, (clamp_mem_iff hLo hHi).mp hBounds⟩
  · rintro ⟨n, hn, hBounds⟩
    refine ⟨n, integral?_eq_some_iff.mpr ⟨n, hn, clamp_of_mem hLo hHi hBounds⟩, hBounds⟩

end Number
end DataContract
