import DataContract.Proofs.Number.Monotone
import DataContract.Proofs.Schema.Acceptance
import DataContract.Readers.Standard
/-!
# Integers between bounds

Integers are compared with the bounds of an integer as they are, and with the bounds of a
number after rounding.  Rounding keeps the order, so it moves no integer past a bound, but it
may move one that lies outside onto a bound.

**Results.**
* `validate_number_iff`: the bounds of a number let in what lies between them and what is
  rounded to one of them.
* `validate_number_ne`: beyond `2 ^ 53` an integer is rounded to this bound.
-/

namespace DataContract

namespace Double

section Order

variable {x y z : Double}

theorem AtMost.numEq (hxz : x.AtMost z) (hzx : z.AtMost x) : z.numEq x = true := by
  obtain ⟨a, c, ha, hc, hac⟩ := hxz
  obtain ⟨c', a', hc', ha', hca⟩ := hzx
  obtain rfl : a = a' := Option.some.inj (ha.symm.trans ha')
  obtain rfl : c = c' := Option.some.inj (hc.symm.trans hc')
  rw [numEq_iff, ha, hc, le_antisymm hac hca]
  exact ⟨Option.some_ne_none _, rfl⟩

theorem atMost_of_numEq (h : z.numEq x = true) : x.AtMost z ∧ z.AtMost x := by
  obtain ⟨hValue, hEq⟩ := numEq_iff.mp h
  obtain ⟨c, hc⟩ := Option.ne_none_iff_exists'.mp hValue
  exact ⟨⟨c, c, hEq ▸ hc, hc, le_rfl⟩, ⟨c, c, hc, hEq ▸ hc, le_rfl⟩⟩

end Order

section Rounding

variable {x : FiniteDouble} {b n : Int}

variable (hb : -0x8000000000000000 ≤ b ∧ b < 0x10000000000000000)
  (hn : -0x8000000000000000 ≤ n ∧ n < 0x10000000000000000) (hx : x.value = b)
include hb hn hx

theorem atMost_ofInt_of_le (h : b ≤ n) : (finite x).AtMost (ofInt n) := by
  obtain ⟨a, c, ha, hc, hac⟩ := ofInt_atMost_ofInt (log2_natAbs_le hb) (log2_natAbs_le hn) h
  exact ⟨a, c, (extended?_ofInt hx).symm.trans ha, hc, hac⟩

theorem ofInt_atMost_of_le (h : n ≤ b) : (ofInt n).AtMost (finite x) := by
  obtain ⟨c, a, hc, ha, hca⟩ := ofInt_atMost_ofInt (log2_natAbs_le hn) (log2_natAbs_le hb) h
  exact ⟨c, a, hc, (extended?_ofInt hx).symm.trans ha, hca⟩

end Rounding

end Double

namespace Schema

open Double

section Bounds

variable {R : Readers} {lo hi : Int64} {x y : FiniteDouble} {n : Int}
  {inRange : -0x8000000000000000 ≤ n ∧ n < 0x10000000000000000} {note : Annotation}

/-- A 64-bit integer is in the range of literals. -/
theorem toInt_inRange (b : Int64) :
    -0x8000000000000000 ≤ b.toInt ∧ b.toInt < 0x10000000000000000 := by
  have := b.le_toInt
  have := b.toInt_lt
  omega

theorem validate_integer_whole_iff :
    (Schema.integer note lo hi : Schema R).validate (.number (.whole n inRange)) = .ok () ↔
      lo.toInt ≤ n ∧ n ≤ hi.toInt := by
  have hRead : Value.integral? (.number (.whole n inRange)) = some n := rfl
  rw [validate_eq_ok_iff, report, integerReport_eq_nil_iff, hRead]
  simp only [Option.some.injEq, exists_eq_left']

theorem validate_number_whole_iff :
    (Schema.number note (.finite x) (.finite y) : Schema R).validate
        (.number (.whole n inRange)) = .ok () ↔
      (Double.finite x).AtMost (ofInt n) ∧ (ofInt n).AtMost (.finite y) := by
  have hn := extended?_ofInt_ne_none (log2_natAbs_le inRange)
  have hx : (Double.finite x).extended? ≠ none := Option.some_ne_none _
  have hy : (Double.finite y).extended? ≠ none := Option.some_ne_none _
  rw [validate_eq_ok_iff, report, numberReport_eq_nil_iff, atMost_iff_not_below hx hn,
    atMost_iff_not_below hn hy]
  simp only [Value.number.injEq, exists_eq_left', Number.toDouble]

/-- What is outside the bounds of a number is let in where it is rounded to a bound. -/
theorem validate_number_whole_iff_or (hx : x.value = lo.toInt) (hy : y.value = hi.toInt)
    (hBounds : lo ≤ hi) :
    (Schema.number note (.finite x) (.finite y) : Schema R).validate
        (.number (.whole n inRange)) = .ok () ↔
      (lo.toInt ≤ n ∧ n ≤ hi.toInt) ∨
        (ofInt n).numEq (.finite x) = true ∨ (ofInt n).numEq (.finite y) = true := by
  have hOrder : (Double.finite x).AtMost (.finite y) := by
    refine ⟨_, _, rfl, rfl, ?_⟩
    rw [WithBot.coe_le_coe, WithTop.coe_le_coe, hx, hy, Int.cast_le]
    exact Int64.le_iff_toInt_le.mp hBounds
  rw [validate_number_whole_iff]
  constructor
  · rintro ⟨hLow, hHigh⟩
    by_cases hBelow : n < lo.toInt
    · have hDown := ofInt_atMost_of_le (toInt_inRange lo) inRange hx hBelow.le
      exact Or.inr (Or.inl (hLow.numEq hDown))
    by_cases hAbove : hi.toInt < n
    · have hUp := atMost_ofInt_of_le (toInt_inRange hi) inRange hy hAbove.le
      exact Or.inr (Or.inr (hUp.numEq hHigh))
    · exact Or.inl (by omega)
  · rintro (⟨hLow, hHigh⟩ | hEq | hEq)
    · exact ⟨atMost_ofInt_of_le (toInt_inRange lo) inRange hx hLow,
        ofInt_atMost_of_le (toInt_inRange hi) inRange hy hHigh⟩
    · exact ⟨(atMost_of_numEq hEq).1, (atMost_of_numEq hEq).2.trans hOrder⟩
    · exact ⟨hOrder.trans (atMost_of_numEq hEq).1, (atMost_of_numEq hEq).2⟩

/-- A double is rounded to itself, and so to no other. -/
theorem eq_of_numEq_ofInt {b : Int} {z : FiniteDouble} (hz : z.value = n) (hx : x.value = b)
    (h : (ofInt n).numEq (.finite x) = true) :
    n = b := by
  have hEq := (extended?_ofInt hz).symm.trans (numEq_iff.mp h).2
  have hValue : z.value = x.value := by simpa [extended?] using hEq
  rw [hz, hx] at hValue
  exact Int.cast_inj.mp hValue

/-- Between bounds that are doubles and 64-bit integers, an integer lets in what lies between
them.  A number also lets in what is rounded to one of them.  An integer that is a double is
not rounded, so that both agree on it. -/
theorem validate_number_iff (hx : x.value = lo.toInt) (hy : y.value = hi.toInt) (hBounds : lo ≤ hi)
    (note note' : Annotation) (n : Int)
    (inRange : -0x8000000000000000 ≤ n ∧ n < 0x10000000000000000) :
    ((Schema.integer note lo hi : Schema R).validate (.number (.whole n inRange)) = .ok () ↔
        lo.toInt ≤ n ∧ n ≤ hi.toInt) ∧
      ((Schema.number note' (.finite x) (.finite y) : Schema R).validate
            (.number (.whole n inRange)) = .ok () ↔
        (lo.toInt ≤ n ∧ n ≤ hi.toInt) ∨
          (ofInt n).numEq (.finite x) = true ∨ (ofInt n).numEq (.finite y) = true) ∧
      ∀ z : FiniteDouble, z.value = n →
        ((Schema.number note' (.finite x) (.finite y) : Schema R).validate
              (.number (.whole n inRange)) = .ok () ↔
          (Schema.integer note lo hi : Schema R).validate
            (.number (.whole n inRange)) = .ok ()) := by
  refine ⟨validate_integer_whole_iff, validate_number_whole_iff_or hx hy hBounds, fun z hz => ?_⟩
  have hOrder : lo.toInt ≤ hi.toInt := Int64.le_iff_toInt_le.mp hBounds
  rw [validate_number_whole_iff_or hx hy hBounds, validate_integer_whole_iff]
  refine or_iff_left_of_imp ?_
  rintro (hEq | hEq)
  · rw [eq_of_numEq_ofInt hz hx hEq]
    exact ⟨le_rfl, hOrder⟩
  · rw [eq_of_numEq_ofInt hz hy hEq]
    exact ⟨hOrder, le_rfl⟩

/-- The double `2 ^ 53`. -/
def twoPow53 : FiniteDouble := ⟨false, 2 ^ 52, 1, by decide⟩

theorem value_twoPow53 : twoPow53.value = ((2 ^ 53 : Int64).toInt : ℚ) := by
  have hInt : (2 ^ 53 : Int64).toInt = 9007199254740992 := by decide
  rw [hInt, FiniteDouble.value, twoPow53]
  norm_num

theorem value_zero_false : (FiniteDouble.zero false).value = ((0 : Int64).toInt : ℚ) := by
  simp [FiniteDouble.value, FiniteDouble.zero]

/-- The double behind the bound `2 ^ 53` is refused by both. -/
theorem validate_number_iff_twoPow53 :
    ((FiniteDouble.zero false).value = ((0 : Int64).toInt : ℚ) ∧
        twoPow53.value = ((2 ^ 53 : Int64).toInt : ℚ) ∧ (0 : Int64) ≤ 2 ^ 53) ∧
      ((Schema.number {} (.finite (.zero false)) (.finite twoPow53) : Schema .standard).validate
          (.number (.whole (2 ^ 53 + 2) (by decide))) = .ok () ↔
        (Schema.integer {} 0 (2 ^ 53) : Schema .standard).validate
          (.number (.whole (2 ^ 53 + 2) (by decide))) = .ok ()) := by
  have hBounds : (0 : Int64) ≤ 2 ^ 53 := by decide
  refine ⟨⟨value_zero_false, value_twoPow53, hBounds⟩, ?_⟩
  have hNext : (FiniteDouble.mk false (2 ^ 52 + 1) 1 (by decide)).value =
      ((2 ^ 53 + 2 : Int) : ℚ) := by
    rw [FiniteDouble.value]
    norm_num
  have hIff := validate_number_iff (R := .standard) value_zero_false value_twoPow53 hBounds {} {}
  exact (hIff _ (by decide)).2.2 _ hNext

/-- The integer behind the bound `2 ^ 53` is rounded to the bound. -/
theorem validate_number_ne :
    ((FiniteDouble.zero false).value = ((0 : Int64).toInt : ℚ) ∧
        twoPow53.value = ((2 ^ 53 : Int64).toInt : ℚ) ∧ (0 : Int64) ≤ 2 ^ 53) ∧
      (Schema.number {} (.finite (.zero false)) (.finite twoPow53) : Schema .standard).validate
          (.number (.whole (2 ^ 53 + 1) (by decide))) = .ok () ∧
      (Schema.integer {} 0 (2 ^ 53) : Schema .standard).validate
          (.number (.whole (2 ^ 53 + 1) (by decide))) ≠ .ok () := by
  have hBounds : (0 : Int64) ≤ 2 ^ 53 := by decide
  refine ⟨⟨value_zero_false, value_twoPow53, hBounds⟩, ?_, ?_⟩
  · rw [validate_number_whole_iff_or value_zero_false value_twoPow53 hBounds]
    exact Or.inr (Or.inr (by decide +kernel))
  · rw [Ne, validate_integer_whole_iff]
    decide

end Bounds

end Schema
end DataContract
