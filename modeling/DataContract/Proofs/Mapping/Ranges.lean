import DataContract.Proofs.Mapping.Outcome
import DataContract.Proofs.Number.Narrowing
import DataContract.Proofs.Schema.Bounds
/-!
# Ranges of machine numbers

Storage for a machine number fits when it has the bounds of the schema.  For integers this is
exact: the bounds themselves are accepted, and what lies between them is in every range that
has both.  For floating-point numbers the bounds are compared the other way round than a value
is, so that a bound that is no number lets in everything and fits nowhere.

**Results.**
* `IntFormat.represents_iff_holds`: a format has the integers that its words stand for.
* `Schema.fitsInt_exact`: bounds fit a format exactly when every accepted value is in it.
* `Schema.fitsFloat_finite`: what a fitting format accepts is stored as a finite number.
-/

namespace DataContract

namespace IntFormat

/-- The bits of a word of a format. -/
def bits : IntFormat → Nat
  | .int8 | .uint8 => 8
  | .int16 | .uint16 => 16
  | .int32 | .uint32 => 32
  | .int64 | .uint64 => 64

/-- Whether the highest bit of a word counts as negative. -/
def isSigned : IntFormat → Bool
  | .int8 | .int16 | .int32 | .int64 => true
  | .uint8 | .uint16 | .uint32 | .uint64 => false

/-- The integer that a word of a format stands for. -/
def reading (f : IntFormat) (word : BitVec f.bits) : Int :=
  if f.isSigned then word.toInt else word.toNat

/-- Some word of a format stands for an integer. -/
def Represents (f : IntFormat) (n : Int) : Prop := ∃ word, f.reading word = n

section Words

variable {f : IntFormat} {n : Int}

theorem bits_pos (f : IntFormat) : 0 < f.bits := by
  cases f <;> decide

theorem holds_iff : f.holds n = true ↔ f.least ≤ n ∧ n ≤ f.greatest := by
  simp [holds]

theorem bounds_of_isSigned (h : f.isSigned = true) :
    f.least = -2 ^ (f.bits - 1) ∧ f.greatest = 2 ^ (f.bits - 1) - 1 := by
  cases f <;> first | exact ⟨rfl, rfl⟩ | cases h

theorem bounds_of_not_isSigned (h : ¬ f.isSigned = true) :
    f.least = 0 ∧ f.greatest = 2 ^ f.bits - 1 := by
  cases f <;> first | exact ⟨rfl, rfl⟩ | exact absurd rfl h

/-- A format has the integers that its words stand for. -/
theorem represents_iff_holds : f.Represents n ↔ f.holds n = true := by
  rw [holds_iff]
  by_cases hSigned : f.isSigned = true
  · obtain ⟨hLeast, hGreatest⟩ := bounds_of_isSigned hSigned
    simp only [Represents, reading, if_pos hSigned, hLeast, hGreatest, Int.le_sub_one_iff]
    constructor
    · rintro ⟨word, rfl⟩
      exact ⟨BitVec.le_toInt word, BitVec.toInt_lt⟩
    · rintro ⟨hLow, hHigh⟩
      exact ⟨.ofInt f.bits n, BitVec.toInt_ofInt_eq_self f.bits_pos hLow hHigh⟩
  · obtain ⟨hLeast, hGreatest⟩ := bounds_of_not_isSigned hSigned
    simp only [Represents, reading, if_neg hSigned, hLeast, hGreatest, Int.le_sub_one_iff]
    constructor
    · rintro ⟨word, rfl⟩
      exact ⟨Int.natCast_nonneg _, by exact_mod_cast word.isLt⟩
    · rintro ⟨hLow, hHigh⟩
      refine ⟨.ofInt f.bits n, ?_⟩
      rw [BitVec.toNat_ofInt, Int.emod_eq_of_lt hLow (by exact_mod_cast hHigh),
        Int.toNat_of_nonneg hLow]

end Words

end IntFormat

namespace Schema

open IntFormat

section Integers

variable {R : Readers} {types : Catalog} {note : Annotation} {lo hi : Int64} {f : IntFormat}
  {v : Value} {c : Content}

theorem fitsInt_iff : fitsInt lo hi f = true ↔ f.least ≤ lo.toInt ∧ hi.toInt ≤ f.greatest := by
  simp [fitsInt]

/-- What an integer accepts is a number between the bounds, whatever it looks like. -/
theorem validate_integer_eq_ok_iff :
    (integer note lo hi : Schema R).validate v = .ok () ↔
      ∃ m : Number, ∃ n : Int, v = .number m ∧ m.value = n ∧ lo.toInt ≤ n ∧ n ≤ hi.toInt := by
  rw [validate_eq_ok_iff, report, integerReport_eq_nil_iff_mem]
  simp [integerSet]

theorem exists_validate_integer_of_not_fitsInt (hBounds : lo ≤ hi)
    (hFits : ¬ fitsInt lo hi f = true) :
    ∃ (m : Number) (n : Int), (integer note lo hi : Schema R).validate (.number m) = .ok () ∧
      m.value = n ∧ ¬ f.Represents n := by
  have hOrder : lo.toInt ≤ hi.toInt := Int64.le_iff_toInt_le.mp hBounds
  -- One of the bounds is outside, and both of them are accepted.
  by_cases hLow : f.least ≤ lo.toInt
  · refine ⟨.whole hi.toInt (toInt_inRange hi), hi.toInt,
      validate_integer_whole_iff.mpr ⟨hOrder, le_rfl⟩, rfl, fun hHigh => hFits ?_⟩
    rw [represents_iff_holds, holds_iff] at hHigh
    exact fitsInt_iff.mpr ⟨hLow, hHigh.2⟩
  · refine ⟨.whole lo.toInt (toInt_inRange lo), lo.toInt,
      validate_integer_whole_iff.mpr ⟨le_rfl, hOrder⟩, rfl, fun hRange => hLow ?_⟩
    rw [represents_iff_holds, holds_iff] at hRange
    exact hRange.1

/-- Where the format has the bounds, an accepted number is stored as its value. -/
theorem store_integer {m : Number} {n : Int} (hFits : fitsInt lo hi f = true) (hm : m.value = n)
    (hMin : lo.toInt ≤ n) (hMax : n ≤ hi.toInt) :
    store types (.integer note lo hi : Schema R) (.number m) (.int f) c = (.ok (), .int n) := by
  have hLeast := lo.le_toInt
  have hGreatest := hi.toInt_lt
  have hRead : m.integral? = some n :=
    (Number.integral?_eq_some_iff_value_eq (by omega) (by omega)).mpr hm
  have hHolds := holds_of_fitsInt hFits hMin hMax
  have hLeaf : (integer note lo hi : Schema R).IsLeaf := trivial
  rw [store_eq_storeLeaf hLeaf (by simp)]
  simp [storeLeaf, fitsLeaf, hFits, Value.integral?, hRead, hHolds]

theorem store_integer_of_not_fitsInt (hFits : ¬ fitsInt lo hi f = true) :
    store types (.integer note lo hi : Schema R) v (.int f) c =
      (.error (.mismatch (mismatch (.integer note lo hi : Schema R) (.int f))), c) := by
  have hLeaf : (integer note lo hi : Schema R).IsLeaf := trivial
  rw [store_eq_storeLeaf hLeaf (by simp)]
  exact storeLeaf_of_not_fitsLeaf hFits

/-- Bounds in order fit a format exactly when its words stand for every accepted value.  Then
every accepted value is stored as it is.  Else some accepted value is out of range, and to store
any accepted value is a mismatch that leaves the content as it was. -/
theorem fitsInt_exact (note : Annotation) (types : Catalog) {lo hi : Int64} (hBounds : lo ≤ hi)
    (f : IntFormat) (c : Content) :
    (fitsInt lo hi f = true ↔
      ∀ v, (integer note lo hi : Schema R).validate v = .ok () →
        ∃ (m : Number) (n : Int), v = .number m ∧ m.value = n ∧ f.Represents n) ∧
    (fitsInt lo hi f = true → ∀ v, (integer note lo hi : Schema R).validate v = .ok () →
      ∃ (m : Number) (n : Int), v = .number m ∧ m.value = n ∧
        store types (.integer note lo hi : Schema R) v (.int f) c = (.ok (), .int n)) ∧
    (fitsInt lo hi f = false →
      (∃ (m : Number) (n : Int), (integer note lo hi : Schema R).validate (.number m) = .ok () ∧
        m.value = n ∧ ¬ f.Represents n) ∧
      ∀ v, (integer note lo hi : Schema R).validate v = .ok () →
        store types (.integer note lo hi : Schema R) v (.int f) c =
          (.error (.mismatch (mismatch (.integer note lo hi : Schema R) (.int f))), c)) := by
  refine ⟨⟨fun hFits v hv => ?_, fun hAll => ?_⟩, fun hFits v hv => ?_, fun hFits => ?_⟩
  · obtain ⟨m, n, rfl, hm, hMin, hMax⟩ := validate_integer_eq_ok_iff.mp hv
    exact ⟨m, n, rfl, hm, represents_iff_holds.mpr (holds_of_fitsInt hFits hMin hMax)⟩
  · by_contra hFits
    obtain ⟨m, n, hv, hm, hOut⟩ :=
      @exists_validate_integer_of_not_fitsInt R note _ _ _ hBounds hFits
    obtain ⟨m', n', hEq, hm', hIn⟩ := hAll _ hv
    cases hEq
    rw [hm, Int.cast_inj] at hm'
    exact hOut (hm' ▸ hIn)
  · obtain ⟨m, n, rfl, hm, hMin, hMax⟩ := validate_integer_eq_ok_iff.mp hv
    exact ⟨m, n, rfl, hm, store_integer hFits hm hMin hMax⟩
  · have hNot : ¬ fitsInt lo hi f = true := by simp [hFits]
    exact ⟨exists_validate_integer_of_not_fitsInt hBounds hNot,
      fun v _ => store_integer_of_not_fitsInt hNot⟩

/-- Octets fit a byte, which takes the largest of them also as a float. -/
theorem fitsInt_exact_octets :
    (0 : Int64) ≤ 255 ∧ fitsInt 0 255 .uint8 = true ∧
      ∃ (m : Number) (n : Int),
        Value.number (.real ⟨false, 255 * 2 ^ 45, -45, by decide⟩) = .number m ∧ m.value = n ∧
        store [] (.integer {} 0 255 : Schema .standard)
          (.number (.real ⟨false, 255 * 2 ^ 45, -45, by decide⟩)) (.int .uint8) (.int 7) =
          (.ok (), .int n) := by
  have hBounds : (0 : Int64) ≤ 255 := by decide
  have hFits : fitsInt 0 255 .uint8 = true := by decide
  have hValue : (Number.real ⟨false, 255 * 2 ^ 45, -45, by decide⟩).value = (255 : Int) := by
    simp only [Number.value, FiniteDouble.value]
    norm_num
  refine ⟨hBounds, hFits, (fitsInt_exact {} [] hBounds .uint8 (.int 7)).2.1 hFits _ ?_⟩
  exact validate_integer_eq_ok_iff.mpr ⟨_, 255, rfl, hValue, by decide, by decide⟩

end Integers

section Floats

variable {R : Readers} {types : Catalog} {note : Annotation} {lo hi : Double} {f : FloatFormat}
  {v : Value} {c : Content}

theorem fitsFloat_iff :
    fitsFloat lo hi f = true ↔ f.least.AtMost lo ∧ hi.AtMost f.greatest := by
  simp [fitsFloat, Double.le_iff_atMost]

/-- A bound that is in the range of a format is a number, so that what is not below it is at
least as large. -/
theorem atMost_toDouble {m : Number} {x y : Double} (hxy : x.AtMost y)
    (h : ¬ m.toDouble.Below y) : x.AtMost m.toDouble := by
  have hy := hxy.extended?_ne_none_right
  exact hxy.trans ((Double.atMost_iff_not_below hy m.extended?_toDouble_ne_none).mpr h)

theorem toDouble_atMost {m : Number} {x y : Double} (hxy : x.AtMost y)
    (h : ¬ x.Below m.toDouble) : m.toDouble.AtMost y := by
  have hx := hxy.extended?_ne_none_left
  exact ((Double.atMost_iff_not_below m.extended?_toDouble_ne_none hx).mpr h).trans hxy

theorem store_number {m : Number} (hFits : fitsFloat lo hi f = true) :
    store types (.number note lo hi : Schema R) (.number m) (.float f) c =
      (.ok (), .float (f.store m.toDouble)) := by
  have hLeaf : (number note lo hi : Schema R).IsLeaf := trivial
  rw [store_eq_storeLeaf hLeaf (by simp)]
  simp [storeLeaf, fitsLeaf, hFits, put, Value.double?]

theorem store_number_of_not_fitsFloat (hFits : ¬ fitsFloat lo hi f = true) :
    store types (.number note lo hi : Schema R) v (.float f) c =
      (.error (.mismatch (mismatch (.number note lo hi : Schema R) (.float f))), c) := by
  have hLeaf : (number note lo hi : Schema R).IsLeaf := trivial
  rw [store_eq_storeLeaf hLeaf (by simp)]
  exact storeLeaf_of_not_fitsLeaf hFits

theorem fitsFloat_eq_false
    (h : lo = .nan ∨ hi = .nan ∨ lo = .infinite true ∨ hi = .infinite false) :
    fitsFloat lo hi f = false := by
  rw [fitsFloat, FloatFormat.least_eq, FloatFormat.greatest_eq]
  rcases h with rfl | rfl | rfl | rfl <;> simp [Double.le]

/-- Nothing is stored as an infinity.  Where a format fits bounds, every accepted number is
nearest to a double in the finite range of the format, and a finite number is stored.  Bounds
that are no numbers, or infinite on their own sides, fit no format. -/
theorem fitsFloat_finite (note : Annotation) (types : Catalog) (lo hi : Double) (f : FloatFormat)
    (v : Value) (c : Content) :
    (fitsFloat lo hi f = true → (number note lo hi : Schema R).validate v = .ok () →
      ∃ (m : Number) (least greatest z x : FiniteDouble), v = .number m ∧
        f.least = .finite least ∧ f.greatest = .finite greatest ∧ m.toDouble = .finite z ∧
        least.value ≤ z.value ∧ z.value ≤ greatest.value ∧
        store types (.number note lo hi : Schema R) v (.float f) c = (.ok (), .float (.finite x))) ∧
    (lo = .nan ∨ hi = .nan ∨ lo = .infinite true ∨ hi = .infinite false →
      fitsFloat lo hi f = false ∧
        store types (.number note lo hi : Schema R) v (.float f) c =
          (.error (.mismatch (mismatch (.number note lo hi : Schema R) (.float f))), c)) := by
  constructor
  · intro hFits hv
    rw [validate_eq_ok_iff, report, numberReport_eq_nil_iff] at hv
    obtain ⟨m, rfl, hMin, hMax⟩ := hv
    obtain ⟨hLeast, hGreatest⟩ := fitsFloat_iff.mp hFits
    have hLow := atMost_toDouble hLeast hMin
    have hHigh := toDouble_atMost hGreatest hMax
    obtain ⟨z, hz, hBelow, hAbove⟩ := FloatFormat.exists_finite_eq hLow hHigh
    obtain ⟨x, hx⟩ := FloatFormat.exists_store_eq hLow hHigh
    refine ⟨m, f.extreme true, f.extreme false, z, x, rfl, f.least_eq, f.greatest_eq, hz, hBelow,
      hAbove, ?_⟩
    rw [store_number hFits, hx]
  · intro hBound
    have hFits := @fitsFloat_eq_false lo hi f hBound
    exact ⟨hFits, store_number_of_not_fitsFloat (by simp [hFits])⟩

/-- The largest single is stored as a finite one. -/
theorem fitsFloat_finite_maxSingle :
    fitsFloat (.finite (.zero false)) .maxSingle .single = true ∧
      (number {} (.finite (.zero false)) .maxSingle : Schema .standard).validate
        (.number (.real (FloatFormat.single.extreme false))) = .ok () ∧
      ∃ x : FiniteDouble,
        store [] (.number {} (.finite (.zero false)) .maxSingle : Schema .standard)
          (.number (.real (FloatFormat.single.extreme false))) (.float .single) (.float .nan) =
          (.ok (), .float (.finite x)) := by
  have hFits : fitsFloat (.finite (.zero false)) .maxSingle .single = true := by decide +kernel
  have hValid : (number {} (.finite (.zero false)) .maxSingle : Schema .standard).validate
      (.number (.real (FloatFormat.single.extreme false))) = .ok () := by
    rw [validate_eq_ok_iff, report]
    decide +kernel
  refine ⟨hFits, hValid, ?_⟩
  obtain ⟨-, -, -, -, x, -, -, -, -, -, -, hStore⟩ :=
    (fitsFloat_finite {} [] (.finite (.zero false)) .maxSingle .single _ (.float .nan)).1 hFits
      hValid
  exact ⟨x, hStore⟩

end Floats

end Schema
end DataContract
