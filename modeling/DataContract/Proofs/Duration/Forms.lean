import DataContract.Proofs.Duration.Sum
import DataContract.Proofs.Mapping.Outcome
/-!
# The two forms of a duration

A duration is given as a number of seconds or as a text.  A number is read as a clamped integer
whose magnitude is tested before it is made a 64-bit integer.  A text is added up in 64-bit
integers without its sign, the sum is tested, and the sign is put on at last.  Nothing is ever
taken away from a sum, so that no test on the other side is missing: both forms end at one
magnitude in both directions.

**Results.**
* `read_eq_ok_iff_of_written`: a written text stands for its total, if that is in range.
* `Schema.durationOf_number_eq_ok_iff`: a number stands for the duration of its value.
* `Schema.duration_forms_agree`: both forms are accepted at the same magnitudes and bound to the
  same durations.
-/

namespace DataContract
namespace Duration

section Range

/-- What is in range is a 64-bit integer as it is. -/
theorem toInt_ofInt_of_natAbs_le {n : Int} (h : n.natAbs ≤ maxSeconds) :
    (Int64.ofInt n).toInt = n := by
  have hMax : maxSeconds < 2 ^ 63 := by decide
  exact Int64.toInt_ofInt_of_le (by omega) (by omega)

theorem ofSeconds?_eq_some_iff {d : Duration} {n : Int} :
    ofSeconds? n = some d ↔ d.seconds = n := by
  obtain ⟨seconds, bounded⟩ := d
  rw [ofSeconds?]
  split
  · simp [eq_comm]
  · rename_i hOut
    simp only [reduceCtorEq, false_iff]
    rintro rfl
    exact hOut bounded

theorem read_eq_ok_iff {text : String} {d : Duration} :
    read text = .ok d ↔ ∃ n, resolve text = .ok n ∧ d.seconds = n.toInt := by
  constructor
  · intro h
    cases hResolve : resolve text with
    | error fault =>
        rw [read_of_resolve_eq_error hResolve] at h
        cases h
    | ok n =>
        rw [read_of_resolve_eq_ok hResolve] at h
        cases h
        exact ⟨n, rfl, rfl⟩
  · rintro ⟨n, hResolve, hSeconds⟩
    obtain ⟨seconds, bounded⟩ := d
    obtain rfl : seconds = n.toInt := hSeconds
    exact read_of_resolve_eq_ok hResolve

end Range

section Amounts

variable {text : String} {sign : Option Char} {groups : List Group} {d : Duration}

/-- A written text stands for its total with its sign, if the total is in range. -/
theorem read_eq_ok_iff_of_written (h : Written Char.toLower text.toList sign groups) :
    read text = .ok d ↔ total groups ≤ maxSeconds ∧ d.seconds = signed sign (total groups) := by
  rw [read_eq_ok_iff]
  rcases Nat.lt_or_ge maxSeconds (total groups) with hOut | hIn
  · rw [resolve_of_lt h hOut]
    refine iff_of_false ?_ fun hRange => Nat.not_le_of_lt hOut hRange.1
    rintro ⟨n, hResolve, -⟩
    cases hResolve
  · obtain ⟨n, hResolve, hn⟩ := exists_resolve_of_le h hIn
    simp only [hResolve, Except.ok.injEq, exists_eq_left', hn, hIn, true_and]

/-- The text of a number of units: a sign or none, the digits of the number, and the unit. -/
def amountText (sign : Option Char) (n : Nat) (unit : String) : String :=
  String.ofList (sign.toList ++ (Nat.toDigits 10 n ++ unit.toList))

example : amountText (some '-') 90 "m" = "-90m" := by decide

/-- The units of one letter, with their seconds. -/
def shortUnits : List (String × Nat) := [("d", 86400), ("h", 3600), ("m", 60)]

theorem shortUnits_subset_unitTable :
    ∀ row ∈ shortUnits, row.1 ∈ unitTable.map Prod.fst ∧
      (unitTable.lookup (String.ofList (row.1.toList.map Char.toLower))).getD 0 = row.2 ∧
      row.1.toList.map Char.toLower = row.1.toList := by
  decide

/-- A sign of an amount is the sign of its seconds. -/
theorem signed_mul (sign : Option Char) (n factor : Nat) :
    signed sign (n * factor) = signed sign n * factor := by
  rw [signed, signed]
  split
  · rw [Int.natCast_mul, Int.neg_mul]
  · exact Int.natCast_mul n factor

theorem value_toDigits (n : Nat) : value (Nat.toDigits 10 n) = n := by
  have hDigits := Nat.ofDigitChars_ten_toDigits (n := n)
  rw [Nat.ofDigitChars] at hDigits
  simpa only [value, digitValue, Nat.mul_comm] using hDigits

variable {unit : String} {factor n : Nat}

/-- The text of a number of units is written with one group, of that many units. -/
theorem written_amountText (hUnit : (unit, factor) ∈ shortUnits)
    (hSign : ∀ c ∈ sign, c = '+' ∨ c = '-') :
    ∃ g : Group, g.seconds = n * factor ∧
      Written Char.toLower (amountText sign n unit).toList sign [g] := by
  obtain ⟨hMem, hFactor, hSmall⟩ := shortUnits_subset_unitTable _ hUnit
  refine ⟨⟨Nat.toDigits 10 n, [], unit.toList, []⟩, ?_, hSign, ?_, [], [], ?_, ?_, ?_⟩
  · rw [Group.seconds, value_toDigits, hFactor]
  · rw [List.forall_mem_singleton]
    refine ⟨Nat.toDigits_ne_nil, fun c hc => ?_, List.forall_mem_nil _, ?_, List.forall_mem_nil _⟩
    · exact Nat.isDigit_of_mem_toDigits (by decide) (by decide) hc
    · rw [hSmall, String.ofList_toList]
      exact hMem
  · exact List.forall_mem_nil _
  · exact List.forall_mem_nil _
  · simp [amountText, Group.text]

/-- The text of an integer of units stands for that many seconds, if they are in range. -/
theorem read_amountText_eq_ok_iff (hUnit : (unit, factor) ∈ shortUnits)
    (hSign : ∀ c ∈ sign, c = '+' ∨ c = '-') {k : Int} (hk : signed sign k.natAbs = k) :
    read (amountText sign k.natAbs unit) = .ok d ↔ d.seconds = k * factor := by
  obtain ⟨g, hSeconds, hWritten⟩ := written_amountText (n := k.natAbs) hUnit hSign
  have hTotal : total [g] = k.natAbs * factor := hSeconds
  have hSigned : signed sign (k.natAbs * factor) = k * factor := by
    rw [signed_mul, hk]
  rw [read_eq_ok_iff_of_written hWritten, hTotal, hSigned]
  refine and_iff_right_of_imp fun hd => ?_
  have hBounded := d.bounded
  rw [hd, Int.natAbs_mul, Int.natAbs_natCast] at hBounded
  exact hBounded

end Amounts

end Duration

namespace Schema

open Duration

/-- The seconds that reading a value arrives at, as a 64-bit integer, before a duration is made of
them: the sum of a text, and a number that passes the test of its magnitude. -/
def secondsOf : Value → Option Int64
  | .string s => (Duration.resolve s).toOption
  | .number m =>
      m.integral?.bind fun n => if n.natAbs ≤ maxSeconds then some (.ofInt n) else none
  | _ => none

section Forms

variable {v : Value} {m : Number} {d : Duration} {n : Int64}

/-- A number is made a 64-bit integer only where that is exact. -/
theorem secondsOf_number_eq_some_iff :
    secondsOf (.number m) = some n ↔
      m.integral? = some n.toInt ∧ n.toInt.natAbs ≤ maxSeconds := by
  simp only [secondsOf, Option.bind_eq_some_iff, Option.ite_none_right_eq_some,
    Option.some.injEq]
  constructor
  · rintro ⟨k, hk, hRange, rfl⟩
    rw [toInt_ofInt_of_natAbs_le hRange]
    exact ⟨hk, hRange⟩
  · rintro ⟨hn, hRange⟩
    exact ⟨n.toInt, hn, hRange, Int64.ofInt_toInt n⟩

theorem secondsOf_string_eq_some_iff {s : String} :
    secondsOf (.string s) = some n ↔ Duration.resolve s = .ok n := by
  rw [secondsOf]
  cases Duration.resolve s <;> simp [Except.toOption]

/-- Nothing out of range is made a duration. -/
theorem natAbs_le_of_secondsOf (h : secondsOf v = some n) : n.toInt.natAbs ≤ maxSeconds := by
  cases v with
  | string s => exact natAbs_le_of_resolve (secondsOf_string_eq_some_iff.mp h)
  | number m => exact (secondsOf_number_eq_some_iff.mp h).2
  | _ => cases h

theorem durationOf_string_eq_ok_iff {s : String} :
    durationOf (.string s) = .ok d ↔ Duration.read s = .ok d := by
  rw [durationOf]
  cases Duration.read s <;> simp

theorem durationOf_number_eq_ok_iff_integral? :
    durationOf (.number m) = .ok d ↔ m.integral? = some d.seconds := by
  rw [durationOf]
  cases m.integral? with
  | none => simp
  | some k =>
      have hMake := @ofSeconds?_eq_some_iff d k
      simp only [Option.some.injEq, eq_comm (a := k), ← hMake]
      cases ofSeconds? k <;> simp

/-- A number stands for the duration of its value. -/
theorem durationOf_number_eq_ok_iff : durationOf (.number m) = .ok d ↔ m.value = d.seconds := by
  have hMax : maxSeconds < 2 ^ 63 := by decide
  have hBounded := d.bounded
  rw [durationOf_number_eq_ok_iff_integral?]
  exact Number.integral?_eq_some_iff_value_eq (by omega) (by omega)

/-- The duration of a value is made of the seconds that reading it arrives at. -/
theorem durationOf_eq_ok_iff :
    durationOf v = .ok d ↔ ∃ n, secondsOf v = some n ∧ d.seconds = n.toInt := by
  cases v with
  | string s =>
      simp only [durationOf_string_eq_ok_iff, secondsOf_string_eq_some_iff]
      exact read_eq_ok_iff
  | number m =>
      simp only [durationOf_number_eq_ok_iff_integral?, secondsOf_number_eq_some_iff]
      constructor
      · intro h
        have hInt := toInt_ofInt_of_natAbs_le d.bounded
        refine ⟨.ofInt d.seconds, ?_, hInt.symm⟩
        rw [hInt]
        exact ⟨h, d.bounded⟩
      · rintro ⟨n, ⟨hn, -⟩, hSeconds⟩
        rw [hSeconds]
        exact hn
  | _ => simp [durationOf, secondsOf]

variable {R : Readers} {note : Annotation} {types : Catalog} {c : Content}

theorem validate_duration_eq_ok_iff :
    (duration note : Schema R).validate v = .ok () ↔ ∃ d, durationOf v = .ok d := by
  rw [validate_eq_ok_iff, report, durationReport_eq_nil_iff]

theorem store_duration (h : durationOf v = .ok d) :
    store types (.duration note : Schema R) v .duration c = (.ok (), .duration d) := by
  have hLeaf : (Schema.duration note : Schema R).IsLeaf := trivial
  rw [store_eq_storeLeaf hLeaf (by simp)]
  simp [storeLeaf, fitsLeaf, h]

theorem exists_durationOf_number_iff :
    (∃ d, durationOf (.number m) = .ok d) ↔ ∃ n : Int, m.value = n ∧ n.natAbs ≤ maxSeconds := by
  simp only [durationOf_number_eq_ok_iff]
  constructor
  · rintro ⟨d, hd⟩
    exact ⟨d.seconds, hd, d.bounded⟩
  · rintro ⟨n, hn, hRange⟩
    exact ⟨⟨n, hRange⟩, hn⟩

/-- A number of seconds and the text of as many units stand for the same duration, if any. -/
theorem durationOf_number_eq_ok_iff_amountText {unit : String} {factor : Nat} {k : Int}
    {sign : Option Char} (hUnit : (unit, factor) ∈ shortUnits)
    (hSign : ∀ c ∈ sign, c = '+' ∨ c = '-') (hk : signed sign k.natAbs = k)
    (hm : m.value = (k * factor : Int)) :
    durationOf (.number m) = .ok d ↔
      durationOf (.string (amountText sign k.natAbs unit)) = .ok d := by
  rw [durationOf_number_eq_ok_iff, durationOf_string_eq_ok_iff,
    read_amountText_eq_ok_iff hUnit hSign hk, hm, Int.cast_inj]
  exact eq_comm

/-- The two forms of a duration agree.  A number is accepted exactly when its value is an
integer in range, and that many seconds are stored.  The number of seconds of some days, hours
or minutes and the text of them are accepted together, and the same duration is stored.  From
no value is a number of seconds out of range made a duration. -/
theorem duration_forms_agree (note : Annotation) (types : Catalog) (c : Content) :
    (∀ m : Number,
      ((duration note : Schema R).validate (.number m) = .ok () ↔
        ∃ n : Int, m.value = n ∧ n.natAbs ≤ maxSeconds) ∧
      ∀ n : Int, m.value = n → n.natAbs ≤ maxSeconds →
        ∃ d : Duration, d.seconds = n ∧
          store types (.duration note : Schema R) (.number m) .duration c =
            (.ok (), .duration d)) ∧
    (∀ unit factor, (unit, factor) ∈ shortUnits →
      ∀ (k : Int) (sign : Option Char), (∀ c ∈ sign, c = '+' ∨ c = '-') →
        signed sign k.natAbs = k → ∀ m : Number, m.value = (k * factor : Int) →
        ((duration note : Schema R).validate (.number m) = .ok () ↔
          (duration note : Schema R).validate (.string (amountText sign k.natAbs unit)) =
            .ok ()) ∧
        ((duration note : Schema R).validate (.number m) = .ok () →
          ∃ d : Duration, d.seconds = k * factor ∧
            ∀ v ∈ [.number m, .string (amountText sign k.natAbs unit)],
              store types (.duration note : Schema R) v .duration c = (.ok (), .duration d))) ∧
    ∀ v, (∀ n, secondsOf v = some n → n.toInt.natAbs ≤ maxSeconds) ∧
      ∀ d, durationOf v = .ok d ↔ ∃ n, secondsOf v = some n ∧ d.seconds = n.toInt := by
  refine ⟨fun m => ⟨?_, fun n hn hRange => ?_⟩, ?_,
    fun v => ⟨fun n => natAbs_le_of_secondsOf, fun d => durationOf_eq_ok_iff⟩⟩
  · rw [validate_duration_eq_ok_iff, exists_durationOf_number_iff]
  · exact ⟨⟨n, hRange⟩, rfl, store_duration (durationOf_number_eq_ok_iff.mpr hn)⟩
  · intro unit factor hUnit k sign hSign hk m hm
    have hForms : ∀ d, durationOf (.number m) = .ok d ↔
        durationOf (.string (amountText sign k.natAbs unit)) = .ok d :=
      fun d => durationOf_number_eq_ok_iff_amountText hUnit hSign hk hm
    simp only [validate_duration_eq_ok_iff, hForms, true_and, iff_self, List.forall_mem_cons]
    rintro ⟨d, hd⟩
    have hSeconds := durationOf_number_eq_ok_iff.mp ((hForms d).mpr hd)
    rw [hm, Int.cast_inj] at hSeconds
    exact ⟨d, hSeconds.symm, store_duration ((hForms d).mpr hd), store_duration hd,
      List.forall_mem_nil _⟩

/-- Ninety minutes back, as a float and as a text. -/
theorem duration_forms_agree_minutes :
    (("m", 60) ∈ shortUnits ∧ signed (some '-') (-90 : Int).natAbs = -90 ∧
      (Number.real ⟨true, 5400 * 2 ^ 40, -40, by decide⟩).value = ((-90 * (60 : Nat) : Int) : ℚ)) ∧
    ∃ d : Duration, d.seconds = -90 * (60 : Nat) ∧
      ∀ v ∈ [.number (.real ⟨true, 5400 * 2 ^ 40, -40, by decide⟩),
          .string (amountText (some '-') (-90 : Int).natAbs "m")],
        store [] (.duration {} : Schema .standard) v .duration (.duration zero) =
          (.ok (), .duration d) := by
  have hUnit : ("m", 60) ∈ shortUnits := by decide
  have hSigned : signed (some '-') (-90 : Int).natAbs = -90 := by decide
  have hValue : (Number.real ⟨true, 5400 * 2 ^ 40, -40, by decide⟩).value =
      ((-90 * (60 : Nat) : Int) : ℚ) := by
    simp only [Number.value, FiniteDouble.value]
    norm_num
  refine ⟨⟨hUnit, hSigned, hValue⟩, ?_⟩
  have hAgree := duration_forms_agree (R := .standard) {} [] (.duration zero)
  refine (hAgree.2.1 "m" 60 hUnit (-90) (some '-') ?_ hSigned _ hValue).2 ?_
  · exact fun c hc => Or.inr (Option.some.inj hc).symm
  · exact (hAgree.1 _).1.mpr ⟨-90 * (60 : Nat), hValue, by decide⟩

end Forms

end Schema
end DataContract
