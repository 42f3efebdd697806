import DataContract.Proofs.Entries
import DataContract.Proofs.Schema.ValueSet
import Mathlib.Data.Fin.Tuple.Basic
/-!
# Which values are accepted

A report is empty exactly when the value belongs to the set of the schema.  Reports of
parts are put under a step, which leaves no issue out, so that the emptiness of a report
is that of its parts; a combination looks at the emptiness of the reports of its branches
alone.

**Results.**
* `report_eq_nil_iff`: the report of a value is empty exactly when the value is a member.
* `validate_eq_ok_iff_mem_valueSet`: so is validation, and a refusal names an issue.
-/

namespace DataContract

variable {R : Readers}

namespace Report

@[simp] theorem single_ne_nil (cause : Cause) : Report.single cause ≠ [] :=
  List.cons_ne_nil _ _

/-- A step above a report neither adds nor removes an issue. -/
@[simp] theorem under_eq_nil_iff {segment : Segment} {report : Report} :
    report.under segment = [] ↔ report = [] :=
  List.map_eq_nil_iff

end Report

namespace Value

theorem hasDuplicates_eq_false_iff_pairwise {items : List Value} :
    hasDuplicates items = false ↔ items.Pairwise fun a b => a.same b = false := by
  induction items with
  | nil => simp [hasDuplicates]
  | cons item items ih =>
      rw [hasDuplicates, Bool.or_eq_false_iff, ih, List.pairwise_cons, List.any_eq_false]
      simp only [Bool.not_eq_true]

theorem hasDuplicates_eq_false_iff {items : List Value} :
    hasDuplicates items = false ↔ Schema.Distinct items := by
  rw [hasDuplicates_eq_false_iff_pairwise, List.pairwise_iff_getElem]
  constructor
  · intro h i j hij hj
    exact h i j (hij.trans hj) hj hij
  · intro h i j _ hj hij
    exact h i j hij hj

end Value

namespace Schema

section Leaves

variable {v : Value}

/-- The bounds apply to what is read off the number. -/
theorem integerReport_eq_nil_iff {minimum maximum : Int64} :
    integerReport minimum maximum v = [] ↔
      ∃ n, v.integral? = some n ∧ minimum.toInt ≤ n ∧ n ≤ maximum.toInt := by
  unfold integerReport
  cases v.integral? with
  | none => simp
  | some n =>
      by_cases hMin : n < minimum.toInt
      · simp [hMin]
      · by_cases hMax : maximum.toInt < n
        · simp [hMin, hMax]
        · simp [hMin, hMax]
          omega

theorem exists_integral?_iff_mem_integerSet {lo hi : Int} (hLo : -2 ^ 127 < lo)
    (hHi : hi < 2 ^ 127 - 1) :
    (∃ n, v.integral? = some n ∧ lo ≤ n ∧ n ≤ hi) ↔ v ∈ integerSet lo hi := by
  cases v with
  | number m =>
      rw [integerSet, Set.mem_ofPred_eq]
      simp only [Value.number.injEq, exists_and_left, exists_eq_left']
      exact Number.exists_integral?_iff hLo hHi
  | _ => simp [integerSet, Value.integral?]

theorem integerReport_eq_nil_iff_mem {minimum maximum : Int64} :
    integerReport minimum maximum v = [] ↔ v ∈ integerSet minimum.toInt maximum.toInt := by
  have hMin := minimum.le_toInt
  have hMax := maximum.toInt_lt
  rw [integerReport_eq_nil_iff]
  exact exists_integral?_iff_mem_integerSet (by omega) (by omega)

theorem numberReport_eq_nil_iff {minimum maximum : Double} :
    numberReport minimum maximum v = [] ↔
      ∃ m : Number, v = .number m ∧ ¬ m.toDouble.Below minimum ∧
        ¬ maximum.Below m.toDouble := by
  cases v with
  | number m =>
      simp only [numberReport, Value.double?, ← Double.lt_iff_below]
      by_cases hMin : m.toDouble.lt minimum = true
      · simp [hMin]
      · by_cases hMax : maximum.lt m.toDouble = true <;> simp [hMin, hMax]
  | _ => simp [numberReport, Value.double?]

theorem booleanReport_eq_nil_iff : booleanReport v = [] ↔ ∃ b, v = .bool b := by
  cases v <;> simp [booleanReport]

theorem stringReport_eq_nil_iff {issues : String → Report} :
    stringReport issues v = [] ↔ v ∈ stringSet fun s => issues s = [] := by
  cases v <;> simp [stringReport, stringSet]

theorem stringReport_eq_nil_iff_mem {issues : String → Report} {P : String → Prop}
    (h : ∀ s, issues s = [] ↔ P s) :
    stringReport issues v = [] ↔ v ∈ stringSet P := by
  rw [stringReport_eq_nil_iff]
  simp only [h]

theorem textReport_eq_nil_iff {minLength maxLength : UInt64} {pattern : Option (Pattern R)}
    {s : String} :
    textReport minLength maxLength pattern s = [] ↔
      (minLength ≠ 0 → minLength.toNat ≤ s.length) ∧
        (maxLength ≠ 0 → s.length ≤ maxLength.toNat) ∧
        ∀ p, pattern = some p → p.isMatch s = true := by
  have hZero (n : UInt64) : n ≠ 0 ↔ n.toNat ≠ 0 := by
    rw [ne_eq, ← UInt64.toNat_inj]
    rfl
  simp only [textReport, List.append_eq_nil_iff, hZero, and_assoc]
  refine and_congr ?_ (and_congr ?_ ?_)
  · split <;> simp_all
  · split <;> simp_all
  · cases pattern with
    | none => simp
    | some p => by_cases hMatch : p.isMatch s = true <;> simp [hMatch]

theorem optionReport_eq_nil_iff {options : List String} {s : String} :
    optionReport options s = [] ↔ s ∈ options := by
  unfold optionReport
  by_cases h : s ∈ options <;> simp [h]

theorem uriReport_eq_nil_iff {s : String} :
    uriReport R s = [] ↔ ∃ u, R.uri s = .ok u := by
  unfold uriReport
  cases R.uri s <;> simp

theorem timestampReport_eq_nil_iff {s : String} :
    timestampReport R s = [] ↔ ∃ t, R.timestamp s = .ok t := by
  unfold timestampReport
  cases R.timestamp s <;> simp

theorem durationReport_eq_nil_iff :
    durationReport v = [] ↔ ∃ d, durationOf v = .ok d := by
  unfold durationReport
  cases durationOf v <;> simp

/-- A duration is written as a text or as a whole number of seconds. -/
theorem exists_durationOf_iff :
    (∃ d, durationOf v = .ok d) ↔
      v ∈ stringSet (fun s => ∃ d, Duration.read s = .ok d) ∪
        integerSet (-(Duration.maxSeconds : Int)) Duration.maxSeconds := by
  rw [Set.mem_union, ← exists_integral?_iff_mem_integerSet (by decide) (by decide)]
  cases v with
  | string s =>
      cases hRead : Duration.read s <;> simp [durationOf, stringSet, hRead, Value.integral?]
  | number m =>
      cases hIntegral : m.integral? with
      | none => simp [durationOf, stringSet, hIntegral, Value.integral?]
      | some n =>
          by_cases hRange : n.natAbs ≤ Duration.maxSeconds
          · simp [durationOf, stringSet, hIntegral, Value.integral?, Duration.ofSeconds?, hRange]
            omega
          · simp [durationOf, stringSet, hIntegral, Value.integral?, Duration.ofSeconds?, hRange]
            omega
  | _ => simp [durationOf, stringSet, Value.integral?]

/-- The report of a leaf is empty exactly at the members of its set. -/
theorem report_eq_nil_iff_of_isLeaf {s : Schema R} (hLeaf : s.IsLeaf) :
    s.report v = [] ↔ v ∈ s.valueSet := by
  cases s with
  | integer note minimum maximum =>
      rw [report, valueSet]
      exact integerReport_eq_nil_iff_mem
  | number note minimum maximum =>
      rw [report, valueSet]
      exact numberReport_eq_nil_iff
  | boolean note =>
      rw [report, valueSet]
      exact booleanReport_eq_nil_iff
  | string note minLength maxLength pattern =>
      rw [report, valueSet]
      exact stringReport_eq_nil_iff_mem fun s => textReport_eq_nil_iff
  | enumeration note options nonempty =>
      rw [report, valueSet]
      exact stringReport_eq_nil_iff_mem fun s => optionReport_eq_nil_iff
  | uri note =>
      rw [report, valueSet]
      exact stringReport_eq_nil_iff_mem fun s => uriReport_eq_nil_iff
  | dateTime note =>
      rw [report, valueSet]
      exact stringReport_eq_nil_iff_mem fun s => timestampReport_eq_nil_iff
  | duration note =>
      rw [report, valueSet, durationReport_eq_nil_iff]
      exact exists_durationOf_iff
  | array note items unique => exact hLeaf.elim
  | map note values => exact hLeaf.elim
  | object note properties additional required => exact hLeaf.elim
  | combined c branches => exact hLeaf.elim

end Leaves

section Parts

theorem itemReports_eq_nil_iff {report : Value → Report} {items : List Value} :
    ∀ {place : Nat}, itemReports report place items = [] ↔ ∀ w ∈ items, report w = [] := by
  induction items with
  | nil => simp [itemReports]
  | cons item items ih =>
      intro place
      rw [itemReports, List.append_eq_nil_iff, Report.under_eq_nil_iff, ih, List.forall_mem_cons]

theorem entryReports_eq_nil_iff {report : Value → Report} {entries : Entries Value} :
    entryReports report entries = [] ↔ ∀ entry ∈ entries, report entry.2 = [] := by
  simp [entryReports, List.flatMap_eq_nil_iff]

theorem propertyReports_eq_nil_iff {properties : List (String × Schema R)} {data : Entries Value} :
    propertyReports properties data = [] ↔
      ∀ property ∈ properties, ∀ w, data.get? property.1 = some w → property.2.report w = [] := by
  induction properties with
  | nil => simp [propertyReports]
  | cons property properties ih =>
      obtain ⟨name, s⟩ := property
      rw [propertyReports, List.append_eq_nil_iff, ih, List.forall_mem_cons]
      refine and_congr_left fun _ => ?_
      cases data.get? name <;> simp

theorem branchReports_eq_map {branches : List (Schema R)} {v : Value} :
    branchReports branches v = branches.map fun s => s.report v := by
  induction branches with
  | nil => rfl
  | cons s branches ih => rw [branchReports, ih, List.map_cons]

theorem undeclaredReport_eq_nil_iff {declared : List String} {data : Entries Value} :
    undeclaredReport declared data = [] ↔ ∀ name ∈ data.names, name ∈ declared := by
  simp [undeclaredReport, List.map_eq_nil_iff, List.filter_eq_nil_iff]

theorem missingReport_eq_nil_iff {required : List String} {data : Entries Value} :
    missingReport required data = [] ↔ ∀ name ∈ required, name ∈ data.names := by
  simp [missingReport, List.map_eq_nil_iff, List.filter_eq_nil_iff, Entries.has_eq_true_iff]

variable {reports : List Report}

theorem firstOf_of_mem (h : [] ∈ reports) : ∀ found, firstOf found reports = [] := by
  induction reports with
  | nil => cases h
  | cons report reports ih =>
      intro found
      rw [firstOf]
      split
      · rfl
      · next hSome =>
          have hLater : [] ∈ reports := by
            rcases List.mem_cons.mp h with rfl | hLater
            · exact absurd rfl hSome
            · exact hLater
          exact ih hLater (found ++ report)

theorem firstOf_of_not_mem (h : [] ∉ reports) :
    ∀ found, firstOf found reports = firstOf (found ++ reports.flatten) [] := by
  induction reports with
  | nil => simp
  | cons report reports ih =>
      intro found
      rw [List.mem_cons, not_or] at h
      have hSome : ¬ report.isEmpty = true := fun hNil => h.1 (List.isEmpty_iff.mp hNil).symm
      rw [List.flatten_cons, ← List.append_assoc, ← ih h.2, firstOf, if_neg hSome]

/-- A branch that does not take the value has an issue, so that no issues at all mean no
branches at all. -/
theorem combine_anyOf :
    combine .anyOf reports =
      if reports.any List.isEmpty then []
      else if reports.isEmpty then Report.single .noBranch
      else reports.flatten := by
  rw [combine]
  by_cases h : [] ∈ reports
  · rw [firstOf_of_mem h, if_pos (by simpa using h)]
  · rw [firstOf_of_not_mem h, if_neg (by simpa using h), firstOf, List.nil_append]
    cases reports with
    | nil => rfl
    | cons report reports =>
        have hSome : report ≠ [] := fun hNil => h (by simp [hNil])
        simp [hSome]

theorem combine_anyOf_eq_nil_iff : combine .anyOf reports = [] ↔ [] ∈ reports := by
  rw [combine]
  constructor
  · intro hNil
    by_contra h
    rw [firstOf_of_not_mem h] at hNil
    exact firstOf_nil_ne_nil hNil
  · exact fun h => firstOf_of_mem h []

theorem combine_oneOf_eq_nil_iff :
    combine .oneOf reports = [] ↔ (reports.filter List.isEmpty).length = 1 := by
  simp only [combine]
  split <;> simp_all

theorem combine_allOf_eq_nil_iff : combine .allOf reports = [] ↔ ∀ r ∈ reports, r = [] :=
  List.flatten_eq_nil_iff

end Parts

/-- Exactly one place counts: it is the first, or it is behind the first. -/
theorem existsUnique_fin_succ {n : Nat} {P : Fin (n + 1) → Prop} :
    (∃! i, P i) ↔ (P 0 ∧ ∀ i : Fin n, ¬ P i.succ) ∨ (¬ P 0 ∧ ∃! i : Fin n, P i.succ) := by
  constructor
  · rintro ⟨i, hi, hUnique⟩
    cases i using Fin.cases with
    | zero =>
        refine Or.inl ⟨hi, fun j hj => ?_⟩
        exact Fin.succ_ne_zero j (hUnique _ hj)
    | succ i =>
        refine Or.inr ⟨fun h0 => ?_, i, hi, fun j hj => ?_⟩
        · exact Fin.succ_ne_zero i (hUnique _ h0).symm
        · exact Fin.succ_injective _ (hUnique _ hj)
  · rintro (⟨h0, hNone⟩ | ⟨h0, i, hi, hUnique⟩)
    · refine ⟨0, h0, fun j hj => ?_⟩
      cases j using Fin.cases with
      | zero => rfl
      | succ j => exact absurd hj (hNone j)
    · refine ⟨i.succ, hi, fun j hj => ?_⟩
      cases j using Fin.cases with
      | zero => exact absurd hj h0
      | succ j => rw [hUnique j hj]

/-- A filter keeps one element exactly when one place passes the test. -/
theorem length_filter_eq_one_iff {α : Type} {test : α → Bool} {l : List α} :
    (l.filter test).length = 1 ↔ ∃! i : Fin l.length, test l[i] = true := by
  induction l with
  | nil => simp [ExistsUnique]
  | cons a l ih =>
      have hRest : (∃! i : Fin (a :: l).length, test (a :: l)[i] = true) ↔
          (test a = true ∧ ∀ i : Fin l.length, ¬ test l[i] = true) ∨
            (¬ test a = true ∧ ∃! i : Fin l.length, test l[i] = true) :=
        existsUnique_fin_succ
      rw [hRest, ← ih]
      by_cases hTest : test a = true
      · simp [hTest, List.forall_mem_iff_getElem, Fin.forall_iff]
      · simp [hTest]

/-- The report of a value is empty exactly when the value is a member. -/
theorem report_eq_nil_iff (s : Schema R) : ∀ v, s.report v = [] ↔ v ∈ s.valueSet := by
  induction s using inductionOnParts with
  | leaf s hLeaf => exact fun v => report_eq_nil_iff_of_isLeaf hLeaf
  | array note items unique ih =>
      intro v
      rw [mem_valueSet_array, report]
      cases v with
      | array vs =>
          have hUnique :
              (if unique && Value.hasDuplicates vs then Report.single .duplicateItems
                else []) = [] ↔ (unique = true → Distinct vs) := by
            rw [← Value.hasDuplicates_eq_false_iff]
            cases unique <;> cases Value.hasDuplicates vs <;> simp
          simp only [Value.items?, List.append_eq_nil_iff, itemReports_eq_nil_iff, hUnique, ih]
          simp
      | _ => simp [Value.items?]
  | map note values ih =>
      intro v
      rw [mem_valueSet_map, report]
      cases v with
      | object entries => simp [Value.entries?, entryReports_eq_nil_iff, ih]
      | _ => simp [Value.entries?]
  | object note properties additional required ih =>
      intro v
      rw [mem_valueSet_object, report]
      cases v with
      | object data =>
          have hProperties : propertyReports properties data = [] ↔
              ∀ property ∈ properties, ∀ w,
                Entries.get? data property.1 = some w → w ∈ property.2.valueSet := by
            rw [propertyReports_eq_nil_iff]
            exact forall₂_congr fun property hProperty =>
              forall₂_congr fun w _ => ih property hProperty w
          have hNames :
              (if additional then [] else undeclaredReport (Entries.names properties) data) = [] ↔
                (additional = false →
                  ∀ name ∈ Entries.names data, name ∈ Entries.names properties) := by
            cases additional <;> simp [undeclaredReport_eq_nil_iff]
          simp only [Value.entries?, List.append_eq_nil_iff, hProperties, hNames,
            missingReport_eq_nil_iff, and_assoc]
          simp
      | _ => simp [Value.entries?]
  | combined c branches ih =>
      intro v
      rw [report, branchReports_eq_map]
      cases c with
      | anyOf =>
          rw [combine_anyOf_eq_nil_iff, mem_valueSet_anyOf, List.mem_map]
          exact exists_congr fun s => and_congr_right fun hs => ih s hs v
      | oneOf =>
          -- The length of the filtered reports is a count of places among the branches.
          rw [combine_oneOf_eq_nil_iff, mem_valueSet_oneOf, List.filter_map, List.length_map,
            length_filter_eq_one_iff]
          refine existsUnique_congr fun i => ?_
          rw [Function.comp_apply, List.isEmpty_iff]
          exact ih _ (List.getElem_mem i.isLt) v
      | allOf =>
          rw [combine_allOf_eq_nil_iff, mem_valueSet_allOf, List.forall_mem_map]
          exact forall₂_congr fun s hs => ih s hs v

theorem validate_eq_ok_iff {s : Schema R} {v : Value} :
    s.validate v = .ok () ↔ s.report v = [] :=
  Report.result_eq_ok_iff

theorem validate_eq_error_iff {s : Schema R} {v : Value} {report : Report} :
    s.validate v = .error report ↔ s.report v = report ∧ report ≠ [] := by
  rw [validate]
  constructor
  · intro h
    have hSome : s.report v ≠ [] := by
      intro hNil
      rw [Report.result_eq_ok_iff.mpr hNil] at h
      cases h
    rw [Report.result_of_ne_nil hSome] at h
    obtain rfl := Except.error.inj h
    exact ⟨rfl, hSome⟩
  · rintro ⟨rfl, h⟩
    exact Report.result_of_ne_nil h

theorem mem_valueSet_of_validate {s : Schema R} {v : Value} (h : s.validate v = .ok ()) :
    v ∈ s.valueSet :=
  (report_eq_nil_iff s v).mp (validate_eq_ok_iff.mp h)

/-- A value passes validation exactly when it belongs to the set of the schema; otherwise
at least one issue is named. -/
theorem validate_eq_ok_iff_mem_valueSet (s : Schema R) (v : Value) :
    (s.validate v = .ok () ↔ v ∈ s.valueSet) ∧
      ∀ report, s.validate v = .error report → report ≠ [] := by
  rw [validate_eq_ok_iff, report_eq_nil_iff]
  exact ⟨Iff.rfl, fun report h => (validate_eq_error_iff.mp h).2⟩

end Schema
end DataContract
