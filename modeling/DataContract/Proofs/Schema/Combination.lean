import DataContract.Proofs.Schema.Acceptance
import DataContract.Readers.Standard
/-!
# Order and grouping of branches

A combination asks which of its branches take a value, and gathers the issues of those that
do not.  A branch that does not take a value has an issue, so that no issues at all mean no
branches at all, and a search may stop at the first branch that takes the value.  Neither
the order of the branches nor their grouping matters.

**Results.**
* `combine_perm`, `combine_oneOf_congr`: branches in another order.
* `combine_allOf_splice`, `combine_anyOf_splice`: a branch replaced by its own branches.
* `validate_combined_of_perm_and_splice`: the results of validation.
-/

namespace DataContract

variable {R : Readers}

namespace Schema

section Reports

variable {c : Combinator} {rs ts us : List Report}

/-- Where every branch has issues, all of them are reported. -/
theorem combine_anyOf_of_not_mem (h : [] ∉ rs) (hSome : rs ≠ []) :
    combine .anyOf rs = rs.flatten := by
  have hAny : ¬ rs.any List.isEmpty = true := by simpa using h
  rw [combine_anyOf, if_neg hAny, if_neg (by simpa using hSome)]

/-- The count of branches that take the value does not depend on their order. -/
theorem combine_oneOf_congr (h : rs.Perm ts) : combine .oneOf rs = combine .oneOf ts := by
  simp only [combine, (h.filter List.isEmpty).length_eq]

/-- The issues of branches in another order are the same issues in another order. -/
theorem combine_perm (h : rs.Perm ts) : (combine c rs).Perm (combine c ts) := by
  cases c with
  | anyOf =>
      simp only [combine_anyOf, h.any_eq, h.isEmpty_eq]
      split
      · exact .refl _
      · split
        · exact .refl _
        · exact h.flatten
  | oneOf => rw [combine_oneOf_congr h]
  | allOf => exact h.flatten

theorem combine_allOf_splice :
    combine .allOf (rs ++ combine .allOf ts :: us) = combine .allOf (rs ++ ts ++ us) := by
  simp only [combine, List.flatten_append, List.flatten_cons, List.append_assoc]

/-- A branch that is itself a choice may give way to what it chooses from.  Without anything
to choose from it would have an issue of its own. -/
theorem combine_anyOf_splice (hSome : ts ≠ []) :
    combine .anyOf (rs ++ combine .anyOf ts :: us) = combine .anyOf (rs ++ ts ++ us) := by
  have hTaken : [] ∈ rs ++ combine .anyOf ts :: us ↔ [] ∈ rs ++ ts ++ us := by
    rw [List.mem_append, List.mem_cons, eq_comm, combine_anyOf_eq_nil_iff, List.mem_append,
      List.mem_append, or_assoc]
  by_cases h : [] ∈ rs ++ ts ++ us
  · rw [combine_anyOf_eq_nil_iff.mpr h, combine_anyOf_eq_nil_iff.mpr (hTaken.mpr h)]
  · have hInner : [] ∉ ts := fun hMem => h (by simp [hMem])
    rw [combine_anyOf_of_not_mem h (by simp [hSome]),
      combine_anyOf_of_not_mem (mt hTaken.mp h) (by simp),
      combine_anyOf_of_not_mem hInner hSome, List.flatten_append, List.flatten_cons,
      List.flatten_append, List.flatten_append, List.append_assoc]

end Reports

section Branches

variable {c : Combinator} {branches others : List (Schema R)} {s t : Schema R} {v : Value}

theorem report_combined :
    (combined c branches).report v = combine c (branches.map fun s => s.report v) := by
  rw [report, branchReports_eq_map]

theorem validate_congr (h : s.report v = t.report v) : s.validate v = t.validate v := by
  rw [validate, validate, h]

theorem report_combined_perm (h : branches.Perm others) :
    ((combined c branches).report v).Perm ((combined c others).report v) := by
  rw [report_combined, report_combined]
  exact combine_perm (h.map _)

/-- An order of the branches makes no difference but to the order of the issues. -/
theorem exists_validate_eq_error_of_perm (h : branches.Perm others) {r : Report}
    (hr : (combined c branches).validate v = .error r) :
    ∃ t, (combined c others).validate v = .error t ∧ r.Perm t := by
  obtain ⟨rfl, hSome⟩ := validate_eq_error_iff.mp hr
  have hPerm := report_combined_perm (c := c) (v := v) h
  refine ⟨_, validate_eq_error_iff.mpr ⟨rfl, fun hNil => hSome ?_⟩, hPerm⟩
  rw [hNil] at hPerm
  exact hPerm.eq_nil

theorem validate_eq_ok_of_perm (h : branches.Perm others)
    (hv : (combined c branches).validate v = .ok ()) :
    (combined c others).validate v = .ok () := by
  rw [validate_eq_ok_iff] at hv ⊢
  have hPerm := report_combined_perm (c := c) (v := v) h
  rw [hv] at hPerm
  exact hPerm.symm.eq_nil

end Branches

/-- Branches in another order come to the same verdict with the same issues, and to the same
error where branches are counted.  A branch that gathers may give way to its own branches
among others that are gathered, and so may a choice that is not empty among others to choose
from.  A search through a choice may stop at the first branch that takes the value. -/
theorem validate_combined_of_perm_and_splice (v : Value) :
    (∀ branches others : List (Schema R), branches.Perm others →
        (∀ c, (combined c branches).validate v = .ok () ↔
          (combined c others).validate v = .ok ()) ∧
        (combined .oneOf branches).validate v = (combined .oneOf others).validate v ∧
        ∀ c r, (combined c branches).validate v = .error r →
          ∃ t, (combined c others).validate v = .error t ∧ r.Perm t) ∧
      (∀ before inner after : List (Schema R),
        (combined .allOf (before ++ combined .allOf inner :: after)).validate v =
          (combined .allOf (before ++ inner ++ after)).validate v) ∧
      (∀ before inner after : List (Schema R), inner ≠ [] →
        (combined .anyOf (before ++ combined .anyOf inner :: after)).validate v =
          (combined .anyOf (before ++ inner ++ after)).validate v) ∧
      ∀ branches : List (Schema R),
        (combined .anyOf branches).validate v = tryBranches v branches [] := by
  refine ⟨fun branches others h => ⟨fun c => ?_, ?_, ?_⟩, fun before inner after => ?_,
    fun before inner after hSome => ?_, validate_anyOf_eq_tryBranches v⟩
  · exact ⟨validate_eq_ok_of_perm h, validate_eq_ok_of_perm h.symm⟩
  · refine validate_congr ?_
    rw [report_combined, report_combined]
    exact combine_oneOf_congr (h.map _)
  · exact fun c r hr => exists_validate_eq_error_of_perm h hr
  · refine validate_congr ?_
    simp only [report_combined, List.map_append, List.map_cons]
    exact combine_allOf_splice
  · refine validate_congr ?_
    simp only [report_combined, List.map_append, List.map_cons]
    exact combine_anyOf_splice (by simpa using hSome)

/-- An empty choice has an issue of its own, which is not there without it. -/
example :
    (combined .anyOf [combined .anyOf [], .boolean {}] : Schema .standard).report .null =
        [.here .noBranch, .here .notBoolean] ∧
      (combined .anyOf [.boolean {}] : Schema .standard).report .null = [.here .notBoolean] := by
  decide

/-- Schemas that do not take the number seven. -/
def withoutSeven : List (Schema .standard) := [.boolean {}, .integer {} 0 3, .uri {}]

/-- Seven is refused from both ends, and with two of the schemas in a choice of their own. -/
theorem validate_withoutSeven :
    (∃ r t, (combined .anyOf withoutSeven).validate (.ofInt64 7) = .error r ∧
        (combined .anyOf withoutSeven.reverse).validate (.ofInt64 7) = .error t ∧
        r.Perm t ∧ r.length = 3) ∧
      (combined .anyOf [.boolean {}, combined .anyOf [.integer {} 0 3, .uri {}]] :
            Schema .standard).validate (.ofInt64 7) =
        (combined .anyOf withoutSeven).validate (.ofInt64 7) := by
  obtain ⟨hPerm, -, hSplice, -⟩ := validate_combined_of_perm_and_splice (.ofInt64 7)
  have hRefused : (combined .anyOf withoutSeven).validate (.ofInt64 7) =
      .error [.here .notBoolean, .here (.integerAbove 7 3), .here .notString] := rfl
  obtain ⟨t, ht, hIssues⟩ :=
    (hPerm withoutSeven withoutSeven.reverse withoutSeven.reverse_perm.symm).2.2 _ _ hRefused
  refine ⟨⟨_, t, hRefused, ht, hIssues, rfl⟩, ?_⟩
  exact hSplice [.boolean {}] [.integer {} 0 3, .uri {}] [] (List.cons_ne_nil _ _)

end Schema
end DataContract
