import DataContract.Proofs.Number.Rounding
import DataContract.Proofs.Schema.Acceptance
import DataContract.Proofs.Value.Sameness
import DataContract.Readers.Standard
/-!
# Values written in another way

Validation looks at what a value says and not at how it is written.  A number is read as
an integer or rounded to a double, and both depend on its exact value only; whether items
repeat depends on what they say; the parts of a value have the same steps above them.  The
words of an issue may differ, as they quote the value.

**Results.**
* `paths_report_of_same`: values of the same content have issues at the same paths.
* `validate_of_same`: they have the same verdict, and when refused the same list of paths.
-/

namespace DataContract

variable {R : Readers}

namespace Report

/-- The paths of the issues, in order. -/
def paths (report : Report) : List Path := report.map Issue.path

theorem paths_append (r₁ r₂ : Report) : paths (r₁ ++ r₂) = r₁.paths ++ r₂.paths :=
  List.map_append

theorem paths_under (segment : Segment) (r : Report) :
    (r.under segment).paths = r.paths.map (segment :: ·) := by
  rw [under, paths, paths, List.map_map, List.map_map]
  rfl

theorem paths_flatten (reports : List Report) :
    paths reports.flatten = (reports.map paths).flatten :=
  List.map_flatten

theorem isEmpty_paths (r : Report) : r.paths.isEmpty = r.isEmpty := List.isEmpty_map

theorem eq_nil_iff_paths_eq_nil {r : Report} : r = [] ↔ r.paths = [] :=
  List.map_eq_nil_iff.symm

end Report

namespace Value

/-- Values of the same content are of one kind. -/
theorem kind_cases_of_same {a b : Value} (h : a.same b = true) :
    a = b ∨
      (∃ m n, a = .number m ∧ b = .number n ∧ m.value = n.value) ∨
      (∃ xs ys, a = .array xs ∧ b = .array ys) ∨
      ∃ xs ys, a = .object xs ∧ b = .object ys := by
  cases a <;> cases b <;> simp_all [same, Number.sameValue_iff]

/-- Well-formed objects of the same content have parts of the same content. -/
theorem rel_get?_of_same {xs ys : Entries Value} (hx : (object xs).WellFormed)
    (hy : (object ys).WellFormed) (h : (object xs).same (object ys) = true) (name : String) :
    Option.Rel (fun x y => x.WellFormed ∧ y.WellFormed ∧ x.same y = true)
      (xs.get? name) (ys.get? name) := by
  rw [wellFormed_object_iff] at hx hy
  have hName := (same_object_iff_of_sorted hx.1 hy.1).mp h name
  cases hX : xs.get? name with
  | none =>
      rw [hX] at hName
      cases hY : ys.get? name <;> simp_all
  | some x =>
      cases hY : ys.get? name with
      | none => simp_all
      | some y =>
          rw [hX, hY] at hName
          have hMemX := Entries.mem_of_get? hX
          have hMemY := Entries.mem_of_get? hY
          cases hName with
          | some hSame => exact .some ⟨hx.2 _ hMemX, hy.2 _ hMemY, hSame⟩

/-- Items repeat when two of them say the same. -/
theorem hasDuplicates_eq_false_iff_nodup {items : List Value}
    (h : ∀ item ∈ items, item.WellFormed) :
    hasDuplicates items = false ↔ (items.map toExact).Nodup := by
  rw [hasDuplicates_eq_false_iff_pairwise, List.Nodup, List.pairwise_map]
  refine List.Pairwise.iff_of_mem fun {a b} ha hb => ?_
  rw [← Bool.not_eq_true, same_iff_toExact_eq a b (h a ha) (h b hb)]

theorem hasDuplicates_congr {xs ys : List Value} (hx : ∀ x ∈ xs, x.WellFormed)
    (hy : ∀ y ∈ ys, y.WellFormed) (h : xs.map toExact = ys.map toExact) :
    hasDuplicates xs = hasDuplicates ys := by
  rw [← Bool.not_inj_iff, Bool.eq_iff_iff, Bool.not_eq_true', Bool.not_eq_true',
    hasDuplicates_eq_false_iff_nodup hx, hasDuplicates_eq_false_iff_nodup hy, h]

end Value

namespace Schema

section Leaves

variable {m n : Number}

theorem integerReport_congr (minimum maximum : Int64) (h : m.value = n.value) :
    integerReport minimum maximum (.number m) = integerReport minimum maximum (.number n) := by
  simp only [integerReport, Value.integral?, Number.integral?_congr h]

/-- The words may tell the zeros apart, the bounds do not. -/
theorem paths_numberReport_congr (minimum maximum : Double) (h : m.value = n.value) :
    (numberReport minimum maximum (.number m)).paths =
      (numberReport minimum maximum (.number n)).paths := by
  have hDouble := Number.extended?_toDouble_congr h
  have hBelow : m.toDouble.lt minimum = n.toDouble.lt minimum := Double.lt_congr hDouble rfl
  have hAbove : maximum.lt m.toDouble = maximum.lt n.toDouble := Double.lt_congr rfl hDouble
  simp only [numberReport, Value.double?, hBelow, hAbove]
  split
  · rfl
  · split <;> rfl

theorem durationReport_congr (h : m.value = n.value) :
    durationReport (.number m) = durationReport (.number n) := by
  simp only [durationReport, durationOf, Number.integral?_congr h]

theorem paths_report_of_isLeaf {s : Schema R} (hLeaf : s.IsLeaf) {a b : Value}
    (h : a.same b = true) :
    (s.report a).paths = (s.report b).paths := by
  rcases Value.kind_cases_of_same h with
    rfl | ⟨m, n, rfl, rfl, hValue⟩ | ⟨xs, ys, rfl, rfl⟩ | ⟨xs, ys, rfl, rfl⟩
  · rfl
  · cases s with
    | integer note minimum maximum =>
        rw [report, report, integerReport_congr minimum maximum hValue]
    | number note minimum maximum =>
        rw [report, report, paths_numberReport_congr minimum maximum hValue]
    | duration note => rw [report, report, durationReport_congr hValue]
    | array note items unique => exact hLeaf.elim
    | map note values => exact hLeaf.elim
    | object note properties additional required => exact hLeaf.elim
    | combined c branches => exact hLeaf.elim
    | _ => rfl
  · cases s <;> first | rfl | exact hLeaf.elim
  · cases s <;> first | rfl | exact hLeaf.elim

end Leaves

section Parts

variable {report : Value → Report}

theorem paths_itemReports {xs ys : List Value}
    (h : List.Forall₂ (fun x y => (report x).paths = (report y).paths) xs ys) :
    ∀ place, (itemReports report place xs).paths = (itemReports report place ys).paths := by
  induction h with
  | nil => exact fun place => rfl
  | cons hHead hTail ih =>
      intro place
      rw [itemReports, itemReports, Report.paths_append, Report.paths_append, Report.paths_under,
        Report.paths_under, hHead, ih]

theorem paths_entryReports {xs ys : Entries Value}
    (h : List.Forall₂ (fun x y => x.1 = y.1 ∧ (report x.2).paths = (report y.2).paths) xs ys) :
    (entryReports report xs).paths = (entryReports report ys).paths := by
  induction h with
  | nil => rfl
  | cons hHead hTail ih =>
      rw [entryReports, entryReports] at ih ⊢
      rw [List.flatMap_cons, List.flatMap_cons, Report.paths_append, Report.paths_append,
        Report.paths_under, Report.paths_under, hHead.1, hHead.2, ih]

theorem paths_propertyReports {properties : List (String × Schema R)} {xs ys : Entries Value}
    (h : ∀ property ∈ properties, Option.Rel
      (fun x y => (property.2.report x).paths = (property.2.report y).paths)
      (xs.get? property.1) (ys.get? property.1)) :
    (propertyReports properties xs).paths = (propertyReports properties ys).paths := by
  induction properties with
  | nil => rfl
  | cons property properties ih =>
      obtain ⟨name, s⟩ := property
      rw [List.forall_mem_cons] at h
      obtain ⟨hHead, hTail⟩ := h
      rw [propertyReports, propertyReports, Report.paths_append, Report.paths_append, ih hTail]
      congr 1
      simp only at hHead
      generalize xs.get? name = x at hHead ⊢
      generalize ys.get? name = y at hHead ⊢
      cases hHead with
      | none => rfl
      | some hPaths => simp only [Report.paths_under, hPaths]

theorem undeclaredReport_congr {declared : List String} {xs ys : Entries Value}
    (h : xs.names = ys.names) :
    undeclaredReport declared xs = undeclaredReport declared ys := by
  rw [undeclaredReport, undeclaredReport, h]

theorem missingReport_congr {required : List String} {xs ys : Entries Value}
    (h : xs.names = ys.names) :
    missingReport required xs = missingReport required ys := by
  have hHas (name : String) : xs.has name = ys.has name := by
    rw [Bool.eq_iff_iff, Entries.has_eq_true_iff, Entries.has_eq_true_iff, h]
  simp only [missingReport, hHas]

/-- A combination only asks which reports are empty and where their issues are. -/
theorem paths_combine {c : Combinator} {rs ts : List Report}
    (h : rs.map Report.paths = ts.map Report.paths) :
    (combine c rs).paths = (combine c ts).paths := by
  have hEmpty : rs.map List.isEmpty = ts.map List.isEmpty := by
    have hMap := congrArg (List.map List.isEmpty) h
    simpa [Function.comp_def, Report.isEmpty_paths] using hMap
  have hFlatten : Report.paths rs.flatten = Report.paths ts.flatten := by
    rw [Report.paths_flatten, Report.paths_flatten, h]
  cases c with
  | anyOf =>
      have hAny : rs.any List.isEmpty = ts.any List.isEmpty := by
        simpa [Function.comp_def] using congrArg (List.any · id) hEmpty
      have hNone : rs.isEmpty = ts.isEmpty := by
        simpa using congrArg List.isEmpty hEmpty
      simp only [combine_anyOf, hAny, hNone]
      split
      · rfl
      · split
        · rfl
        · exact hFlatten
  | oneOf =>
      have hCount : (rs.filter List.isEmpty).length = (ts.filter List.isEmpty).length := by
        rw [← List.countP_eq_length_filter, ← List.countP_eq_length_filter]
        simpa [List.countP_map, Function.comp_def] using congrArg (List.countP id) hEmpty
      simp only [combine, hCount]
  | allOf => exact hFlatten

end Parts

/-- Values of the same content have issues at the same paths. -/
theorem paths_report_of_same (s : Schema R) :
    ∀ a b : Value, a.WellFormed → b.WellFormed → a.same b = true →
      (s.report a).paths = (s.report b).paths := by
  induction s using inductionOnParts with
  | leaf s hLeaf => exact fun a b _ _ h => paths_report_of_isLeaf hLeaf h
  | array note items unique ih =>
      intro a b ha hb h
      rcases Value.kind_cases_of_same h with
        rfl | ⟨m, n, rfl, rfl, -⟩ | ⟨xs, ys, rfl, rfl⟩ | ⟨xs, ys, rfl, rfl⟩
      · rfl
      · rfl
      · have hExact := (Value.same_iff_toExact_eq _ _ ha hb).mp h
        rw [Value.same, Value.sameItems_eq_true_iff] at h
        rw [Value.wellFormed_array_iff] at ha hb
        have hUnique : Value.hasDuplicates xs = Value.hasDuplicates ys := by
          refine Value.hasDuplicates_congr ha hb ?_
          rw [Value.toExact, Value.toExact, ExactValue.array.injEq, Value.exactItems_eq_map,
            Value.exactItems_eq_map] at hExact
          exact hExact
        have hItems : List.Forall₂ (fun x y => (items.report x).paths = (items.report y).paths)
            xs ys := by
          rw [List.forall₂_iff_get] at h ⊢
          refine ⟨h.1, fun i hi hj => ?_⟩
          exact ih _ _ (ha _ (List.get_mem _ _)) (hb _ (List.get_mem _ _)) (h.2 i hi hj)
        simp only [report, Value.items?, Report.paths_append, paths_itemReports hItems, hUnique]
      · rfl
  | map note values ih =>
      intro a b ha hb h
      rcases Value.kind_cases_of_same h with
        rfl | ⟨m, n, rfl, rfl, -⟩ | ⟨xs, ys, rfl, rfl⟩ | ⟨xs, ys, rfl, rfl⟩
      · rfl
      · rfl
      · rfl
      · have hRel := Value.rel_get?_of_same ha hb h
        have hSortedX := (Value.wellFormed_object_iff.mp ha).1
        have hSortedY := (Value.wellFormed_object_iff.mp hb).1
        simp only [report, Value.entries?]
        refine paths_entryReports ((hSortedX.forall₂_of_rel hSortedY hRel).imp ?_)
        rintro x y ⟨hName, hx, hy, hSame⟩
        exact ⟨hName, ih _ _ hx hy hSame⟩
  | object note properties additional required ih =>
      intro a b ha hb h
      rcases Value.kind_cases_of_same h with
        rfl | ⟨m, n, rfl, rfl, -⟩ | ⟨xs, ys, rfl, rfl⟩ | ⟨xs, ys, rfl, rfl⟩
      · rfl
      · rfl
      · rfl
      · have hRel := Value.rel_get?_of_same ha hb h
        have hSortedX := (Value.wellFormed_object_iff.mp ha).1
        have hSortedY := (Value.wellFormed_object_iff.mp hb).1
        have hNames : Entries.names xs = Entries.names ys := hSortedX.names_eq_of_rel hSortedY hRel
        have hProperties : (propertyReports properties xs).paths =
            (propertyReports properties ys).paths := by
          refine paths_propertyReports fun property hProperty => ?_
          have hName := hRel property.1
          generalize Entries.get? xs property.1 = x at hName ⊢
          generalize Entries.get? ys property.1 = y at hName ⊢
          cases hName with
          | none => exact .none
          | some hPart =>
              obtain ⟨hx, hy, hSame⟩ := hPart
              exact .some (ih property hProperty _ _ hx hy hSame)
        simp only [report, Value.entries?, Report.paths_append, hProperties,
          undeclaredReport_congr hNames, missingReport_congr hNames]
  | combined c branches ih =>
      intro a b ha hb h
      rw [report, report, branchReports_eq_map, branchReports_eq_map]
      refine paths_combine ?_
      rw [List.map_map, List.map_map]
      exact List.map_congr_left fun s hs => ih s hs a b ha hb h

/-- Values of the same content have the same verdict, and when they are refused, it is for
issues at the same paths in the same order. -/
theorem validate_of_same {s : Schema R} {a b : Value} (ha : a.WellFormed) (hb : b.WellFormed)
    (h : a.same b = true) :
    (s.validate a = .ok () ↔ s.validate b = .ok ()) ∧
      ∀ r t, s.validate a = .error r → s.validate b = .error t → r.paths = t.paths := by
  have hPaths := paths_report_of_same s a b ha hb h
  constructor
  · rw [validate_eq_ok_iff, validate_eq_ok_iff, Report.eq_nil_iff_paths_eq_nil, hPaths,
      ← Report.eq_nil_iff_paths_eq_nil]
  · intro r t hr ht
    rw [(validate_eq_error_iff.mp hr).1, (validate_eq_error_iff.mp ht).1] at hPaths
    exact hPaths

/-- What a reading must be: a positive drift, distinct ticks in the range of 64-bit
integers, and a unit. -/
def readingSchema : Schema .standard :=
  .object {} [("drift", .number {} (.finite ⟨false, 1, -1074, by decide⟩) .maxFinite),
    ("ticks", .array {} (.integer {} 0 .maxValue) true)] false ["unit"]

theorem validate_eq_error_of_paths {s : Schema R} {v : Value} {paths : List Path}
    (h : (s.report v).paths = paths) (hNonempty : paths ≠ []) :
    s.validate v = .error (s.report v) := by
  refine validate_eq_error_iff.mpr ⟨rfl, fun hNil => hNonempty ?_⟩
  rw [← h, hNil]
  rfl

/-- Both ways of writing a reading are refused, with the drift, both ticks and the unit at
fault. -/
theorem validate_reading :
    (Value.reading.WellFormed ∧ Value.rewrittenReading.WellFormed ∧
        Value.reading.same Value.rewrittenReading = true) ∧
      ∃ r t, readingSchema.validate Value.reading = .error r ∧
        readingSchema.validate Value.rewrittenReading = .error t ∧ r.paths = t.paths := by
  obtain ⟨hReading, hRewritten⟩ := Value.wellFormed_reading
  have hFirst : (readingSchema.report Value.reading).paths =
      [[.key "drift"], [.key "ticks", .index 0], [.key "ticks", .index 1], [.key "unit"]] := by
    decide +kernel
  have hSecond : (readingSchema.report Value.rewrittenReading).paths =
      [[.key "drift"], [.key "ticks", .index 0], [.key "ticks", .index 1], [.key "unit"]] := by
    decide +kernel
  have hErrorFirst := validate_eq_error_of_paths hFirst (List.cons_ne_nil _ _)
  have hErrorSecond := validate_eq_error_of_paths hSecond (List.cons_ne_nil _ _)
  exact ⟨⟨hReading, hRewritten, Value.same_reading⟩, _, _, hErrorFirst, hErrorSecond,
    (validate_of_same hReading hRewritten Value.same_reading).2 _ _ hErrorFirst hErrorSecond⟩

end Schema
end DataContract
