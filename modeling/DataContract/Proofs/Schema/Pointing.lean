import DataContract.Proofs.Schema.Places
/-!
# Where issues point

The path of an issue leads to a part of the value.  Only an issue of a missing name goes one
step further, from an object to a name that the object lacks.  A step above a report and a step
into the value are the same step, so that this is handed up from the parts of a value.

Conversely an object that is reached has one issue for every name that it must not have, and
one for every time that a name it lacks is required.

**Results.**
* `pointsInto_report`: the issues of a value point into it.
* `below_report_of_unknownName`, `below_report_of_missingName`: the issues of an object at names.
* `validate_pointsInto`: the same of validation.
-/

namespace DataContract

variable {R : Readers}

namespace Issue

/-- The path of the issue leads to a part of the value, or, where a name is missing, to an object
and then on to this name, which the object lacks. -/
def PointsInto (v : Value) (issue : Issue) : Prop :=
  match issue.cause with
  | .missingName name => ∃ above data, issue.path = above ++ [.key name] ∧
      Path.follow? above v = some (.object data) ∧ name ∉ Entries.names data
  | _ => ∃ w, issue.path.follow? v = some w

/-- An issue points into a value when it points into the part one step away. -/
theorem pointsInto_under {segment : Segment} {v w : Value} {issue : Issue}
    (hStep : segment.follow? v = some w) (h : issue.PointsInto w) :
    (issue.under segment).PointsInto v := by
  obtain ⟨path, cause⟩ := issue
  cases cause with
  | missingName name =>
      obtain ⟨above, data, rfl, hAbove, hName⟩ := h
      refine ⟨segment :: above, data, rfl, ?_, hName⟩
      rw [Path.follow?, hStep]
      exact hAbove
  | _ =>
      obtain ⟨u, hu⟩ := h
      refine ⟨u, ?_⟩
      rw [under, Path.follow?, hStep]
      exact hu

end Issue

namespace Report

/-- Every issue points into the value. -/
def PointsInto (v : Value) (report : Report) : Prop := ∀ issue ∈ report, issue.PointsInto v

variable {v : Value}

@[simp] theorem pointsInto_nil : PointsInto v [] := List.forall_mem_nil _

theorem pointsInto_append_iff {r t : Report} :
    PointsInto v (r ++ t) ↔ r.PointsInto v ∧ t.PointsInto v :=
  List.forall_mem_append

/-- An issue of the value itself points at the value, unless it asks for a name. -/
theorem pointsInto_single {cause : Cause} (h : ∀ name, cause ≠ .missingName name) :
    (single cause).PointsInto v := by
  intro issue hIssue
  rw [List.mem_singleton.mp hIssue]
  cases cause with
  | missingName name => exact absurd rfl (h name)
  | _ => exact ⟨v, rfl⟩

theorem pointsInto_gather {parts : List (Segment × Report)}
    (h : ∀ part ∈ parts, ∃ w, part.1.follow? v = some w ∧ part.2.PointsInto w) :
    (gather parts).PointsInto v := by
  intro issue hIssue
  obtain ⟨part, hPart, hUnder⟩ := List.mem_flatMap.mp hIssue
  obtain ⟨inner, hInner, rfl⟩ := List.mem_map.mp hUnder
  obtain ⟨w, hStep, hPoints⟩ := h part hPart
  exact Issue.pointsInto_under hStep (hPoints inner hInner)

end Report

namespace Schema

section Leaves

variable {v : Value}

theorem pointsInto_integerReport (minimum maximum : Int64) :
    (integerReport minimum maximum v).PointsInto v := by
  rw [integerReport]
  split
  · exact Report.pointsInto_single (by simp)
  · split
    · exact Report.pointsInto_single (by simp)
    · split
      · exact Report.pointsInto_single (by simp)
      · exact Report.pointsInto_nil

theorem pointsInto_numberReport (minimum maximum : Double) :
    (numberReport minimum maximum v).PointsInto v := by
  rw [numberReport]
  split
  · exact Report.pointsInto_single (by simp)
  · split
    · exact Report.pointsInto_single (by simp)
    · split
      · exact Report.pointsInto_single (by simp)
      · exact Report.pointsInto_nil

theorem pointsInto_booleanReport : (booleanReport v).PointsInto v := by
  rw [booleanReport.eq_def]
  split
  · exact Report.pointsInto_nil
  · exact Report.pointsInto_single (by simp)

theorem pointsInto_stringReport {issues : String → Report}
    (h : ∀ s, (issues s).PointsInto (.string s)) :
    (stringReport issues v).PointsInto v := by
  rw [stringReport.eq_def]
  split
  · exact h _
  · exact Report.pointsInto_single (by simp)

theorem pointsInto_textReport (minLength maxLength : UInt64) (pattern : Option (Pattern R))
    (s : String) : (textReport minLength maxLength pattern s).PointsInto v := by
  simp only [textReport, Report.pointsInto_append_iff, and_assoc]
  refine ⟨?_, ?_, ?_⟩
  · split
    · exact Report.pointsInto_single (by simp)
    · exact Report.pointsInto_nil
  · split
    · exact Report.pointsInto_single (by simp)
    · exact Report.pointsInto_nil
  · split
    · split
      · exact Report.pointsInto_nil
      · exact Report.pointsInto_single (by simp)
    · exact Report.pointsInto_nil

theorem pointsInto_optionReport (options : List String) (s : String) :
    (optionReport options s).PointsInto v := by
  rw [optionReport]
  split
  · exact Report.pointsInto_nil
  · exact Report.pointsInto_single (by simp)

theorem pointsInto_uriReport (s : String) : (uriReport R s).PointsInto v := by
  rw [uriReport]
  split
  · exact Report.pointsInto_nil
  · exact Report.pointsInto_single (by simp)

theorem pointsInto_timestampReport (s : String) : (timestampReport R s).PointsInto v := by
  rw [timestampReport]
  split
  · exact Report.pointsInto_nil
  · exact Report.pointsInto_single (by simp)

theorem durationOf_ne_missingName {cause : Cause} (h : durationOf v = .error cause) :
    ∀ name, cause ≠ .missingName name := by
  rw [durationOf.eq_def] at h
  split at h
  · split at h
    · cases h
    · cases h
      simp
  · split at h
    · cases h
      simp
    · split at h
      · cases h
      · cases h
        simp
  · cases h
    simp

theorem pointsInto_durationReport : (durationReport v).PointsInto v := by
  rw [durationReport]
  split
  · exact Report.pointsInto_nil
  · rename_i cause hDuration
    exact Report.pointsInto_single (durationOf_ne_missingName hDuration)

theorem pointsInto_report_of_isLeaf {s : Schema R} (hLeaf : s.IsLeaf) :
    (s.report v).PointsInto v := by
  cases s with
  | integer note minimum maximum => exact pointsInto_integerReport minimum maximum
  | number note minimum maximum => exact pointsInto_numberReport minimum maximum
  | boolean note => exact pointsInto_booleanReport
  | string note minLength maxLength pattern =>
      exact pointsInto_stringReport fun s => pointsInto_textReport minLength maxLength pattern s
  | enumeration note options nonempty =>
      exact pointsInto_stringReport fun s => pointsInto_optionReport options s
  | uri note => exact pointsInto_stringReport fun s => pointsInto_uriReport s
  | dateTime note => exact pointsInto_stringReport fun s => pointsInto_timestampReport s
  | duration note => exact pointsInto_durationReport
  | array note items unique => exact hLeaf.elim
  | map note values => exact hLeaf.elim
  | object note properties additional required => exact hLeaf.elim
  | combined c branches => exact hLeaf.elim

end Leaves

section Parts

variable {report : Value → Report}

theorem pointsInto_itemReports {items : List Value} (h : ∀ w ∈ items, (report w).PointsInto w) :
    (itemReports report 0 items).PointsInto (.array items) := by
  rw [itemReports_eq_gather]
  refine Report.pointsInto_gather fun part hPart => ?_
  obtain ⟨⟨w, i⟩, hItem, rfl⟩ := List.mem_map.mp hPart
  have hGet : items[i]? = some w := List.mem_zipIdx_iff_getElem?.mp hItem
  exact ⟨w, hGet, h w (List.mem_of_getElem? hGet)⟩

theorem pointsInto_entryReports {entries : Entries Value} (hSorted : entries.Sorted)
    (h : ∀ entry ∈ entries, (report entry.2).PointsInto entry.2) :
    (entryReports report entries).PointsInto (.object entries) := by
  rw [entryReports_eq_gather]
  refine Report.pointsInto_gather fun part hPart => ?_
  obtain ⟨entry, hEntry, rfl⟩ := List.mem_map.mp hPart
  exact ⟨entry.2, hSorted.get?_of_mem hEntry, h entry hEntry⟩

variable {properties : List (String × Schema R)} {data : Entries Value}

theorem pointsInto_propertyReports
    (h : ∀ property ∈ properties, ∀ w, data.get? property.1 = some w →
      (property.2.report w).PointsInto w) :
    (propertyReports properties data).PointsInto (.object data) := by
  rw [propertyReports_eq_gather]
  refine Report.pointsInto_gather fun part hPart => ?_
  obtain ⟨property, hProperty, hReport⟩ := List.mem_filterMap.mp hPart
  obtain ⟨w, hGet, rfl⟩ := Option.map_eq_some_iff.mp hReport
  exact ⟨w, hGet, h property hProperty w hGet⟩

theorem pointsInto_undeclaredReport (declared : List String) :
    (undeclaredReport declared data).PointsInto (.object data) := by
  intro issue hIssue
  obtain ⟨name, hName, rfl⟩ := List.mem_map.mp hIssue
  obtain ⟨w, hGet⟩ := Entries.exists_get?_of_mem_names (List.mem_filter.mp hName).1
  refine ⟨w, ?_⟩
  rw [Path.follow?, Segment.follow?, hGet]
  rfl

theorem pointsInto_missingReport (required : List String) :
    (missingReport required data).PointsInto (.object data) := by
  intro issue hIssue
  obtain ⟨name, hName, rfl⟩ := List.mem_map.mp hIssue
  refine ⟨[], data, rfl, rfl, fun hMem => ?_⟩
  rw [List.mem_filter, Entries.has_eq_true_iff.mpr hMem] at hName
  cases hName.2

/-- A combination has the issues of its branches or one of its own. -/
theorem pointsInto_combine {c : Combinator} {reports : List Report} {v : Value}
    (h : ∀ r ∈ reports, r.PointsInto v) :
    (combine c reports).PointsInto v := by
  have hFlatten : Report.PointsInto v reports.flatten := by
    intro issue hIssue
    obtain ⟨r, hr, hMem⟩ := List.mem_flatten.mp hIssue
    exact h r hr issue hMem
  cases c with
  | anyOf =>
      rw [combine_anyOf]
      split
      · exact Report.pointsInto_nil
      · split
        · exact Report.pointsInto_single (by simp)
        · exact hFlatten
  | oneOf =>
      simp only [combine]
      split
      · exact Report.pointsInto_nil
      · exact Report.pointsInto_single (by simp)
  | allOf => exact hFlatten

end Parts

/-- The issues of a value point into it. -/
theorem pointsInto_report (s : Schema R) :
    ∀ v : Value, v.WellFormed → (s.report v).PointsInto v := by
  induction s using inductionOnParts with
  | leaf s hLeaf => exact fun v _ => pointsInto_report_of_isLeaf hLeaf
  | array note items unique ih =>
      intro v hv
      rw [report]
      cases v with
      | array vs =>
          rw [Value.wellFormed_array_iff] at hv
          refine Report.pointsInto_append_iff.mpr ⟨?_, ?_⟩
          · exact pointsInto_itemReports fun w hw => ih w (hv w hw)
          · split
            · exact Report.pointsInto_single (by simp)
            · exact Report.pointsInto_nil
      | _ => exact Report.pointsInto_single (by simp)
  | map note values ih =>
      intro v hv
      rw [report]
      cases v with
      | object entries =>
          rw [Value.wellFormed_object_iff] at hv
          exact pointsInto_entryReports hv.1 fun entry hEntry => ih entry.2 (hv.2 entry hEntry)
      | _ => exact Report.pointsInto_single (by simp)
  | object note properties additional required ih =>
      intro v hv
      rw [report]
      cases v with
      | object data =>
          rw [Value.wellFormed_object_iff] at hv
          refine Report.pointsInto_append_iff.mpr ⟨Report.pointsInto_append_iff.mpr ⟨?_, ?_⟩, ?_⟩
          · refine pointsInto_propertyReports fun property hProperty w hGet => ?_
            exact ih property hProperty w (hv.2 _ (Entries.mem_of_get? hGet))
          · split
            · exact Report.pointsInto_nil
            · exact pointsInto_undeclaredReport _
          · exact pointsInto_missingReport required
      | _ => exact Report.pointsInto_single (by simp)
  | combined c branches ih =>
      intro v hv
      rw [report, branchReports_eq_map]
      refine pointsInto_combine fun r hr => ?_
      obtain ⟨s, hs, rfl⟩ := List.mem_map.mp hr
      exact ih s hs v hv

section Names

variable {note : Annotation} {properties : List (String × Schema R)} {data : Entries Value}
  {name : String}

/-- An object has one issue at a name that it must not have. -/
theorem below_report_of_unknownName (hSorted : data.Sorted) (hName : name ∈ data.names)
    (hUndeclared : name ∉ Entries.names properties) (required : List String) :
    (report (.object note properties false required) (.object data)).below [.key name] =
      [⟨[.key name], .unknownName name⟩] := by
  have hTest : (!(Entries.names properties).contains name) = true := by
    simpa using hUndeclared
  have hCount : List.count name
      (data.names.filter fun other => !(Entries.names properties).contains other) =
        List.count name data.names :=
    List.count_filter hTest
  rw [report]
  simp only [Value.entries?, Report.below_append,
    below_propertyReports_eq_nil (Or.inl hUndeclared), below_missingReport_eq_nil hName,
    List.nil_append, List.append_nil, Bool.false_eq_true, if_false]
  rw [undeclaredReport, Report.below_key, hCount,
    List.count_eq_one_of_mem hSorted.nodup_names hName]
  rfl

/-- An object has one issue at a name that it lacks for every time that the name is required. -/
theorem below_report_of_missingName (hName : name ∉ data.names) (additional : Bool)
    (required : List String) :
    (report (.object note properties additional required) (.object data)).below [.key name] =
      List.replicate (required.count name) ⟨[.key name], .missingName name⟩ := by
  have hTest : (!data.has name) = true := by
    rw [Bool.not_eq_true', ← Bool.not_eq_true, Entries.has_eq_true_iff]
    exact hName
  have hCount : List.count name (required.filter fun other => !data.has other) =
      required.count name :=
    List.count_filter hTest
  have hOthers : Report.below [.key name]
      (if additional = true then [] else undeclaredReport (Entries.names properties) data) =
        [] := by
    split
    · exact Report.below_empty _
    · exact below_undeclaredReport_eq_nil (Or.inr hName) []
  rw [report]
  simp only [Value.entries?, Report.below_append, below_propertyReports_eq_nil (Or.inr hName),
    hOthers, List.nil_append]
  rw [missingReport, Report.below_key, hCount]

end Names

/-- The issues of a refused value point into it.  An object that is reached has one issue for
every name that it holds and must not have, and for a name that it lacks one for every time that
it is required, and no others at these names. -/
theorem validate_pointsInto {s : Schema R} {v : Value} (hs : s.WellFormed) (hv : v.WellFormed) :
    (∀ r, s.validate v = .error r → r.PointsInto v) ∧
      ∀ p note properties additional required data,
        Reaches s v p (.object note properties additional required) (.object data) →
          (additional = false → ∀ name ∈ Entries.names data, name ∉ Entries.names properties →
            (issues (s.validate v)).below (p ++ [.key name]) =
              [⟨p ++ [.key name], .unknownName name⟩]) ∧
            ∀ name, name ∉ Entries.names data →
              (issues (s.validate v)).below (p ++ [.key name]) =
                List.replicate (required.count name) ⟨p ++ [.key name], .missingName name⟩ := by
  constructor
  · intro r hReport
    rw [← (validate_eq_error_iff.mp hReport).1]
    exact pointsInto_report s v hv
  · intro p note properties additional required data hReaches
    have hData : Entries.Sorted data := (Value.wellFormed_object_iff.mp (hReaches.wellFormed hv)).1
    constructor
    · rintro rfl name hName hUndeclared
      rw [issues_validate, below_report_of_reaches hReaches hs hv,
        below_report_of_unknownName hData hName hUndeclared]
      rfl
    · intro name hName
      rw [issues_validate, below_report_of_reaches hReaches hs hv,
        below_report_of_missingName hName, Report.underPath, List.map_replicate]
      rfl

/-- The shelf has one issue for its own name, and two for the identification. -/
theorem validate_pointsInto_shelves :
    (shelvesSchema.WellFormed ∧ shelves.WellFormed) ∧
      (∃ r, shelvesSchema.validate shelves = .error r ∧ r.PointsInto shelves) ∧
      (issues (shelvesSchema.validate shelves)).below [.key "a.b", .key "size"] =
        [⟨[.key "a.b", .key "size"], .unknownName "size"⟩] ∧
      (issues (shelvesSchema.validate shelves)).below [.key "a.b", .key "id"] =
        [⟨[.key "a.b", .key "id"], .missingName "id"⟩,
          ⟨[.key "a.b", .key "id"], .missingName "id"⟩] := by
  obtain ⟨hSchema, hValue⟩ := wellFormed_shelves
  obtain ⟨hPoints, hNames⟩ := validate_pointsInto hSchema hValue
  have hRefused : ∃ r, shelvesSchema.validate shelves = .error r := by
    refine ⟨shelvesSchema.report shelves, validate_eq_error_iff.mpr ⟨rfl, ?_⟩⟩
    decide +kernel
  obtain ⟨r, hReport⟩ := hRefused
  obtain ⟨hUnknown, hMissing⟩ := hNames [.key "a.b"] _ _ _ _ _ (.entry rfl (.here _ _))
  refine ⟨⟨hSchema, hValue⟩, ⟨r, hReport, hPoints r hReport⟩, ?_, ?_⟩
  · exact hUnknown rfl "size" (by decide) (by decide)
  · exact hMissing "id" (by decide)

end Schema
end DataContract
