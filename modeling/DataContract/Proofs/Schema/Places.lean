import DataContract.Proofs.Issue.Path
import DataContract.Proofs.Schema.Acceptance
import DataContract.Proofs.Value.Exact
import DataContract.Readers.Standard
/-!
# Reports at a place

The report of an array, a map or an object gathers the reports of its parts, each under its
own step, and then adds issues of its own.  No two parts have the same step, and no issue of
the whole stands at or below a part that was looked at.  So the issues at or below such a part
are those of the part alone, and step by step the same holds at any depth.

**Results.**
* `Report.below_gather`: of gathered reports, one is left at or below its step.
* `below_report_of_reaches`: what a report says at or below a part of a part.
* `below_validate_of_reaches`: the same of validation.
-/

namespace DataContract

variable {R : Readers}

open DataContract.Path (AtOrBelow atOrBelow_iff)

namespace Issue

/-- The issue as seen from the start of a path that leads to it. -/
def underPath (path : Path) (issue : Issue) : Issue := { issue with path := path ++ issue.path }

end Issue

namespace Report

/-- The report as seen from the start of a path. -/
def underPath (path : Path) (report : Report) : Report := report.map (Issue.underPath path)

/-- The issues at or below a place. -/
def below (place : Path) (report : Report) : Report :=
  report.filter fun issue => AtOrBelow place issue.path

/-- Reports one after the other, each under its step. -/
def gather (parts : List (Segment × Report)) : Report :=
  parts.flatMap fun part => part.2.under part.1

section Below

variable {segment : Segment} {p : Path} {r : Report}

theorem underPath_cons (segment : Segment) (p : Path) (r : Report) :
    underPath (segment :: p) r = (r.underPath p).under segment := by
  rw [underPath, underPath, under, List.map_map]
  rfl

@[simp] theorem below_append (p : Path) (r t : Report) :
    below p (r ++ t) = r.below p ++ t.below p :=
  List.filter_append r t

@[simp] theorem below_empty (p : Path) : below p [] = [] := rfl

@[simp] theorem below_nil (r : Report) : below [] r = r := by
  rw [below, List.filter_eq_self]
  exact fun issue _ => decide_eq_true (atOrBelow_iff.mpr List.nil_prefix)

theorem below_under (segment : Segment) (p : Path) (r : Report) :
    below (segment :: p) (r.under segment) = (r.below p).under segment := by
  rw [below, below, under, under, List.filter_map]
  congr 2
  funext issue
  simp [Issue.under, atOrBelow_iff]

/-- Nothing is left below a step that begins no path. -/
theorem below_cons_eq_nil (h : ∀ issue ∈ r, issue.path.head? ≠ some segment) :
    below (segment :: p) r = [] := by
  rw [below, List.filter_eq_nil_iff]
  intro issue hIssue hBelow
  obtain ⟨rest, hPath⟩ := atOrBelow_iff.mp (of_decide_eq_true hBelow)
  exact h issue hIssue (hPath ▸ rfl)

theorem below_under_of_ne {other : Segment} (h : segment ≠ other) (p : Path) (r : Report) :
    below (segment :: p) (r.under other) = [] := by
  refine below_cons_eq_nil fun issue hIssue => ?_
  obtain ⟨part, -, rfl⟩ := List.mem_map.mp hIssue
  exact fun hHead => h (Option.some.inj hHead).symm

@[simp] theorem below_single (segment : Segment) (p : Path) (cause : Cause) :
    below (segment :: p) (single cause) = [] :=
  below_cons_eq_nil (by simp [single, Issue.here])

variable {parts : List (Segment × Report)}

theorem gather_cons (part : Segment × Report) (parts : List (Segment × Report)) :
    gather (part :: parts) = part.2.under part.1 ++ gather parts :=
  List.flatMap_cons

theorem below_gather_of_not_mem (h : segment ∉ parts.map Prod.fst) (p : Path) :
    below (segment :: p) (gather parts) = [] := by
  induction parts with
  | nil => rfl
  | cons part parts ih =>
      rw [List.map_cons, List.mem_cons, not_or] at h
      rw [gather_cons, below_append, below_under_of_ne h.1, List.nil_append]
      exact ih h.2

/-- Where no two reports have the same step, one of them is left at or below its step. -/
theorem below_gather (hNodup : (parts.map Prod.fst).Nodup) (h : (segment, r) ∈ parts) (p : Path) :
    below (segment :: p) (gather parts) = (r.below p).under segment := by
  induction parts with
  | nil => cases h
  | cons part parts ih =>
      rw [List.map_cons, List.nodup_cons] at hNodup
      rw [gather_cons, below_append]
      rcases List.mem_cons.mp h with rfl | hRest
      · rw [below_under, below_gather_of_not_mem hNodup.1, List.append_nil]
      · have hne : segment ≠ part.1 := by
          rintro rfl
          exact hNodup.1 (List.mem_map.mpr ⟨_, hRest, rfl⟩)
        rw [below_under_of_ne hne, List.nil_append]
        exact ih hNodup.2 hRest

theorem below_key_of_not_mem {names : List String} {name : String} (h : name ∉ names)
    (cause : String → Cause) (p : Path) :
    below (.key name :: p) (names.map fun other => ⟨[.key other], cause other⟩) = [] := by
  refine below_cons_eq_nil fun issue hIssue => ?_
  obtain ⟨other, hOther, rfl⟩ := List.mem_map.mp hIssue
  intro hHead
  cases hHead
  exact h hOther

/-- Of one issue for each of several names, those of one name are left. -/
theorem below_key (names : List String) (name : String) (cause : String → Cause) :
    below [.key name] (names.map fun other => ⟨[.key other], cause other⟩) =
      List.replicate (names.count name) ⟨[.key name], cause name⟩ := by
  have hTest : (fun other : String =>
      decide (AtOrBelow [.key name] (Issue.path ⟨[.key other], cause other⟩))) =
        fun other => other == name := by
    funext other
    rw [Bool.eq_iff_iff, decide_eq_true_iff, atOrBelow_iff, beq_iff_eq]
    simp [eq_comm]
  rw [below, List.filter_map, Function.comp_def, hTest, List.filter_beq, List.map_replicate]

end Below
end Report

namespace Schema

section Parts

variable {report : Value → Report}

theorem itemReports_eq_gather (items : List Value) :
    ∀ place, itemReports report place items =
      Report.gather ((items.zipIdx place).map fun item => (.index item.2, report item.1)) := by
  induction items with
  | nil => exact fun place => rfl
  | cons item items ih =>
      intro place
      rw [itemReports, ih, List.zipIdx_cons, List.map_cons, Report.gather_cons]

theorem entryReports_eq_gather (entries : Entries Value) :
    entryReports report entries =
      Report.gather (entries.map fun entry => (.key entry.1, report entry.2)) := by
  rw [entryReports, Report.gather, List.flatMap_map]

theorem propertyReports_eq_gather (properties : List (String × Schema R)) (data : Entries Value) :
    propertyReports properties data =
      Report.gather (properties.filterMap fun property =>
        (data.get? property.1).map fun v => (.key property.1, property.2.report v)) := by
  induction properties with
  | nil => rfl
  | cons property properties ih =>
      obtain ⟨name, s⟩ := property
      rw [propertyReports, ih, List.filterMap_cons]
      cases data.get? name with
      | none => rfl
      | some v => rfl

theorem below_itemReports {items : List Value} {i : Nat} {w : Value} (h : items[i]? = some w)
    (p : Path) :
    (itemReports report 0 items).below (.index i :: p) =
      ((report w).below p).under (.index i) := by
  rw [itemReports_eq_gather]
  refine Report.below_gather ?_ ?_ p
  · have hSteps : (items.zipIdx.map fun item =>
        ((.index item.2, report item.1) : Segment × Report)).map Prod.fst =
          (items.zipIdx.map Prod.snd).map Segment.index := by
      rw [List.map_map, List.map_map]
      rfl
    rw [hSteps, List.zipIdx_map_snd]
    exact (List.nodup_range' 1).map fun _ _ => Segment.index.inj
  · exact List.mem_map.mpr ⟨(w, i), List.mem_zipIdx_iff_getElem?.mpr h, rfl⟩

theorem below_entryReports {entries : Entries Value} {name : String} {w : Value}
    (hSorted : entries.Sorted) (h : entries.get? name = some w) (p : Path) :
    (entryReports report entries).below (.key name :: p) =
      ((report w).below p).under (.key name) := by
  rw [entryReports_eq_gather]
  refine Report.below_gather ?_ ?_ p
  · have hSteps : (entries.map fun entry =>
        ((.key entry.1, report entry.2) : Segment × Report)).map Prod.fst =
          entries.names.map Segment.key := by
      rw [Entries.names, List.map_map, List.map_map]
      rfl
    rw [hSteps]
    exact hSorted.nodup_names.map fun _ _ => Segment.key.inj
  · exact List.mem_map.mpr ⟨(name, w), Entries.mem_of_get? h, rfl⟩

variable {properties : List (String × Schema R)} {data : Entries Value} {name : String}

theorem below_propertyReports {s : Schema R} {w : Value} (hSorted : Entries.Sorted properties)
    (hDeclared : Entries.get? properties name = some s) (hPresent : data.get? name = some w)
    (p : Path) :
    (propertyReports properties data).below (.key name :: p) =
      ((s.report w).below p).under (.key name) := by
  rw [propertyReports_eq_gather]
  refine Report.below_gather ?_ ?_ p
  · rw [List.Nodup, List.pairwise_map, List.pairwise_filterMap]
    refine hSorted.imp fun {a b} hlt x hx y hy hEq => ?_
    obtain ⟨v, -, rfl⟩ := Option.map_eq_some_iff.mp hx
    obtain ⟨u, -, rfl⟩ := Option.map_eq_some_iff.mp hy
    exact ne_of_lt hlt (Segment.key.inj hEq)
  · refine List.mem_filterMap.mpr ⟨(name, s), Entries.mem_of_get? hDeclared, ?_⟩
    simp only [hPresent, Option.map_some]

/-- Properties that are lacking and names that are not declared have no report. -/
theorem below_propertyReports_eq_nil
    (h : name ∉ Entries.names properties ∨ name ∉ data.names) (p : Path) :
    (propertyReports properties data).below (.key name :: p) = [] := by
  rw [propertyReports_eq_gather]
  refine Report.below_gather_of_not_mem (fun hMem => ?_) p
  obtain ⟨part, hPart, hStep⟩ := List.mem_map.mp hMem
  obtain ⟨property, hProperty, hReport⟩ := List.mem_filterMap.mp hPart
  obtain ⟨v, hGet, rfl⟩ := Option.map_eq_some_iff.mp hReport
  cases hStep
  rcases h with h | h
  · exact h (List.mem_map_of_mem hProperty)
  · exact h (Entries.mem_names_of_mem (Entries.mem_of_get? hGet))

/-- No declared name is reported as undeclared. -/
theorem below_undeclaredReport_eq_nil (h : name ∈ Entries.names properties ∨ name ∉ data.names)
    (p : Path) :
    (undeclaredReport (Entries.names properties) data).below (.key name :: p) = [] := by
  refine Report.below_key_of_not_mem (fun hMem => ?_) Cause.unknownName p
  simp only [List.mem_filter, Bool.not_eq_true', List.contains_eq_mem, decide_eq_false_iff_not]
    at hMem
  rcases h with h | h
  · exact hMem.2 h
  · exact h hMem.1

/-- No name that is there is reported as missing. -/
theorem below_missingReport_eq_nil {required : List String} (h : name ∈ data.names) (p : Path) :
    (missingReport required data).below (.key name :: p) = [] := by
  refine Report.below_key_of_not_mem (fun hMem => ?_) Cause.missingName p
  rw [List.mem_filter, Entries.has_eq_true_iff.mpr h] at hMem
  cases hMem.2

end Parts

/-- Steps that lead from a schema and a value to a schema and a value for it to check: through
items of arrays, entries of maps, and properties of objects that are declared and present. -/
inductive Reaches : Schema R → Value → Path → Schema R → Value → Prop where
  | here (s : Schema R) (v : Value) : Reaches s v [] s v
  | item {note : Annotation} {items t : Schema R} {unique : Bool} {vs : List Value} {i : Nat}
      {w u : Value} {p : Path} (hItem : vs[i]? = some w) (h : Reaches items w p t u) :
      Reaches (.array note items unique) (.array vs) (.index i :: p) t u
  | entry {note : Annotation} {values t : Schema R} {entries : Entries Value} {name : String}
      {w u : Value} {p : Path} (hEntry : entries.get? name = some w)
      (h : Reaches values w p t u) :
      Reaches (.map note values) (.object entries) (.key name :: p) t u
  | property {note : Annotation} {properties : List (String × Schema R)} {additional : Bool}
      {required : List String} {data : Entries Value} {name : String} {s t : Schema R}
      {w u : Value} {p : Path} (hDeclared : Entries.get? properties name = some s)
      (hPresent : data.get? name = some w) (h : Reaches s w p t u) :
      Reaches (.object note properties additional required) (.object data) (.key name :: p) t u

/-- What is reached in a well-formed value is well formed. -/
theorem Reaches.wellFormed {s t : Schema R} {v u : Value} {p : Path} (h : Reaches s v p t u) :
    v.WellFormed → u.WellFormed := by
  induction h with
  | here s v => exact id
  | item hItem _ ih =>
      intro hv
      exact ih (Value.wellFormed_array_iff.mp hv _ (List.mem_of_getElem? hItem))
  | entry hEntry _ ih =>
      intro hv
      exact ih ((Value.wellFormed_object_iff.mp hv).2 _ (Entries.mem_of_get? hEntry))
  | property _ hPresent _ ih =>
      intro hv
      exact ih ((Value.wellFormed_object_iff.mp hv).2 _ (Entries.mem_of_get? hPresent))

section Reached

variable {s t : Schema R} {v w u : Value} {p : Path}

theorem below_report_array {vs : List Value} {i : Nat} (hItem : vs[i]? = some w)
    (note : Annotation) (unique : Bool) (q : Path) :
    (report (.array note s unique) (.array vs)).below (.index i :: q) =
      ((s.report w).below q).under (.index i) := by
  rw [report]
  simp only [Value.items?, Report.below_append, below_itemReports hItem]
  split <;> simp

theorem below_report_map {entries : Entries Value} {name : String} (hSorted : entries.Sorted)
    (hEntry : entries.get? name = some w) (note : Annotation) (q : Path) :
    (report (.map note s) (.object entries)).below (.key name :: q) =
      ((s.report w).below q).under (.key name) := by
  rw [report]
  exact below_entryReports hSorted hEntry q

theorem below_report_object {properties : List (String × Schema R)} {data : Entries Value}
    {name : String} (hSorted : Entries.Sorted properties)
    (hDeclared : Entries.get? properties name = some s) (hPresent : data.get? name = some w)
    (note : Annotation) (additional : Bool) (required : List String) (q : Path) :
    (report (.object note properties additional required) (.object data)).below (.key name :: q) =
      ((s.report w).below q).under (.key name) := by
  have hProperty : name ∈ Entries.names properties :=
    Entries.mem_names_of_mem (Entries.mem_of_get? hDeclared)
  have hName : name ∈ data.names := Entries.mem_names_of_mem (Entries.mem_of_get? hPresent)
  rw [report]
  simp only [Value.entries?, Report.below_append,
    below_propertyReports hSorted hDeclared hPresent, below_missingReport_eq_nil hName,
    List.append_nil]
  split
  · rw [Report.below_empty, List.append_nil]
  · rw [below_undeclaredReport_eq_nil (Or.inl hProperty), List.append_nil]

/-- At or below a part, or a part of a part, a report says what the report of that part says. -/
theorem below_report_of_reaches (h : Reaches s v p t u) :
    s.WellFormed → v.WellFormed → ∀ q : Path,
      (s.report v).below (p ++ q) = ((t.report u).below q).underPath p := by
  induction h with
  | here s v =>
      intro _ _ q
      exact (List.map_id _).symm
  | item hItem _ ih =>
      intro hs hv q
      rw [Value.wellFormed_array_iff] at hv
      rw [List.cons_append, Report.underPath_cons, below_report_array hItem,
        ih hs (hv _ (List.mem_of_getElem? hItem)) q]
  | entry hEntry _ ih =>
      intro hs hv q
      rw [Value.wellFormed_object_iff] at hv
      rw [List.cons_append, Report.underPath_cons, below_report_map hv.1 hEntry,
        ih hs (hv.2 _ (Entries.mem_of_get? hEntry)) q]
  | property hDeclared hPresent _ ih =>
      intro hs hv q
      rw [Value.wellFormed_object_iff] at hv
      have hPart := propertiesWellFormed_iff.mp hs.2 _ (Entries.mem_of_get? hDeclared)
      rw [List.cons_append, Report.underPath_cons, below_report_object hs.1 hDeclared hPresent,
        ih hPart (hv.2 _ (Entries.mem_of_get? hPresent)) q]

/-- The issues of an outcome of validation. -/
def issues : Except Report Unit → Report
  | .ok () => []
  | .error report => report

theorem issues_validate (s : Schema R) (v : Value) : issues (s.validate v) = s.report v := by
  rw [validate]
  cases s.report v <;> rfl

/-- Of the issues of a value, those with the text of the path to a part, or with a text that
goes on behind it with a further step, are in order those of the part alone, with the text of
the path before theirs. -/
theorem below_validate_of_reaches (hs : s.WellFormed) (hv : v.WellFormed)
    (h : Reaches s v p t u) :
    (issues (s.validate v)).below p = (issues (t.validate u)).underPath p ∧
      ∀ issue : Issue, (issue.underPath p).path.render = p.render ++ issue.path.render := by
  rw [issues_validate, issues_validate]
  constructor
  · have hBelow := below_report_of_reaches h hs hv []
    rw [List.append_nil, Report.below_nil] at hBelow
    exact hBelow
  · exact fun issue => Path.render_append p issue.path

end Reached

/-- Shelves by name, with numbers for their slots.  An identification is asked for twice. -/
def shelvesSchema : Schema .standard :=
  .map {} (.object {} [("slots", .array {} (.integer {} 0 9) true)] false ["id", "id"])

/-- A shelf without identification, with a name of its own and with slots that are no numbers
or out of range. -/
def shelves : Value :=
  .object [("a.b", .object [("size", .null),
    ("slots", .array [.ofInt64 4, .string "x", .ofInt64 12, .ofInt64 4])])]

theorem wellFormed_shelves : shelvesSchema.WellFormed ∧ shelves.WellFormed := by
  have hNames : List.Pairwise (· < ·) ["size", "slots"] := by decide
  have hShelves : List.Pairwise (· < ·) ["a.b"] := List.pairwise_singleton _ _
  have hProperties : List.Pairwise (· < ·) ["slots"] := List.pairwise_singleton _ _
  refine ⟨⟨Entries.sorted_iff_pairwise_names.mpr hProperties, trivial, trivial⟩, ?_⟩
  exact ⟨Entries.sorted_iff_pairwise_names.mpr hShelves,
    ⟨Entries.sorted_iff_pairwise_names.mpr hNames, trivial,
      ⟨trivial, trivial, trivial, trivial, trivial⟩, trivial⟩, trivial⟩

/-- The slots of the shelf have two issues, and another is that a slot is repeated. -/
theorem below_validate_shelves :
    (shelvesSchema.WellFormed ∧ shelves.WellFormed ∧
      Reaches shelvesSchema shelves [.key "a.b", .key "slots"] (.array {} (.integer {} 0 9) true)
        (.array [.ofInt64 4, .string "x", .ofInt64 12, .ofInt64 4])) ∧
      (issues (shelvesSchema.validate shelves)).below [.key "a.b", .key "slots"] =
        [⟨[.key "a.b", .key "slots", .index 1], .notInteger⟩,
          ⟨[.key "a.b", .key "slots", .index 2], .integerAbove 12 9⟩,
          ⟨[.key "a.b", .key "slots"], .duplicateItems⟩] := by
  obtain ⟨hSchema, hValue⟩ := wellFormed_shelves
  have hReaches : Reaches shelvesSchema shelves [.key "a.b", .key "slots"]
      (.array {} (.integer {} 0 9) true)
      (.array [.ofInt64 4, .string "x", .ofInt64 12, .ofInt64 4]) :=
    .entry rfl (.property rfl rfl (.here _ _))
  refine ⟨⟨hSchema, hValue, hReaches⟩, ?_⟩
  rw [(below_validate_of_reaches hSchema hValue hReaches).1]
  decide +kernel

end Schema
end DataContract
