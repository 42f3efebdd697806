import DataContract.Issue
import DataContract.Schema.Basic
import DataContract.Value
/-!
# Validation

The report of a value against a schema lists every issue, the issues of parts under the
steps that lead to them.  A value is valid when its report is empty.
-/

namespace DataContract

variable {R : Readers}

namespace Schema

/-- The integer must lie between the bounds. -/
def integerReport (minimum maximum : Int64) (v : Value) : Report :=
  match v.integral? with
  | none => .single .notInteger
  | some n =>
      if n < minimum.toInt then .single (.integerBelow n minimum.toInt)
      else if maximum.toInt < n then .single (.integerAbove n maximum.toInt)
      else []

/-- The number must not lie below or above the bounds. -/
def numberReport (minimum maximum : Double) (v : Value) : Report :=
  match v.double? with
  | none => .single .notNumber
  | some x =>
      if x.lt minimum then .single (.numberBelow x minimum)
      else if maximum.lt x then .single (.numberAbove x maximum)
      else []

/-- The value must be a truth value. -/
def booleanReport : Value → Report
  | .bool _ => []
  | _ => .single .notBoolean

/-- The value must be a string, of which a function tells the issues. -/
def stringReport (issues : String → Report) : Value → Report
  | .string s => issues s
  | _ => .single .notString

/-- A string must have the length and the pattern; a length of zero is no bound. -/
def textReport (minLength maxLength : UInt64) (pattern : Option (Pattern R)) (s : String) :
    Report :=
  let least := minLength.toNat
  let most := maxLength.toNat
  (if least ≠ 0 ∧ s.length < least then Report.single (.stringShort s least) else []) ++
    (if most ≠ 0 ∧ most < s.length then Report.single (.stringLong s most) else []) ++
    match pattern with
    | some p => if p.isMatch s then [] else Report.single (.stringUnmatched s p.source)
    | none => []

/-- A string must be one of the options. -/
def optionReport (options : List String) (s : String) : Report :=
  if options.contains s then [] else .single (.stringUnlisted s options)

/-- A string must be an address. -/
def uriReport (R : Readers) (s : String) : Report :=
  match R.uri s with
  | .ok _ => []
  | .error reason => .single (.uriFault s reason)

/-- A string must be a timestamp. -/
def timestampReport (R : Readers) (s : String) : Report :=
  match R.timestamp s with
  | .ok _ => []
  | .error reason => .single (.timestampFault s reason)

/-- The duration of a value: a text, or a whole number of seconds. -/
def durationOf : Value → Except Cause Duration
  | .string s =>
      match Duration.read s with
      | .ok d => .ok d
      | .error fault => .error (.durationFault s fault)
  | .number n =>
      match n.integral? with
      | none => .error .durationFraction
      | some seconds =>
          match Duration.ofSeconds? seconds with
          | some d => .ok d
          | none => .error (.durationRange seconds)
  | _ => .error .notDuration

/-- The value must be a duration. -/
def durationReport (v : Value) : Report :=
  match durationOf v with
  | .ok _ => []
  | .error cause => .single cause

/-- The issues of items, each under its place. -/
def itemReports (report : Value → Report) (place : Nat) : List Value → Report
  | [] => []
  | item :: items =>
      (report item).under (.index place) ++ itemReports report (place + 1) items

/-- The issues of entries, each under its name. -/
def entryReports (report : Value → Report) (entries : Entries Value) : Report :=
  entries.flatMap fun (name, v) => (report v).under (.key name)

/-- The names of an object that are not declared. -/
def undeclaredReport (declared : List String) (data : Entries Value) : Report :=
  (data.names.filter fun name => !declared.contains name).map fun name =>
    ⟨[.key name], .unknownName name⟩

/-- The required names that an object lacks. -/
def missingReport (required : List String) (data : Entries Value) : Report :=
  (required.filter fun name => !data.has name).map fun name =>
    ⟨[.key name], .missingName name⟩

/-- The report of a choice: nothing as soon as a branch has no issues, and the issues of all
branches otherwise.  Where no issues were found there are no branches. -/
def firstOf (found : Report) : List Report → Report
  | [] => if found.isEmpty then .single .noBranch else found
  | report :: reports => if report.isEmpty then [] else firstOf (found ++ report) reports

theorem firstOf_nil_ne_nil {found : Report} : firstOf found [] ≠ [] := by
  cases found with
  | nil => exact List.cons_ne_nil _ _
  | cons issue issues => exact List.cons_ne_nil issue issues

/-- The report of a combination of the reports of its branches. -/
def combine : Combinator → List Report → Report
  | .anyOf, reports => firstOf [] reports
  | .oneOf, reports =>
      let matched := (reports.filter List.isEmpty).length
      if matched = 1 then [] else .single (.branchCount matched)
  | .allOf, reports => reports.flatten

mutual

/-- Every issue of a value. -/
def report : Schema R → Value → Report
  | .integer _ minimum maximum, v => integerReport minimum maximum v
  | .number _ minimum maximum, v => numberReport minimum maximum v
  | .boolean _, v => booleanReport v
  | .string _ minLength maxLength pattern, v =>
      stringReport (textReport minLength maxLength pattern) v
  | .enumeration _ options _, v => stringReport (optionReport options) v
  | .uri _, v => stringReport (uriReport R) v
  | .dateTime _, v => stringReport (timestampReport R) v
  | .duration _, v => durationReport v
  | .array _ items unique, v =>
      match v.items? with
      | none => .single .notArray
      | some vs =>
          itemReports items.report 0 vs ++
            if unique && Value.hasDuplicates vs then Report.single .duplicateItems else []
  | .map _ values, v =>
      match v.entries? with
      | none => .single .notObject
      | some entries => entryReports values.report entries
  | .object _ properties additional required, v =>
      match v.entries? with
      | none => .single .notObject
      | some data =>
          propertyReports properties data ++
            (if additional then [] else undeclaredReport (Entries.names properties) data) ++
            missingReport required data
  | .combined c branches, v => combine c (branchReports branches v)

/-- The issues of the declared properties that are present, each under its name. -/
def propertyReports : List (String × Schema R) → Entries Value → Report
  | [], _ => []
  | (name, s) :: properties, data =>
      (match data.get? name with
        | some v => (s.report v).under (.key name)
        | none => []) ++ propertyReports properties data

/-- The report of every branch. -/
def branchReports : List (Schema R) → Value → List Report
  | [], _ => []
  | s :: branches, v => s.report v :: branchReports branches v

end

/-- Nothing for a valid value, and its report for any other. -/
def validate (s : Schema R) (v : Value) : Except Report Unit := (s.report v).result

/-- Try the branches in order up to the first that takes the value, and gather the issues of
those that do not. -/
def tryBranches (v : Value) : List (Schema R) → Report → Except Report Unit
  | [], found => .error (if found.isEmpty then .single .noBranch else found)
  | s :: branches, found =>
      match s.validate v with
      | .ok () => .ok ()
      | .error report => tryBranches v branches (found ++ report)

theorem tryBranches_eq_result_firstOf (v : Value) (branches : List (Schema R)) :
    ∀ found, tryBranches v branches found = (firstOf found (branchReports branches v)).result := by
  induction branches with
  | nil =>
      intro found
      rw [branchReports, Report.result_of_ne_nil firstOf_nil_ne_nil]
      rfl
  | cons s branches ih =>
      intro found
      rw [tryBranches, branchReports, firstOf, validate]
      cases s.report v with
      | nil => rfl
      | cons issue issues => exact ih (found ++ issue :: issues)

/-- A choice is a search through its branches. -/
theorem validate_anyOf_eq_tryBranches (v : Value) (branches : List (Schema R)) :
    (combined .anyOf branches).validate v = tryBranches v branches [] := by
  rw [tryBranches_eq_result_firstOf, validate, report, combine]

end Schema
end DataContract
