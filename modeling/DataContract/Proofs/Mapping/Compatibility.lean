import DataContract.Mapping.Fit
import DataContract.Proofs.Number.Exact
import DataContract.Proofs.Schema.Induction
import DataContract.Proofs.Target.Typing
import DataContract.Readers.Standard
/-!
# Compatible shapes

Whether storage fits a schema is a matter of the schema and the shape alone.  The look at
a slot passes through scratch storage and optional parts; its verdict is that of a
function of schema and shape, and it leaves typed content as it is.

**Results.**
* `check_eq`: a look at typed content has the verdict of the shape and changes nothing.
* `inspected_check_eq`: so has a look at storage whose slot is not opened.
* `fit_slot_eq_ok_iff`: the verdict is good exactly when the shape is compatible.
* `inspected_check_eq_check_opened`: a look from outside against a look at the opened slot.
-/

namespace DataContract

variable {R : Readers}

/-- The finite range of a format contains a number. -/
def FloatFormat.Contains (f : FloatFormat) (x : Double) : Prop :=
  f.least.AtMost x ∧ x.AtMost f.greatest

namespace Schema

/-- Storage of the shape can hold every value of the schema.  For integers its range contains
everything between the bounds, and for numbers both bounds.  Between bounds in reverse order
lies nothing; of them the range begins at or below the minimum and ends at or above the
maximum. -/
inductive Compatible (types : Catalog) : Schema R → Shape → Prop
  | optional {s : Schema R} {inner : Shape} (inside : Compatible types s inner) :
      Compatible types s (.optional inner)
  | any {s : Schema R} : Compatible types s .any
  | integer {note : Annotation} {minimum maximum : Int64} {f : IntFormat}
      (ordered : minimum ≤ maximum)
      (contains : ∀ n, minimum.toInt ≤ n → n ≤ maximum.toInt → f.holds n = true) :
      Compatible types (.integer note minimum maximum) (.int f)
  | reversedInteger {note : Annotation} {minimum maximum : Int64} {f : IntFormat}
      (reversed : maximum < minimum)
      (least : f.least ≤ minimum.toInt) (greatest : maximum.toInt ≤ f.greatest) :
      Compatible types (.integer note minimum maximum) (.int f)
  | number {note : Annotation} {minimum maximum : Double} {f : FloatFormat}
      (ordered : minimum.AtMost maximum)
      (lower : f.Contains minimum) (upper : f.Contains maximum) :
      Compatible types (.number note minimum maximum) (.float f)
  | reversedNumber {note : Annotation} {minimum maximum : Double} {f : FloatFormat}
      (reversed : maximum.Below minimum)
      (least : f.least.AtMost minimum) (greatest : maximum.AtMost f.greatest) :
      Compatible types (.number note minimum maximum) (.float f)
  | boolean {note : Annotation} : Compatible types (.boolean note) .bool
  | string {note : Annotation} {minLength maxLength : UInt64} {pattern : Option (Pattern R)} :
      Compatible types (.string note minLength maxLength pattern) .text
  | enumeration {note : Annotation} {options : List String} {nonempty : options ≠ []} :
      Compatible types (.enumeration note options nonempty) .text
  | uri {note : Annotation} : Compatible types (.uri note) .uri
  | optionalUri {note : Annotation} : Compatible types (.uri note) .optionalUri
  | uriText {note : Annotation} : Compatible types (.uri note) .text
  | zonedMoment {note : Annotation} : Compatible types (.dateTime note) .zonedMoment
  | moment {note : Annotation} : Compatible types (.dateTime note) .moment
  | timestampText {note : Annotation} : Compatible types (.dateTime note) .text
  | duration {note : Annotation} : Compatible types (.duration note) .duration
  | array {note : Annotation} {items : Schema R} {unique : Bool} {element : Shape}
      (parts : Compatible types items element) :
      Compatible types (.array note items unique) (.sequence element)
  | map {note : Annotation} {values : Schema R} {suffix : String} {element : Shape}
      (parts : Compatible types values element) :
      Compatible types (.map note values) (.dictionary suffix element)
  | object {note : Annotation} {properties : List (String × Schema R)} {additional : Bool}
      {required : List String} {name : String}
      (bound : ∀ property ∈ Entries.names properties ++ required,
        property ∈ (types.find name).names)
      (parts : ∀ property ∈ properties, ∀ f, (types.find name).field? property.1 = some f →
        Compatible types property.2 f.shape) :
      Compatible types (.object note properties additional required) (.record name)

section Ranges

variable {types : Catalog} {note : Annotation}

/-- One comparison for each bound decides, whatever their order is. -/
theorem compatible_integer_iff {minimum maximum : Int64} {f : IntFormat} :
    Compatible types (.integer note minimum maximum : Schema R) (.int f) ↔
      f.least ≤ minimum.toInt ∧ maximum.toInt ≤ f.greatest := by
  have hHolds (n : Int) : f.holds n = true ↔ f.least ≤ n ∧ n ≤ f.greatest := by
    simp [IntFormat.holds]
  constructor
  · intro h
    cases h with
    | integer ordered contains =>
        have hOrder := Int64.le_iff_toInt_le.mp ordered
        exact ⟨((hHolds _).mp (contains _ le_rfl hOrder)).1,
          ((hHolds _).mp (contains _ hOrder le_rfl)).2⟩
    | reversedInteger _ least greatest => exact ⟨least, greatest⟩
  · rintro ⟨least, greatest⟩
    by_cases hOrder : minimum ≤ maximum
    · refine .integer hOrder fun n hMin hMax => ?_
      exact (hHolds n).mpr ⟨least.trans hMin, hMax.trans greatest⟩
    · refine .reversedInteger (Int64.lt_iff_toInt_lt.mpr ?_) least greatest
      exact not_le.mp (mt Int64.le_iff_toInt_le.mpr hOrder)

/-- So it is with numbers, where a bound that is no number has no order. -/
theorem compatible_number_iff {minimum maximum : Double} {f : FloatFormat} :
    Compatible types (.number note minimum maximum : Schema R) (.float f) ↔
      f.least.AtMost minimum ∧ maximum.AtMost f.greatest := by
  constructor
  · intro h
    cases h with
    | number _ lower upper => exact ⟨lower.1, upper.2⟩
    | reversedNumber _ least greatest => exact ⟨least, greatest⟩
  · rintro ⟨least, greatest⟩
    by_cases hReversed : maximum.Below minimum
    · exact .reversedNumber hReversed least greatest
    · have hOrder : minimum.AtMost maximum :=
        (Double.atMost_iff_not_below least.extended?_ne_none_right
          greatest.extended?_ne_none_left).mpr hReversed
      exact .number hOrder ⟨least, hOrder.trans greatest⟩ ⟨least.trans hOrder, greatest⟩

end Ranges

mutual

/-- Whether a schema fits a slot of a shape; the mismatch is the first that a look finds. -/
def fit (types : Catalog) : Schema R → Shape → Except Mismatch Unit
  | _, .any => .ok ()
  | .array note items unique, shape =>
      match shape with
      | .sequence element => fit types items element.slot
      | shape => .error (mismatch (.array note items unique) shape)
  | .map note values, shape =>
      match shape with
      | .dictionary _ element => fit types values element.slot
      | shape => .error (mismatch (.map note values) shape)
  | .object note properties additional required, shape =>
      match shape with
      | .record name =>
          match unboundName? properties required (types.find name) with
          | some name => .error (nameMismatch name)
          | none => fitProperties types properties (types.find name)
      | shape => .error (mismatch (.object note properties additional required) shape)
  | s, shape => if fitsLeaf s shape then .ok () else .error (mismatch s shape)

/-- Whether properties fit their fields, in the order of names. -/
def fitProperties (types : Catalog) :
    List (String × Schema R) → RecordType → Except Mismatch Unit
  | [], _ => .ok ()
  | (name, s) :: properties, t =>
      match t.field? name with
      | none => fitProperties types properties t
      | some f =>
          match fit types s f.shape.slot with
          | .ok () => fitProperties types properties t
          | .error m => .error m

end

section Verdict

variable {types : Catalog} {s : Schema R} {shape : Shape} {c : Content}

@[simp] theorem fit_any : fit types s .any = .ok () := by
  cases s <;> rfl

@[simp] theorem check_any : check types s .any c = (.ok (), c) := by
  cases s <;> rfl

theorem fit_of_isLeaf (hLeaf : s.IsLeaf) (hShape : shape ≠ .any) :
    fit types s shape = if fitsLeaf s shape then .ok () else .error (mismatch s shape) := by
  cases s <;> first | exact hLeaf.elim | (cases shape <;> first | rfl | exact absurd rfl hShape)

theorem check_eq_of_isLeaf (hLeaf : s.IsLeaf) : check types s shape c = (fit types s shape, c) := by
  cases s <;> first | exact hLeaf.elim | (cases shape <;> rfl)

/-- Only objects fit records. -/
theorem exists_object_of_fit_record {name : String}
    (h : fit types s (.record name) = .ok ()) :
    ∃ note properties additional required, s = .object note properties additional required := by
  cases s with
  | object note properties additional required => exact ⟨_, _, _, _, rfl⟩
  | _ => simp [fit, fitsLeaf] at h

/-- Nothing but any value at all holds the values of a combination. -/
theorem fit_combined {combinator : Combinator} {branches : List (Schema R)}
    (hShape : shape ≠ .any) :
    fit types (.combined combinator branches) shape =
      .error (mismatch (.combined combinator branches) shape) := by
  cases shape <;> first | rfl | exact absurd rfl hShape

theorem check_combined_eq {combinator : Combinator} {branches : List (Schema R)} :
    check types (.combined combinator branches) shape c =
      (fit types (.combined combinator branches) shape, c) := by
  cases shape <;> rfl

end Verdict

section Looks

variable {types : Catalog} (hTypes : types.Standard)
include hTypes

/-- A look at scratch storage has the verdict of a look at any typed content. -/
theorem probe_eq {look : Shape → Content → Except Mismatch Unit × Content}
    {r : Except Mismatch Unit} {element : Shape} (hElement : element.Standard)
    (hLook : ∀ c, Content.HasShape types element.slot c → look element.slot c = (r, c)) :
    probe types look element = r := by
  have hFresh := Content.hasShape_fresh hTypes hElement
  rw [probe, Content.throughSlot, hLook _ (hFresh.opened hTypes hElement)]

/-- A look at the fields of a record writes back what it finds. -/
theorem checkProperties_eq {t : RecordType} (hRecord : t.Standard types)
    {properties : List (String × Schema R)}
    (hParts : ∀ property ∈ properties, ∀ shape c, shape.Standard →
      Content.HasShape types shape c →
        check types property.2 shape c = (fit types property.2 shape, c))
    {fields : Entries Content} (hFields : Content.FieldsHaveShape types t fields) :
    checkProperties types properties t fields = (fitProperties types properties t, fields) := by
  induction properties with
  | nil => rfl
  | cons property properties ih =>
      obtain ⟨name, s⟩ := property
      rw [List.forall_mem_cons] at hParts
      rw [checkProperties, fitProperties]
      cases hField : t.field? name with
      | none => exact ih hParts.2
      | some f =>
          have hMem := RecordType.mem_fields_of_field? hField
          have hShape := hRecord.shapes f hMem
          have hLook := Content.inspected_eq hTypes hShape
            (fun c hc => hParts.1 f.shape.slot c hShape.slot hc) (hFields.hasShape_ofField hMem)
          simp only [hLook, hFields.insert_ofField hMem]
          cases fit types s f.shape.slot with
          | ok => exact ih hParts.2
          | error m => rfl

/-- A look at typed content has the verdict of the shape and changes nothing. -/
theorem check_eq (s : Schema R) :
    ∀ shape c, shape.Standard → Content.HasShape types shape c →
      check types s shape c = (fit types s shape, c) := by
  -- The look recurs on the schema; the content is typed again wherever it goes.
  induction s using inductionOnParts with
  | leaf s hLeaf => exact fun shape c _ _ => check_eq_of_isLeaf hLeaf
  | array note items unique ih =>
      intro shape c hShape hc
      cases shape with
      | sequence element =>
          have hElement : element.Standard := hShape
          rw [check, fit, probe_eq hTypes hElement fun c hc => ih element.slot c hElement.slot hc]
      | _ => rfl
  | map note values ih =>
      intro shape c hShape hc
      cases shape with
      | dictionary suffix element =>
          have hElement : element.Standard := hShape.2
          rw [check, fit, probe_eq hTypes hElement fun c hc => ih element.slot c hElement.slot hc]
      | _ => rfl
  | object note properties additional required ih =>
      intro shape c hShape hc
      cases shape with
      | record name =>
          obtain ⟨fields, rfl, hFields⟩ := Content.hasShape_record_iff.mp hc
          rw [check, fit]
          cases unboundName? properties required (types.find name) with
          | some unbound => rfl
          | none =>
              simp only [Content.fields, checkProperties_eq hTypes (hTypes.find name) ih hFields]
      | _ => rfl
  | combined combinator branches ih => exact fun shape c _ _ => check_combined_eq

/-- A look at storage from outside has the verdict of its slot, and opens nothing. -/
theorem inspected_check_eq (s : Schema R) {shape : Shape} (hShape : shape.Standard) {c : Content}
    (hc : Content.HasShape types shape c) :
    Content.inspected types (check types s) shape c = (fit types s shape.slot, c) :=
  Content.inspected_eq hTypes hShape
    (fun inside hInside => check_eq hTypes s shape.slot inside hShape.slot hInside) hc

end Looks

section Agreement

variable {types : Catalog} {s : Schema R}

/-- Optional layers do not matter. -/
theorem compatible_slot_iff {shape : Shape} (hShape : shape.Standard) :
    Compatible types s shape.slot ↔ Compatible types s shape := by
  induction shape with
  | optional inner ih =>
      rw [Shape.slot, ih hShape]
      constructor
      · exact .optional
      · intro h
        cases h with
        | optional inside => exact inside
  | veiled inner ih => exact hShape.elim
  | _ => rfl

theorem unboundName?_eq_none_iff {properties : List (String × Schema R)} {required : List String}
    {t : RecordType} :
    unboundName? properties required t = none ↔
      ∀ name ∈ Entries.names properties ++ required, name ∈ t.names := by
  simp [unboundName?, List.find?_eq_none, or_imp, forall_and]

theorem fitProperties_eq_ok_iff {properties : List (String × Schema R)} {t : RecordType} :
    fitProperties types properties t = .ok () ↔
      ∀ property ∈ properties, ∀ f, t.field? property.1 = some f →
        fit types property.2 f.shape.slot = .ok () := by
  induction properties with
  | nil => simp [fitProperties]
  | cons property properties ih =>
      obtain ⟨name, s⟩ := property
      rw [fitProperties, List.forall_mem_cons]
      cases hField : t.field? name with
      | none => simp [ih]
      | some f => cases hFit : fit types s f.shape.slot <;> simp [ih, hFit]

/-- A schema of objects fits a record when its table lists the names and the properties fit. -/
theorem fit_object_eq_ok_iff {note : Annotation} {properties : List (String × Schema R)}
    {additional : Bool} {required : List String} {name : String} :
    fit types (.object note properties additional required) (.record name) = .ok () ↔
      unboundName? properties required (types.find name) = none ∧
        fitProperties types properties (types.find name) = .ok () := by
  rw [fit]
  cases unboundName? properties required (types.find name) <;> simp

theorem fitsLeaf_eq_true_iff {shape : Shape} (hLeaf : s.IsLeaf) (hAny : shape ≠ .any)
    (hSlot : shape.slot = shape) :
    fitsLeaf s shape = true ↔ Compatible types s shape := by
  constructor
  · intro h
    cases s with
    | integer note minimum maximum =>
        cases shape <;> simp [fitsLeaf, fitsInt] at h
        exact compatible_integer_iff.mpr h
    | number note minimum maximum =>
        cases shape <;> simp [fitsLeaf, fitsFloat, Double.le_iff_atMost] at h
        exact compatible_number_iff.mpr h
    | boolean note =>
        cases shape <;> simp [fitsLeaf] at h
        exact .boolean
    | string note minLength maxLength pattern =>
        cases shape <;> simp [fitsLeaf] at h
        exact .string
    | enumeration note options nonempty =>
        cases shape <;> simp [fitsLeaf] at h
        exact .enumeration
    | uri note =>
        cases shape <;> simp [fitsLeaf] at h
        · exact .uriText
        · exact .uri
        · exact .optionalUri
    | dateTime note =>
        cases shape <;> simp [fitsLeaf] at h
        · exact .timestampText
        · exact .zonedMoment
        · exact .moment
    | duration note =>
        cases shape <;> simp [fitsLeaf] at h
        exact .duration
    | array note items unique => exact hLeaf.elim
    | map note values => exact hLeaf.elim
    | object note properties additional required => exact hLeaf.elim
    | combined c branches => exact hLeaf.elim
  · intro h
    have h' := h
    cases h with
    | optional inside => exact absurd hSlot (Shape.slot_ne_optional _ _)
    | any => exact absurd rfl hAny
    | integer | reversedInteger => simpa [fitsLeaf, fitsInt] using compatible_integer_iff.mp h'
    | number | reversedNumber =>
        simpa [fitsLeaf, fitsFloat, Double.le_iff_atMost] using compatible_number_iff.mp h'
    | array parts => exact hLeaf.elim
    | map parts => exact hLeaf.elim
    | object bound parts => exact hLeaf.elim
    | _ => rfl

/-- On slots, the verdict is good exactly when the shape is compatible. -/
theorem fit_eq_ok_iff (hTypes : types.Standard) (s : Schema R) :
    ∀ shape : Shape, shape.Standard → shape.slot = shape →
      (fit types s shape = .ok () ↔ Compatible types s shape) := by
  induction s using inductionOnParts with
  | leaf s hLeaf =>
      intro shape hShape hSlot
      by_cases hAny : shape = .any
      · subst hAny
        exact iff_of_true fit_any .any
      · rw [fit_of_isLeaf hLeaf hAny, ← fitsLeaf_eq_true_iff hLeaf hAny hSlot]
        cases fitsLeaf s shape <;> simp
  | array note items unique ih =>
      intro shape hShape hSlot
      cases shape with
      | any => exact iff_of_true fit_any .any
      | sequence element =>
          have hElement : element.Standard := hShape
          rw [fit, ih element.slot hElement.slot element.slot_slot, compatible_slot_iff hElement]
          constructor
          · exact .array
          · intro h
            cases h with
            | array parts => exact parts
      | optional inner => exact absurd hSlot (Shape.slot_ne_optional _ _)
      | _ => exact iff_of_false (by simp [fit]) (by rintro ⟨⟩)
  | map note values ih =>
      intro shape hShape hSlot
      cases shape with
      | any => exact iff_of_true fit_any .any
      | dictionary suffix element =>
          have hElement : element.Standard := hShape.2
          rw [fit, ih element.slot hElement.slot element.slot_slot, compatible_slot_iff hElement]
          constructor
          · exact .map
          · intro h
            cases h with
            | map parts => exact parts
      | optional inner => exact absurd hSlot (Shape.slot_ne_optional _ _)
      | _ => exact iff_of_false (by simp [fit]) (by rintro ⟨⟩)
  | object note properties additional required ih =>
      intro shape hShape hSlot
      cases shape with
      | any => exact iff_of_true fit_any .any
      | record name =>
          rw [fit]
          cases hName : unboundName? properties required (types.find name) with
          | some unbound =>
              refine iff_of_false (by simp) ?_
              intro h
              cases h with
              | object bound parts =>
                  rw [unboundName?_eq_none_iff.mpr bound] at hName
                  cases hName
          | none =>
              have hParts (property) (hProperty : property ∈ properties) (f : Field)
                  (hField : (types.find name).field? property.1 = some f) :
                  fit types property.2 f.shape.slot = .ok () ↔
                    Compatible types property.2 f.shape := by
                have hStandard : f.shape.Standard :=
                  (hTypes.find name).shapes f (RecordType.mem_fields_of_field? hField)
                rw [ih property hProperty f.shape.slot hStandard.slot f.shape.slot_slot,
                  compatible_slot_iff hStandard]
              simp only
              rw [fitProperties_eq_ok_iff]
              constructor
              · intro h
                refine .object (unboundName?_eq_none_iff.mp hName) ?_
                exact fun property hProperty f hField =>
                  (hParts property hProperty f hField).mp (h property hProperty f hField)
              · intro h
                cases h with
                | object bound parts =>
                    exact fun property hProperty f hField =>
                      (hParts property hProperty f hField).mpr (parts property hProperty f hField)
      | optional inner => exact absurd hSlot (Shape.slot_ne_optional _ _)
      | _ => exact iff_of_false (by simp [fit]) (by rintro ⟨⟩)
  | combined combinator branches ih =>
      intro shape hShape hSlot
      by_cases hAny : shape = .any
      · subst hAny
        exact iff_of_true fit_any .any
      · rw [fit_combined hAny]
        refine iff_of_false (by simp) ?_
        intro h
        cases h with
        | optional inside => exact Shape.slot_ne_optional _ _ hSlot
        | any => exact hAny rfl

/-- The verdict on a slot is good exactly when the storage is compatible. -/
theorem fit_slot_eq_ok_iff (hTypes : types.Standard) (s : Schema R) {shape : Shape}
    (hShape : shape.Standard) :
    fit types s shape.slot = .ok () ↔ Compatible types s shape :=
  (fit_eq_ok_iff hTypes s shape.slot hShape.slot shape.slot_slot).trans (compatible_slot_iff hShape)

end Agreement

/-- Parcels up to a weight whose contents may have labels. -/
def parcel (heaviest : Int64) : Schema .standard :=
  .object {}
    [("contents", .array {} (.object {} [("label", .string {} 0 0 none)] true []) false),
      ("weight", .integer {} 0 heaviest)]
    false ["weight"]

/-- Heavy parcels do not go into records that keep the weight in a byte. -/
theorem compatible_parcel_iff {heaviest : Int64} :
    Compatible .parcels (parcel heaviest) (.record "parcel") ↔ heaviest.toInt ≤ 255 := by
  have hContents : (Catalog.parcels.find "parcel").field? "contents" =
      some ⟨"contents", .sequence (.record "parcel"), .sequence []⟩ := rfl
  have hLabel : (Catalog.parcels.find "parcel").field? "label" =
      some ⟨"label", .optional .text, .optional none⟩ := rfl
  have hWeight : (Catalog.parcels.find "parcel").field? "weight" =
      some ⟨"weight", .int .uint8, .int 0⟩ := rfl
  constructor
  · intro h
    cases h with
    | object bound parts =>
        have hPart := parts _ (List.mem_cons_of_mem _ List.mem_cons_self) _ hWeight
        exact (compatible_integer_iff.mp hPart).2
  · intro h
    have hInner : Compatible .parcels
        (.object {} [("label", .string {} 0 0 none)] true [] : Schema .standard)
        (.record "parcel") := by
      refine .object (unboundName?_eq_none_iff.mp rfl) ?_
      simp only [List.forall_mem_singleton, hLabel]
      rintro f ⟨⟩
      exact .optional .string
    refine .object (unboundName?_eq_none_iff.mp rfl) ?_
    simp only [List.forall_mem_cons, hContents, hWeight]
    refine ⟨?_, ?_, by simp⟩
    · rintro f ⟨⟩
      exact .array hInner
    · rintro f ⟨⟩
      exact compatible_integer_iff.mpr ⟨by decide, h⟩

section Outside

variable {types : Catalog} {shape : Shape} {c : Content}

/-- A look from outside leaves storage as it is, whatever in it is present or not, and has
the verdict of a look at the slot that opening a copy brings forth.  The look at that slot
leaves it as it was opened, and all contents of the shape have the same verdict. -/
theorem inspected_check_eq_check_opened (s : Schema R) (hTypes : types.Standard)
    (hShape : shape.Standard) (hc : Content.HasShape types shape c) :
    (Content.inspected types (check types s) shape c).2 = c ∧
      (Content.inspected types (check types s) shape c).1 =
        (check types s shape.slot (c.opened types shape)).1 ∧
      (check types s shape.slot (c.opened types shape)).2 = c.opened types shape ∧
      ∀ d, Content.HasShape types shape d →
        (Content.inspected types (check types s) shape d).1 =
          (Content.inspected types (check types s) shape c).1 := by
  have hInspected := inspected_check_eq hTypes s hShape hc
  have hOpened := check_eq hTypes s shape.slot _ hShape.slot (hc.opened hTypes hShape)
  refine ⟨?_, ?_, ?_, fun d hd => ?_⟩
  · rw [hInspected]
  · rw [hInspected, hOpened]
  · rw [hOpened]
  · rw [hInspected, inspected_check_eq hTypes s hShape hd]

/-- A parcel that is not there stays away, and one without a label stays without, when a look
finds that heavy parcels do not fit.  To open the storage would put a parcel there. -/
theorem inspected_check_absent_parcel :
    (Content.HasShape .parcels (.optional (.optional (.record "parcel"))) (.optional none) ∧
        Content.HasShape .parcels (.optional (.record "parcel"))
          (.optional (some (.parcel none [])))) ∧
      Content.inspected .parcels (check .parcels (parcel 300))
          (.optional (.optional (.record "parcel"))) (.optional none) =
        (.error (mismatch (.integer {} 0 300 : Schema .standard) (.int .uint8)), .optional none) ∧
      Content.inspected .parcels (check .parcels (parcel 300)) (.optional (.record "parcel"))
          (.optional (some (.parcel none []))) =
        (.error (mismatch (.integer {} 0 300 : Schema .standard) (.int .uint8)),
          .optional (some (.parcel none []))) ∧
      Content.opened .parcels (.optional (.optional (.record "parcel"))) (.optional none) =
        .record [("contents", .sequence []), ("label", .optional none), ("weight", .int 0)] := by
  have hTwice : Shape.Standard (.optional (.optional (.record "parcel"))) := trivial
  have hOnce : Shape.Standard (.optional (.record "parcel")) := trivial
  have hAbsent : Content.HasShape .parcels (.optional (.optional (.record "parcel")))
      (.optional none) := .absent
  have hBare : Content.HasShape .parcels (.optional (.record "parcel"))
      (.optional (some (.parcel none []))) :=
    .present (Content.hasShape_parcel (by simp))
  obtain ⟨hKept, hVerdict, -⟩ :=
    inspected_check_eq_check_opened (parcel 300) Catalog.standard_parcels hTwice hAbsent
  obtain ⟨hKeptBare, hVerdictBare, -⟩ :=
    inspected_check_eq_check_opened (parcel 300) Catalog.standard_parcels hOnce hBare
  exact ⟨⟨hAbsent, hBare⟩, Prod.ext hVerdict hKept, Prod.ext hVerdictBare hKeptBare, rfl⟩

end Outside

end Schema
end DataContract
