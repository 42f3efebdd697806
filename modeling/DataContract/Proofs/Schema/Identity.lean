import DataContract.Proofs.Schema.Documents
import DataContract.Proofs.Value.Sameness
import DataContract.Schema.Basic
/-!
# Descriptors identify schemas

Descriptors have the same content exactly when their schemas are equal.  The kind of a
schema can be read off what its descriptor says, so two kinds never share a descriptor;
within a kind the descriptors have the same fields, and each field tells apart what it was
written from.  A field that is left out is told from every other, because only its default
is left out.

**Results.**
* `same_document_iff`: documents of the same fields are compared field by field.
* `sameField_omitIf_iff`: leaving out a default loses nothing.
* `describedKind_descriptor`: the kind is read off what a descriptor says.
* `identified_of_isLeaf`, `identified_object` and so on: each kind of schema is identified
  by its descriptor when its parts are.
* `same_descriptor_iff_equal`: so is every schema with finite bounds.
-/

namespace DataContract

variable {R : Readers}

theorem Combinator.keyword_injective : Function.Injective Combinator.keyword := by
  intro c d h
  cases c <;> cases d <;> first | rfl | simp [keyword] at h

theorem Combinator.ne_keyword {text : String} (h : text ∉ ["anyOf", "oneOf", "allOf"])
    (c : Combinator) :
    text ≠ c.keyword := by
  rintro rfl
  cases c <;> simp [keyword] at h

theorem Annotation.eq_iff {n m : Annotation} :
    n = m ↔ n.title = m.title ∧ n.description = m.description := by
  cases n
  cases m
  rw [mk.injEq]

namespace Value

/-- Two fields are both left out, or have the same content. -/
def SameField (x y : Option Value) : Prop := Option.Rel (fun v w => v.same w = true) x y

@[simp] theorem sameField_some_iff {v w : Value} :
    SameField (some v) (some w) ↔ v.same w = true := by
  constructor
  · intro h
    cases h with
    | some hSame => exact hSame
  · intro hSame
    exact Option.Rel.some hSame

theorem not_sameField_none_some {v : Value} : ¬ SameField none (some v) := by
  rintro ⟨⟩

theorem not_sameField_some_none {v : Value} : ¬ SameField (some v) none := by
  rintro ⟨⟩

end Value

namespace Schema

open Value

/-- Documents of the same fields have the same content when the fields do. -/
theorem same_document_iff {fs gs : List (String × Option Value)}
    (hNames : fs.map Prod.fst = gs.map Prod.fst) (hSorted : (fs.map Prod.fst).Pairwise (· < ·)) :
    (document fs).same (document gs) = true ↔
      List.Forall₂ (fun f g => SameField f.2 g.2) fs gs := by
  have hNodup : (fs.map Prod.fst).Nodup := hSorted.imp fun hlt => ne_of_lt hlt
  rw [document, document, same_object_iff_of_sorted (Entries.sorted_present hSorted)
    (Entries.sorted_present (hNames ▸ hSorted)), Entries.rel_present_iff hNames hNodup]
  rfl

/-- What is left out at a default is told apart when the default is told apart. -/
theorem sameField_omitIf_iff {v w : Value} {omitLeft omitRight : Bool} {related : Prop}
    (hSame : v.same w = true ↔ related) (hOmit : related → omitLeft = omitRight)
    (hDefault : omitLeft = true → omitRight = true → related) :
    SameField (omitIf omitLeft v) (omitIf omitRight w) ↔ related := by
  cases omitLeft with
  | false =>
      cases omitRight with
      | false => exact sameField_some_iff.trans hSame
      | true => exact iff_of_false not_sameField_some_none fun h => by simpa using hOmit h
  | true =>
      cases omitRight with
      | false => exact iff_of_false not_sameField_none_some fun h => by simpa using hOmit h
      -- Left out on both sides: both stand at the default.
      | true => exact iff_of_true .none (hDefault rfl rfl)

@[simp] theorem same_string_iff {s t : String} :
    (Value.string s).same (.string t) = true ↔ s = t := by
  rw [same, beq_iff_eq]

@[simp] theorem same_ofStrings_iff {ss ts : List String} :
    (ofStrings ss).same (ofStrings ts) = true ↔ ss = ts := by
  rw [ofStrings, ofStrings, same, sameItems_eq_true_iff, List.forall₂_map_left_iff,
    List.forall₂_map_right_iff]
  simp only [same_string_iff]
  exact List.forall₂_eq_eq_eq ▸ Iff.rfl

@[simp] theorem sameField_textField_iff {s t : String} :
    SameField (textField s) (textField t) ↔ s = t := by
  refine sameField_omitIf_iff same_string_iff (fun h => by rw [h]) fun hs ht => ?_
  rw [String.isEmpty_iff.mp hs, String.isEmpty_iff.mp ht]

theorem same_ofUInt64_iff {m n : UInt64} : (ofUInt64 m).same (ofUInt64 n) = true ↔ m = n := by
  have hValue (k : UInt64) : (Number.ofUInt64 k).value = k.toNat := rfl
  rw [ofUInt64, ofUInt64, same, Number.sameValue_iff, hValue, hValue, Nat.cast_inj,
    UInt64.toNat_inj]

@[simp] theorem sameField_lengthField_iff {m n : UInt64} :
    SameField (lengthField m) (lengthField n) ↔ m = n := by
  refine sameField_omitIf_iff same_ofUInt64_iff (fun h => by rw [h]) fun hm hn => ?_
  rw [eq_of_beq hm, eq_of_beq hn]

theorem same_ofInt64_iff {m n : Int64} : (ofInt64 m).same (ofInt64 n) = true ↔ m = n := by
  have hValue (k : Int64) : (Number.ofInt64 k).value = k.toInt := rfl
  rw [ofInt64, ofInt64, same, Number.sameValue_iff, hValue, hValue, Int.cast_inj, Int64.toInt_inj]

@[simp] theorem sameField_integerBound_iff {m n default : Int64} :
    SameField (omitIf (m == default) (.ofInt64 m)) (omitIf (n == default) (.ofInt64 n)) ↔
      m = n := by
  refine sameField_omitIf_iff same_ofInt64_iff (fun h => by rw [h]) fun hm hn => ?_
  rw [eq_of_beq hm, eq_of_beq hn]

theorem same_ofDouble_iff {x y : Double} (hx : x.isFinite = true) (hy : y.isFinite = true) :
    (ofDouble x).same (ofDouble y) = true ↔ x.numEq y = true := by
  cases x with
  | finite x =>
      cases y with
      | finite y =>
          have hValue (z : FiniteDouble) : (Number.real z).value = z.value := rfl
          rw [ofDouble, ofDouble, same, Number.sameValue_iff, hValue, hValue, Double.numEq,
            FiniteDouble.sameValue_iff]
      | _ => cases hy
  | _ => cases hx

theorem sameField_numberBound_iff {x y : Double} (hx : x.isFinite = true)
    (hy : y.isFinite = true) (default : Double) :
    SameField (omitIf (x.numEq default) (ofDouble x)) (omitIf (y.numEq default) (ofDouble y)) ↔
      x.numEq y = true := by
  refine sameField_omitIf_iff (same_ofDouble_iff hx hy) (fun h => Double.numEq_congr h default)
    fun hOmitX hOmitY => ?_
  rw [Double.numEq_congr hOmitX, Double.numEq_comm, hOmitY]

@[simp] theorem sameField_pattern_iff {p q : Option (Pattern R)} :
    SameField (p.map fun p => .string p.source) (q.map fun p => .string p.source) ↔
      equalPatterns p q = true := by
  rw [equalPatterns, beq_iff_eq]
  cases p with
  | none =>
      cases q with
      | none => exact iff_of_true .none rfl
      | some q => exact iff_of_false not_sameField_none_some (by simp)
  | some p =>
      cases q with
      | none => exact iff_of_false not_sameField_some_none (by simp)
      | some q =>
          rw [Option.map_some, Option.map_some, sameField_some_iff, same_string_iff]
          simp

/-- A flag is told apart by whether it is written. -/
@[simp] theorem sameField_flag_iff {b c : Bool} {v : Bool} :
    SameField (omitIf b (.bool v)) (omitIf c (.bool v)) ↔ b = c := by
  have hSame : (Value.bool v).same (.bool v) = true := beq_self_eq_true v
  cases b with
  | false =>
      cases c with
      | false => exact iff_of_true (sameField_some_iff.mpr hSame) rfl
      | true => exact iff_of_false not_sameField_some_none Bool.false_ne_true
  | true =>
      cases c with
      | false => exact iff_of_false not_sameField_none_some Bool.true_eq_false_eq_False
      | true => exact iff_of_true .none rfl

@[simp] theorem sameField_names_iff {ss ts : List String} :
    SameField (omitIf ss.isEmpty (ofStrings ss)) (omitIf ts.isEmpty (ofStrings ts)) ↔ ss = ts := by
  refine sameField_omitIf_iff same_ofStrings_iff (fun h => by rw [h]) fun hs ht => ?_
  rw [List.isEmpty_iff.mp hs, List.isEmpty_iff.mp ht]

end Schema

/-- The kind of the schemas that a document describes: the type tells most kinds, then the
format or the options of a string, and what is said of the other names of an object.  A
document without a type is a combination. -/
def ExactValue.describedKind : ExactValue → String
  | .object fields =>
      match fields "type" with
      | some (.string type) =>
          if type = "string" then
            match fields "format", fields "enum" with
            | some (.string format), _ => format
            | none, some _ => "string enum"
            | _, _ => "string"
          else if type = "object" then
            match fields "additionalProperties" with
            | some (.object _) => "map"
            | _ => "object"
          else type
      | some _ => "duration"
      | none =>
          if (fields "anyOf").isSome then "anyOf"
          else if (fields "oneOf").isSome then "oneOf"
          else "allOf"
  | _ => ""

namespace Schema

open Value

theorem toExact_document (fields : List (String × Option Value)) :
    (document fields).toExact =
      .object fun name => (Entries.get? (Entries.present fields) name).map toExact := by
  rw [document, toExact]
  exact congrArg ExactValue.object (funext fun name => exactEntries_eq_map)

/-- The kind of a schema is read off what its descriptor says. -/
theorem describedKind_descriptor (s : Schema R) : s.descriptor.toExact.describedKind = s.kind := by
  cases s with
  | map note values =>
      -- What describes the values is an object, unlike the flag of an object.
      obtain ⟨entries, hEntries⟩ := exists_descriptor_eq_object values
      simp [descriptor, toExact_document, hEntries, toExact, ExactValue.describedKind, kind]
  | object note properties additional required =>
      cases additional <;>
        simp [descriptor, toExact_document, omitIf, toExact, ExactValue.describedKind, kind]
  | combined c branches =>
      cases c <;>
        simp [descriptor, toExact_document, ExactValue.describedKind, kind, Combinator.keyword]
  | _ =>
      simp [descriptor, toExact_document, toExact, ofStrings, ExactValue.describedKind, kind]

theorem kind_eq_of_same {s t : Schema R} (hs : s.WellFormed) (ht : t.WellFormed)
    (h : s.descriptor.same t.descriptor = true) :
    s.kind = t.kind := by
  have hExact : s.descriptor.toExact = t.descriptor.toExact :=
    (same_iff_toExact_eq _ _ (wellFormed_descriptor s hs) (wellFormed_descriptor t ht)).mp h
  rw [← describedKind_descriptor, hExact, describedKind_descriptor]

/-- Schemas of different kinds are not equal, and their descriptors differ. -/
theorem same_iff_equal_of_kind_ne {s t : Schema R} (hs : s.WellFormed) (ht : t.WellFormed)
    (h : s.kind ≠ t.kind) :
    s.descriptor.same t.descriptor = true ↔ s.equal t = true := by
  refine iff_of_false (fun hSame => ?_) fun hEqual => ?_
  · exact h (kind_eq_of_same hs ht hSame)
  · exact h (kind_eq_of_equal hEqual)

/-- Only equal schemas have a descriptor of the same content. -/
def Identified (s : Schema R) : Prop :=
  ∀ t : Schema R, t.WellFormed → t.FiniteBounds →
    (s.descriptor.same t.descriptor = true ↔ s.equal t = true)

section Kinds

variable {note : Annotation}

theorem identified_integer {minimum maximum : Int64} :
    (integer note minimum maximum : Schema R).Identified := by
  intro t ht _
  cases t with
  | integer note' minimum' maximum' =>
      rw [descriptor, descriptor, equal]
      refine Iff.trans (same_document_iff rfl (by simp only [List.map]; decide)) ?_
      simp only [List.forall₂_cons, List.Forall₂.nil, sameField_textField_iff,
        sameField_integerBound_iff, sameField_some_iff, same_string_iff, and_true, Bool.and_eq_true,
        beq_iff_eq, Annotation.eq_iff]
      tauto
  | _ => exact same_iff_equal_of_kind_ne trivial ht (by simp [kind, Combinator.ne_keyword])

theorem identified_number {minimum maximum : Double}
    (hBounds : (number note minimum maximum : Schema R).FiniteBounds) :
    (number note minimum maximum : Schema R).Identified := by
  intro t ht hBounds'
  cases t with
  | number note' minimum' maximum' =>
      simp only [FiniteBounds, numberBounds, List.forall_mem_cons] at hBounds hBounds'
      rw [descriptor, descriptor, equal]
      refine Iff.trans (same_document_iff rfl (by simp only [List.map]; decide)) ?_
      simp only [List.forall₂_cons, List.Forall₂.nil, sameField_textField_iff,
        sameField_numberBound_iff hBounds.1 hBounds'.1,
        sameField_numberBound_iff hBounds.2.1 hBounds'.2.1, sameField_some_iff, same_string_iff,
        and_true, Bool.and_eq_true, beq_iff_eq, Annotation.eq_iff]
      tauto
  | _ => exact same_iff_equal_of_kind_ne trivial ht (by simp [kind, Combinator.ne_keyword])

theorem identified_boolean : (boolean note : Schema R).Identified := by
  intro t ht _
  cases t with
  | boolean note' =>
      rw [descriptor, descriptor, equal]
      refine Iff.trans (same_document_iff rfl (by simp only [List.map]; decide)) ?_
      simp only [List.forall₂_cons, List.Forall₂.nil, sameField_textField_iff, sameField_some_iff,
        same_string_iff, and_true, beq_iff_eq, Annotation.eq_iff]
      tauto
  | _ => exact same_iff_equal_of_kind_ne trivial ht (by simp [kind, Combinator.ne_keyword])

theorem identified_string {minLength maxLength : UInt64} {pattern : Option (Pattern R)} :
    (string note minLength maxLength pattern).Identified := by
  intro t ht _
  cases t with
  | string note' minLength' maxLength' pattern' =>
      rw [descriptor, descriptor, equal]
      refine Iff.trans (same_document_iff rfl (by simp only [List.map]; decide)) ?_
      simp only [List.forall₂_cons, List.Forall₂.nil, sameField_textField_iff,
        sameField_lengthField_iff, sameField_pattern_iff, sameField_some_iff, same_string_iff,
        and_true, Bool.and_eq_true, beq_iff_eq, Annotation.eq_iff]
      tauto
  | _ => exact same_iff_equal_of_kind_ne trivial ht (by simp [kind, Combinator.ne_keyword])

/-- Beside the annotation and the type, one field may differ. -/
theorem same_annotated_iff {n m : Annotation} {name : String} {v w type : Value}
    (hSorted : List.Pairwise (· < ·) ["description", name, "title", "type"])
    (hType : type.same type = true) :
    (document [("description", textField n.description), (name, some v),
        ("title", textField n.title), ("type", some type)]).same
      (document [("description", textField m.description), (name, some w),
        ("title", textField m.title), ("type", some type)]) = true ↔
      n = m ∧ v.same w = true := by
  refine Iff.trans (same_document_iff rfl hSorted) ?_
  simp only [List.forall₂_cons, List.Forall₂.nil, sameField_textField_iff, sameField_some_iff,
    hType, and_true, Annotation.eq_iff]
  tauto

theorem identified_enumeration {options : List String} {nonempty : options ≠ []} :
    (enumeration note options nonempty : Schema R).Identified := by
  intro t ht _
  cases t with
  | enumeration note' options' nonempty' =>
      rw [descriptor, descriptor, equal, same_annotated_iff (by decide) (same_string_iff.mpr rfl),
        same_ofStrings_iff, Bool.and_eq_true, beq_iff_eq, beq_iff_eq]
  | _ => exact same_iff_equal_of_kind_ne trivial ht (by simp [kind, Combinator.ne_keyword])

theorem identified_uri : (uri note : Schema R).Identified := by
  intro t ht _
  cases t with
  | uri note' =>
      rw [descriptor, descriptor, equal, same_annotated_iff (by decide) (same_string_iff.mpr rfl),
        same_string_iff, beq_iff_eq, and_iff_left rfl]
  | _ => exact same_iff_equal_of_kind_ne trivial ht (by simp [kind, Combinator.ne_keyword])

theorem identified_dateTime : (dateTime note : Schema R).Identified := by
  intro t ht _
  cases t with
  | dateTime note' =>
      rw [descriptor, descriptor, equal, same_annotated_iff (by decide) (same_string_iff.mpr rfl),
        same_string_iff, beq_iff_eq, and_iff_left rfl]
  | _ => exact same_iff_equal_of_kind_ne trivial ht (by simp [kind, Combinator.ne_keyword])

theorem identified_duration : (duration note : Schema R).Identified := by
  intro t ht _
  cases t with
  | duration note' =>
      rw [descriptor, descriptor, equal,
        same_annotated_iff (by decide) (same_ofStrings_iff.mpr rfl), same_string_iff, beq_iff_eq,
        and_iff_left rfl]
  | _ => exact same_iff_equal_of_kind_ne trivial ht (by simp [kind, Combinator.ne_keyword])

theorem identified_of_isLeaf {s : Schema R} (hLeaf : s.IsLeaf) (hBounds : s.FiniteBounds) :
    s.Identified := by
  cases s with
  | integer note minimum maximum => exact identified_integer
  | number note minimum maximum => exact identified_number hBounds
  | boolean note => exact identified_boolean
  | string note minLength maxLength pattern => exact identified_string
  | enumeration note options nonempty => exact identified_enumeration
  | uri note => exact identified_uri
  | dateTime note => exact identified_dateTime
  | duration note => exact identified_duration
  | array | map | object | combined => exact hLeaf.elim

theorem same_propertyDescriptors_iff {ps qs : List (String × Schema R)}
    (hp : Entries.Sorted ps) (hq : Entries.Sorted qs)
    (ih : ∀ p ∈ ps, p.2.Identified)
    (hWell : ∀ q ∈ qs, q.2.WellFormed) (hBounds : ∀ q ∈ qs, q.2.FiniteBounds) :
    (Value.object (propertyDescriptors ps)).same (.object (propertyDescriptors qs)) = true ↔
      equalProperties ps qs = true := by
  rw [propertyDescriptors_eq_mapValues, propertyDescriptors_eq_mapValues,
    same_object_iff_of_sorted (hp.mapValues descriptor) (hq.mapValues descriptor),
    (hp.mapValues descriptor).rel_iff_forall₂ (hq.mapValues descriptor)]
  simp only [Entries.mapValues, List.forall₂_map_left_iff, List.forall₂_map_right_iff]
  clear hp hq
  induction ps generalizing qs with
  | nil => cases qs <;> simp [equalProperties]
  | cons p ps ihProperties =>
      cases qs with
      | nil => simp [equalProperties]
      | cons q qs =>
          rw [List.forall_mem_cons] at ih hWell hBounds
          rw [List.forall₂_cons, ihProperties ih.2 hWell.2 hBounds.2,
            ih.1 q.2 hWell.1 hBounds.1]
          simp [equalProperties, and_assoc]

theorem same_branchDescriptors_iff {ss ts : List (Schema R)} (ih : ∀ s ∈ ss, s.Identified)
    (hWell : ∀ t ∈ ts, t.WellFormed) (hBounds : ∀ t ∈ ts, t.FiniteBounds) :
    (Value.array (branchDescriptors ss)).same (.array (branchDescriptors ts)) = true ↔
      equalBranches ss ts = true := by
  rw [same, sameItems_eq_true_iff]
  induction ss generalizing ts with
  | nil => cases ts <;> simp [branchDescriptors, equalBranches]
  | cons s ss ihBranches =>
      cases ts with
      | nil => simp [branchDescriptors, equalBranches]
      | cons t ts =>
          rw [List.forall_mem_cons] at ih hWell hBounds
          rw [branchDescriptors, branchDescriptors, List.forall₂_cons,
            ihBranches ih.2 hWell.2 hBounds.2, ih.1 t hWell.1 hBounds.1, equalBranches,
            Bool.and_eq_true]

theorem identified_array {items : Schema R} {unique : Bool} (hWell : items.WellFormed)
    (ih : items.Identified) :
    (array note items unique).Identified := by
  intro t ht hBounds
  cases t with
  | array note' items' unique' =>
      rw [descriptor, descriptor, equal]
      refine Iff.trans (same_document_iff rfl (by simp only [List.map]; decide)) ?_
      simp only [List.forall₂_cons, List.Forall₂.nil, sameField_textField_iff, sameField_some_iff,
        same_string_iff, sameField_flag_iff, Bool.not_inj_iff, ih items' ht hBounds, and_true,
        Bool.and_eq_true, beq_iff_eq, Annotation.eq_iff]
      tauto
  | _ => exact same_iff_equal_of_kind_ne hWell ht (by simp [kind, Combinator.ne_keyword])

theorem identified_map {values : Schema R} (hWell : values.WellFormed) (ih : values.Identified) :
    (map note values).Identified := by
  intro t ht hBounds
  cases t with
  | map note' values' =>
      rw [descriptor, descriptor, equal]
      refine Iff.trans (same_document_iff rfl (by simp only [List.map]; decide)) ?_
      simp only [List.forall₂_cons, List.Forall₂.nil, sameField_textField_iff, sameField_some_iff,
        same_string_iff, ih values' ht hBounds, and_true, Bool.and_eq_true, beq_iff_eq,
        Annotation.eq_iff]
      tauto
  | _ => exact same_iff_equal_of_kind_ne hWell ht (by simp [kind, Combinator.ne_keyword])

theorem identified_object {properties : List (String × Schema R)} {additional : Bool}
    {required : List String}
    (hWell : (object note properties additional required).WellFormed)
    (ih : ∀ property ∈ properties, property.2.Identified) :
    (object note properties additional required).Identified := by
  intro t ht hBounds
  cases t with
  | object note' properties' additional' required' =>
      have hProperties : SameField
          (omitIf properties.isEmpty (.object (propertyDescriptors properties)))
          (omitIf properties'.isEmpty (.object (propertyDescriptors properties'))) ↔
            equalProperties properties properties' = true := by
        rw [WellFormed, propertiesWellFormed_iff] at ht
        refine sameField_omitIf_iff (same_propertyDescriptors_iff hWell.1 ht.1 ih ht.2
          (finiteBounds_object_iff.mp hBounds)) ?_ ?_
        · intro h
          cases properties <;> cases properties' <;> simp [equalProperties] at h ⊢
        · intro h h'
          rw [List.isEmpty_iff.mp h, List.isEmpty_iff.mp h', equalProperties]
      rw [descriptor, descriptor, equal]
      refine Iff.trans (same_document_iff rfl (by simp only [List.map]; decide)) ?_
      simp only [List.forall₂_cons, List.Forall₂.nil, sameField_textField_iff, sameField_some_iff,
        same_string_iff, sameField_flag_iff, sameField_names_iff, hProperties, and_true,
        Bool.and_eq_true, beq_iff_eq, Annotation.eq_iff]
      tauto
  | _ => exact same_iff_equal_of_kind_ne hWell ht (by simp [kind, Combinator.ne_keyword])

theorem identified_combined {c : Combinator} {branches : List (Schema R)}
    (hWell : (combined c branches).WellFormed) (ih : ∀ branch ∈ branches, branch.Identified) :
    (combined c branches).Identified := by
  intro t ht hBounds
  cases t with
  | combined d branches' =>
      by_cases hKeyword : c = d
      · subst hKeyword
        have hBranches := same_branchDescriptors_iff ih (branchesWellFormed_iff.mp ht)
          (finiteBounds_combined_iff.mp hBounds)
        rw [descriptor, descriptor, equal]
        refine Iff.trans (same_document_iff rfl (List.pairwise_singleton _ _)) ?_
        simp only [List.forall₂_cons, List.Forall₂.nil, sameField_some_iff, hBranches, and_true,
          beq_self_eq_true, Bool.true_and]
      · exact same_iff_equal_of_kind_ne hWell ht fun hKind =>
          hKeyword (Combinator.keyword_injective hKind)
  | _ =>
      exact same_iff_equal_of_kind_ne hWell ht
        (Ne.symm (by simp [kind, Combinator.ne_keyword]))

end Kinds

theorem identified (s : Schema R) (hs : s.WellFormed) (hBounds : s.FiniteBounds) :
    s.Identified := by
  induction s using inductionOnParts with
  | leaf s hLeaf => exact identified_of_isLeaf hLeaf hBounds
  | array note items unique ih => exact identified_array hs (ih hs hBounds)
  | map note values ih => exact identified_map hs (ih hs hBounds)
  | object note properties additional required ih =>
      refine identified_object hs fun property hProperty => ih property hProperty ?_ ?_
      · exact propertiesWellFormed_iff.mp hs.2 property hProperty
      · exact finiteBounds_object_iff.mp hBounds property hProperty
  | combined c branches ih =>
      refine identified_combined hs fun branch hBranch => ih branch hBranch ?_ ?_
      · exact branchesWellFormed_iff.mp hs branch hBranch
      · exact finiteBounds_combined_iff.mp hBounds branch hBranch

/-- Descriptors of schemas with finite bounds have the same content exactly when the schemas
are equal. -/
theorem same_descriptor_iff_equal {s t : Schema R} (hs : s.WellFormed) (ht : t.WellFormed)
    (hFiniteS : s.FiniteBounds) (hFiniteT : t.FiniteBounds) :
    s.descriptor.same t.descriptor = true ↔ s.equal t = true :=
  identified s hs hFiniteS t ht hFiniteT

/-- The sign of a zero bound does not tell gauges apart, but the greatest bound does, also
when it is the default that is left out. -/
theorem same_descriptor_gauge :
    (gauge (.finite (.zero true)) .maxFinite).descriptor.same
        (gauge (.finite (.zero false)) .maxFinite).descriptor = true ∧
      (gauge (.finite (.zero true)) .maxFinite).descriptor.same
        (gauge (.finite (.zero true)) (.finite (.zero true))).descriptor = false := by
  have hWide : (gauge (.finite (.zero true)) .maxFinite).FiniteBounds := by decide +kernel
  have hSigned : (gauge (.finite (.zero false)) .maxFinite).FiniteBounds := by decide +kernel
  have hNarrow : (gauge (.finite (.zero true)) (.finite (.zero true))).FiniteBounds := by
    decide +kernel
  constructor
  · rw [same_descriptor_iff_equal wellFormed_gauge wellFormed_gauge hWide hSigned]
    decide +kernel
  · rw [← Bool.not_eq_true,
      same_descriptor_iff_equal wellFormed_gauge wellFormed_gauge hWide hNarrow]
    decide +kernel

end Schema
end DataContract
