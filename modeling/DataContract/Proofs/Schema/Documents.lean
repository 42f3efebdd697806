import DataContract.Proofs.Number.Rounding
import DataContract.Proofs.Schema.Induction
import DataContract.Proofs.Value.Exact
import DataContract.Readers.Standard
import DataContract.Schema.Descriptor
/-!
# Documents of schemas

A document has the fields that are present, in the order in which all fields are listed,
and a lookup finds the field of its name.  The bounds of numbers anywhere in a schema are
what its descriptor may lose: a bound that is not finite has no literal.

**Results.**
* `Entries.get?_present_cons`: a lookup in a document goes through the fields.
* `Entries.rel_present_iff`: documents of the same fields are compared field by field.
* `Schema.FiniteBounds`: all bounds of numbers in a schema are finite.
* `Schema.wellFormed_descriptor`: the names in a descriptor ascend, at every depth.
-/

namespace DataContract

variable {R : Readers}

namespace Entries

variable {α β : Type}

@[simp] theorem present_nil : present ([] : List (String × Option α)) = [] := rfl

/-- A lookup goes through the fields, and passes by those that are left out. -/
@[simp] theorem get?_present_cons (name other : String) (value : Option α)
    (fields : List (String × Option α)) :
    get? (present ((other, value) :: fields)) name =
      if name = other then value.or (get? (present fields) name)
      else get? (present fields) name := by
  cases value with
  | none =>
      rw [Option.none_or, ite_self]
      rfl
  | some v => exact get?_cons name other v (present fields)

theorem get?_present_of_not_mem {fields : List (String × Option α)} {name : String}
    (h : name ∉ fields.map Prod.fst) :
    get? (present fields) name = none := by
  induction fields with
  | nil => rfl
  | cons field fields ih =>
      obtain ⟨other, value⟩ := field
      rw [List.map_cons, List.mem_cons, not_or] at h
      rw [get?_present_cons, if_neg h.1, ih h.2]

/-- The fields that are present stand in the order of all. -/
theorem sorted_present {fields : List (String × Option α)}
    (h : (fields.map Prod.fst).Pairwise (· < ·)) :
    Sorted (present fields) :=
  (sorted_iff_pairwise_names.mpr h).chooseValues fun _ value => value

/-- Documents of the same fields are related at every name when the fields are related one
by one. -/
theorem rel_present_iff {P : α → β → Prop} {fs : List (String × Option α)}
    {gs : List (String × Option β)} (hNames : fs.map Prod.fst = gs.map Prod.fst)
    (hNodup : (fs.map Prod.fst).Nodup) :
    (∀ name, Option.Rel P (get? (present fs) name) (get? (present gs) name)) ↔
      List.Forall₂ (fun f g => Option.Rel P f.2 g.2) fs gs := by
  induction fs generalizing gs with
  | nil =>
      cases gs with
      | nil => exact iff_of_true (fun name => .none) .nil
      | cons g gs => simp at hNames
  | cons f fs ih =>
      cases gs with
      | nil => simp at hNames
      | cons g gs =>
          obtain ⟨name, x⟩ := f
          obtain ⟨other, y⟩ := g
          simp only [List.map_cons, List.cons.injEq] at hNames
          obtain ⟨rfl, hTail⟩ := hNames
          rw [List.map_cons, List.nodup_cons] at hNodup
          -- The first name does not occur among the other fields.
          have hAbsentX : get? (present fs) name = none := get?_present_of_not_mem hNodup.1
          have hAbsentY : get? (present gs) name = none :=
            get?_present_of_not_mem (hTail ▸ hNodup.1)
          rw [List.forall₂_cons, ← ih hTail hNodup.2]
          simp only [get?_present_cons]
          constructor
          · intro h
            refine ⟨?_, fun n => ?_⟩
            · simpa [hAbsentX, hAbsentY] using h name
            · by_cases hName : n = name
              · rw [hName, hAbsentX, hAbsentY]
                exact .none
              · simpa [hName] using h n
          · rintro ⟨hHead, hRest⟩ n
            by_cases hName : n = name
            · simpa [hName, hAbsentX, hAbsentY] using hHead
            · simpa [hName] using hRest n

end Entries

namespace Schema

mutual

/-- The bounds of numbers that occur anywhere in a schema. -/
def numberBounds : Schema R → List Double
  | .number _ minimum maximum => [minimum, maximum]
  | .array _ items _ => items.numberBounds
  | .map _ values => values.numberBounds
  | .object _ properties _ _ => propertyBounds properties
  | .combined _ branches => branchBounds branches
  | _ => []

/-- The bounds of numbers in properties. -/
def propertyBounds : List (String × Schema R) → List Double
  | [] => []
  | (_, s) :: properties => s.numberBounds ++ propertyBounds properties

/-- The bounds of numbers in branches. -/
def branchBounds : List (Schema R) → List Double
  | [] => []
  | s :: branches => s.numberBounds ++ branchBounds branches

end

/-- Every bound of a number in the schema is finite. -/
def FiniteBounds (s : Schema R) : Prop := ∀ x ∈ s.numberBounds, x.isFinite = true

instance (s : Schema R) : Decidable s.FiniteBounds :=
  inferInstanceAs (Decidable (∀ x ∈ s.numberBounds, x.isFinite = true))

theorem finiteBounds_object_iff {note : Annotation} {properties : List (String × Schema R)}
    {additional : Bool} {required : List String} :
    (object note properties additional required).FiniteBounds ↔
      ∀ property ∈ properties, property.2.FiniteBounds := by
  rw [FiniteBounds, numberBounds]
  induction properties with
  | nil => simp [propertyBounds]
  | cons property properties ih =>
      rw [propertyBounds, List.forall_mem_append, ih, List.forall_mem_cons, FiniteBounds]

theorem finiteBounds_combined_iff {c : Combinator} {branches : List (Schema R)} :
    (combined c branches).FiniteBounds ↔ ∀ branch ∈ branches, branch.FiniteBounds := by
  rw [FiniteBounds, numberBounds]
  induction branches with
  | nil => simp [branchBounds]
  | cons branch branches ih =>
      rw [branchBounds, List.forall_mem_append, ih, List.forall_mem_cons, FiniteBounds]

section Order

open Value

theorem wellFormed_document {fields : List (String × Option Value)}
    (hSorted : (fields.map Prod.fst).Pairwise (· < ·))
    (hFields : ∀ field ∈ fields, ∀ v, field.2 = some v → v.WellFormed) :
    (document fields).WellFormed := by
  rw [document, wellFormed_object_iff]
  refine ⟨Entries.sorted_present hSorted, fun entry hEntry => ?_⟩
  obtain ⟨field, hField, hSome⟩ := List.mem_filterMap.mp hEntry
  obtain ⟨v, hValue, rfl⟩ := Option.map_eq_some_iff.mp hSome
  exact hFields field hField v hValue

theorem propertyDescriptors_eq_mapValues {properties : List (String × Schema R)} :
    propertyDescriptors properties = Entries.mapValues descriptor properties := by
  induction properties with
  | nil => rfl
  | cons property properties ih =>
      rw [propertyDescriptors, ih]
      rfl

theorem branchDescriptors_eq_map {branches : List (Schema R)} :
    branchDescriptors branches = branches.map descriptor := by
  induction branches with
  | nil => rfl
  | cons s branches ih => rw [branchDescriptors, ih, List.map_cons]

theorem wellFormed_propertyDescriptors {properties : List (String × Schema R)}
    (hSorted : Entries.Sorted properties)
    (h : ∀ property ∈ properties, property.2.descriptor.WellFormed) :
    (Value.object (propertyDescriptors properties)).WellFormed := by
  rw [wellFormed_object_iff, propertyDescriptors_eq_mapValues]
  refine ⟨hSorted.mapValues descriptor, fun entry hEntry => ?_⟩
  obtain ⟨property, hProperty, rfl⟩ := List.mem_map.mp hEntry
  exact h property hProperty

theorem wellFormed_branchDescriptors {branches : List (Schema R)}
    (h : ∀ branch ∈ branches, branch.descriptor.WellFormed) :
    (Value.array (branchDescriptors branches)).WellFormed := by
  rw [wellFormed_array_iff, branchDescriptors_eq_map]
  exact List.forall_mem_map.mpr h

/-- The names in a descriptor ascend, at every depth. -/
theorem wellFormed_descriptor (s : Schema R) (h : s.WellFormed) : s.descriptor.WellFormed := by
  induction s using inductionOnParts with
  | leaf s hLeaf =>
      cases s with
      | array | map | object | combined => exact hLeaf.elim
      | _ =>
          rw [descriptor]
          refine wellFormed_document (by simp only [List.map]; decide) ?_
          simp [textField, lengthField, omitIf, ofInt64, ofUInt64, Value.WellFormed,
            wellFormed_ofStrings, wellFormed_ofDouble]
  | array note items unique ih =>
      rw [descriptor]
      refine wellFormed_document (by simp only [List.map]; decide) ?_
      simp [textField, omitIf, Value.WellFormed, ih h]
  | map note values ih =>
      rw [descriptor]
      refine wellFormed_document (by simp only [List.map]; decide) ?_
      simp [textField, omitIf, Value.WellFormed, ih h]
  | object note properties additional required ih =>
      rw [WellFormed, propertiesWellFormed_iff] at h
      have hProperties : (Value.object (propertyDescriptors properties)).WellFormed :=
        wellFormed_propertyDescriptors h.1 fun property hProperty =>
          ih property hProperty (h.2 property hProperty)
      rw [descriptor]
      refine wellFormed_document (by simp only [List.map]; decide) ?_
      simpa [textField, omitIf, Value.WellFormed, wellFormed_ofStrings] using
        fun _ : properties ≠ [] => hProperties
  | combined c branches ih =>
      rw [WellFormed, branchesWellFormed_iff] at h
      have hBranches : (Value.array (branchDescriptors branches)).WellFormed :=
        wellFormed_branchDescriptors fun branch hBranch => ih branch hBranch (h branch hBranch)
      rw [descriptor]
      refine wellFormed_document (List.pairwise_singleton _ _) ?_
      simp [hBranches]

end Order

theorem exists_descriptor_eq_object (s : Schema R) : ∃ entries, s.descriptor = .object entries := by
  cases s <;> exact ⟨_, rfl⟩

/-- A gauge: what it reads is a number between two bounds or an address, under labels that
are on or off. -/
def gauge (least greatest : Double) : Schema .standard :=
  ((emptyObject.declare "reading" (.combined .anyOf [.number {} least greatest, .uri {}])).declare
    "labels" (.map {} (.boolean {}))).require "reading"

theorem wellFormed_gauge {least greatest : Double} : (gauge least greatest).WellFormed := by
  have hEmpty : (emptyObject : Schema .standard).WellFormed := ⟨List.Pairwise.nil, trivial⟩
  have hReading : (combined .anyOf [.number {} least greatest, .uri {}] :
      Schema .standard).WellFormed :=
    ⟨trivial, trivial, trivial⟩
  have hLabels : (map {} (.boolean {}) : Schema .standard).WellFormed := trivial
  exact ((hEmpty.declare hReading _).declare hLabels _).require _

end Schema
end DataContract
