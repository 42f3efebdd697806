import DataContract.Proofs.Number.Exact
import DataContract.Proofs.Schema.Induction
import DataContract.Schema.Validation
import Mathlib.Data.Set.Basic
/-!
# The set of values of a schema

A schema stands for a set of values, which is given by recursion on the schema and says
nothing of issues.  Bounds are compared with exact values, and a combination counts the
branches whose sets have the value.
-/

namespace DataContract

variable {R : Readers}

namespace Schema

/-- The numbers whose exact value is an integer between two bounds. -/
def integerSet (lo hi : Int) : Set Value :=
  {v | ∃ (m : Number) (n : Int), v = .number m ∧ m.value = n ∧ lo ≤ n ∧ n ≤ hi}

/-- The strings with a property. -/
def stringSet (P : String → Prop) : Set Value :=
  {v | ∃ s, v = .string s ∧ P s}

/-- The strings of a length that have a pattern; a length of zero is no bound. -/
def textSet (minLength maxLength : UInt64) (pattern : Option (Pattern R)) : Set Value :=
  stringSet fun s =>
    (minLength ≠ 0 → minLength.toNat ≤ s.length) ∧
      (maxLength ≠ 0 → s.length ≤ maxLength.toNat) ∧
      ∀ p, pattern = some p → p.isMatch s = true

/-- No two places hold the same content. -/
def Distinct (items : List Value) : Prop :=
  ∀ i j (hij : i < j) (hj : j < items.length), items[i].same items[j] = false

/-- The values of a schema. -/
def valueSet : Schema R → Set Value
  | .integer _ minimum maximum => integerSet minimum.toInt maximum.toInt
  | .number _ minimum maximum =>
      {v | ∃ m : Number, v = .number m ∧ ¬ m.toDouble.Below minimum ∧ ¬ maximum.Below m.toDouble}
  | .boolean _ => {v | ∃ b, v = .bool b}
  | .string _ minLength maxLength pattern => textSet minLength maxLength pattern
  | .enumeration _ options _ => stringSet fun s => s ∈ options
  | .uri _ => stringSet fun s => ∃ u, R.uri s = .ok u
  | .dateTime _ => stringSet fun s => ∃ t, R.timestamp s = .ok t
  | .duration _ =>
      stringSet (fun s => ∃ d, Duration.read s = .ok d) ∪
        integerSet (-(Duration.maxSeconds : Int)) Duration.maxSeconds
  | .array _ items unique =>
      {v | ∃ vs, v = .array vs ∧ (∀ w ∈ vs, w ∈ items.valueSet) ∧
        (unique = true → Distinct vs)}
  | .map _ values =>
      {v | ∃ entries, v = .object entries ∧ ∀ entry ∈ entries, entry.2 ∈ values.valueSet}
  | .object _ properties additional required =>
      {v | ∃ data, v = .object data ∧
        (∀ property : { p // p ∈ properties }, ∀ w,
          Entries.get? data property.val.1 = some w → w ∈ property.val.2.valueSet) ∧
        (additional = false →
          ∀ name ∈ Entries.names data, name ∈ Entries.names properties) ∧
        ∀ name ∈ required, name ∈ Entries.names data}
  | .combined .anyOf branches => {v | ∃ s : { s // s ∈ branches }, v ∈ s.val.valueSet}
  | .combined .oneOf branches => {v | ∃! i : Fin branches.length, v ∈ branches[i].valueSet}
  | .combined .allOf branches => {v | ∀ s : { s // s ∈ branches }, v ∈ s.val.valueSet}
  termination_by s => sizeOf s
  decreasing_by
    · simp only [Schema.array.sizeOf_spec]
      omega
    · simp only [Schema.map.sizeOf_spec]
      omega
    · exact sizeOf_lt_of_mem_properties property.property
    · exact sizeOf_lt_of_mem_branches s.property
    · exact sizeOf_lt_of_mem_branches (List.getElem_mem i.isLt)
    · exact sizeOf_lt_of_mem_branches s.property

section Members

variable {v : Value}

theorem mem_valueSet_array {note : Annotation} {items : Schema R} {unique : Bool} :
    v ∈ (array note items unique).valueSet ↔
      ∃ vs, v = .array vs ∧ (∀ w ∈ vs, w ∈ items.valueSet) ∧ (unique = true → Distinct vs) := by
  rw [valueSet, Set.mem_ofPred_eq]

theorem mem_valueSet_map {note : Annotation} {values : Schema R} :
    v ∈ (map note values).valueSet ↔
      ∃ entries, v = .object entries ∧ ∀ entry ∈ entries, entry.2 ∈ values.valueSet := by
  rw [valueSet, Set.mem_ofPred_eq]

theorem mem_valueSet_object {note : Annotation} {properties : List (String × Schema R)}
    {additional : Bool} {required : List String} :
    v ∈ (object note properties additional required).valueSet ↔
      ∃ data, v = .object data ∧
        (∀ property ∈ properties, ∀ w,
          Entries.get? data property.1 = some w → w ∈ property.2.valueSet) ∧
        (additional = false →
          ∀ name ∈ Entries.names data, name ∈ Entries.names properties) ∧
        ∀ name ∈ required, name ∈ Entries.names data := by
  rw [valueSet, Set.mem_ofPred_eq]
  simp only [Subtype.forall]

variable {branches : List (Schema R)}

theorem mem_valueSet_anyOf :
    v ∈ (combined .anyOf branches).valueSet ↔ ∃ s ∈ branches, v ∈ s.valueSet := by
  rw [valueSet, Set.mem_ofPred_eq]
  simp only [Subtype.exists, exists_prop]

theorem mem_valueSet_oneOf :
    v ∈ (combined .oneOf branches).valueSet ↔
      ∃! i : Fin branches.length, v ∈ branches[i].valueSet := by
  rw [valueSet, Set.mem_ofPred_eq]

theorem mem_valueSet_allOf :
    v ∈ (combined .allOf branches).valueSet ↔ ∀ s ∈ branches, v ∈ s.valueSet := by
  rw [valueSet, Set.mem_ofPred_eq]
  simp only [Subtype.forall]

end Members

end Schema
end DataContract
