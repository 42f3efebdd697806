import DataContract.Proofs.Entries
import DataContract.Schema.Basic
/-!
# Induction on schemas

A schema is a leaf, or it has schemas of parts: one for the items of an array or the
values of a map, one for each property of an object, one for each branch of a
combination.  What holds of a schema whenever it holds of those holds of every schema.
Well-formedness is such a property, and building an object keeps it.
-/

namespace DataContract

variable {R : Readers}

namespace Schema

/-- A schema without schemas of parts. -/
def IsLeaf : Schema R → Prop
  | .array .. | .map .. | .object .. | .combined .. => False
  | _ => True

theorem sizeOf_lt_of_mem_properties {note : Annotation} {properties : List (String × Schema R)}
    {additional : Bool} {required : List String} {property : String × Schema R}
    (h : property ∈ properties) :
    sizeOf property.2 < sizeOf (object note properties additional required) := by
  have hProperty : sizeOf property < sizeOf properties := List.sizeOf_lt_of_mem h
  have hPair : sizeOf property = 1 + sizeOf property.1 + sizeOf property.2 := rfl
  simp only [object.sizeOf_spec]
  omega

theorem sizeOf_lt_of_mem_branches {c : Combinator} {branches : List (Schema R)} {s : Schema R}
    (h : s ∈ branches) :
    sizeOf s < sizeOf (combined c branches) := by
  have hBranch : sizeOf s < sizeOf branches := List.sizeOf_lt_of_mem h
  simp only [combined.sizeOf_spec]
  omega

/-- Induction over leaves and the four kinds with parts, with a hypothesis for every part. -/
@[elab_as_elim]
theorem inductionOnParts {motive : Schema R → Prop}
    (leaf : ∀ s, s.IsLeaf → motive s)
    (array : ∀ note items unique, motive items → motive (.array note items unique))
    (map : ∀ note values, motive values → motive (.map note values))
    (object : ∀ note properties additional required,
      (∀ property ∈ properties, motive property.2) →
        motive (.object note properties additional required))
    (combined : ∀ c branches, (∀ branch ∈ branches, motive branch) →
      motive (.combined c branches)) :
    ∀ s, motive s
  | .integer .. => leaf _ trivial
  | .number .. => leaf _ trivial
  | .boolean _ => leaf _ trivial
  | .string .. => leaf _ trivial
  | .enumeration .. => leaf _ trivial
  | .uri _ => leaf _ trivial
  | .dateTime _ => leaf _ trivial
  | .duration _ => leaf _ trivial
  | .array note items unique =>
      array note items unique (inductionOnParts leaf array map object combined items)
  | .map note values =>
      map note values (inductionOnParts leaf array map object combined values)
  | .object note properties additional required =>
      object note properties additional required fun property _hProperty =>
        inductionOnParts leaf array map object combined property.2
  | .combined c branches =>
      combined c branches fun branch _hBranch =>
        inductionOnParts leaf array map object combined branch
  termination_by s => sizeOf s
  decreasing_by
    · simp only [Schema.array.sizeOf_spec]
      omega
    · simp only [Schema.map.sizeOf_spec]
      omega
    · exact sizeOf_lt_of_mem_properties _hProperty
    · exact sizeOf_lt_of_mem_branches _hBranch

theorem propertiesWellFormed_iff {properties : List (String × Schema R)} :
    propertiesWellFormed properties ↔ ∀ property ∈ properties, property.2.WellFormed := by
  induction properties with
  | nil => simp [propertiesWellFormed]
  | cons property properties ih => rw [propertiesWellFormed, ih, List.forall_mem_cons]

theorem branchesWellFormed_iff {branches : List (Schema R)} :
    branchesWellFormed branches ↔ ∀ branch ∈ branches, branch.WellFormed := by
  induction branches with
  | nil => simp [branchesWellFormed]
  | cons branch branches ih => rw [branchesWellFormed, ih, List.forall_mem_cons]

/-- A declaration keeps the properties in order. -/
theorem WellFormed.declare {s property : Schema R} (h : s.WellFormed)
    (hProperty : property.WellFormed) (name : String) :
    (s.declare name property).WellFormed := by
  cases s with
  | object note properties additional required =>
      have hSorted : Entries.Sorted (Entries.insert name property properties) :=
        h.1.insert name property
      refine ⟨hSorted, propertiesWellFormed_iff.mpr fun entry hEntry => ?_⟩
      have hGet := hSorted.get?_of_mem hEntry
      rw [Entries.get?_insert] at hGet
      split at hGet
      · rw [← Option.some.inj hGet]
        exact hProperty
      · exact propertiesWellFormed_iff.mp h.2 entry (Entries.mem_of_get? hGet)
  | _ => exact h

theorem WellFormed.require {s : Schema R} (h : s.WellFormed) (name : String) :
    (s.require name).WellFormed := by
  cases s <;> exact h

theorem WellFormed.allowAdditional {s : Schema R} (h : s.WellFormed) :
    s.allowAdditional.WellFormed := by
  cases s <;> exact h

theorem WellFormed.annotate {s : Schema R} (h : s.WellFormed) (note : Annotation) :
    (s.annotate note).WellFormed := by
  cases s <;> exact h

end Schema
end DataContract
