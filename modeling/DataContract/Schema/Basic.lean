import DataContract.Entries
import DataContract.Number.Binary
import DataContract.Readers
/-!
# Schemas

A schema says which values are valid: numbers between bounds, strings of a length, a
pattern or a format, arrays, dictionaries and objects of values with schemas of their
own, and values that satisfy some of several schemas.

Two schemas are equal when they are of one kind and agree in every part: patterns by their
texts, bounds of numbers as numbers, so that no bound that is not a number equals itself.
-/

namespace DataContract

variable {R : Readers}

/-- A title and a description; an empty text stands for none. -/
structure Annotation where
  title : String := ""
  description : String := ""
deriving DecidableEq, Repr, Inhabited

/-- How many of several schemas a value must satisfy. -/
inductive Combinator where
  | anyOf
  | oneOf
  | allOf
deriving DecidableEq, Repr

/-- A schema.  A length of zero is no bound. -/
inductive Schema (R : Readers) where
  | integer (note : Annotation) (minimum maximum : Int64)
  | number (note : Annotation) (minimum maximum : Double)
  | boolean (note : Annotation)
  | string (note : Annotation) (minLength maxLength : UInt64) (pattern : Option (Pattern R))
  | enumeration (note : Annotation) (options : List String) (nonempty : options ≠ [])
  | uri (note : Annotation)
  | dateTime (note : Annotation)
  | duration (note : Annotation)
  | array (note : Annotation) (items : Schema R) (unique : Bool)
  | map (note : Annotation) (values : Schema R)
  | object (note : Annotation) (properties : List (String × Schema R)) (additional : Bool)
      (required : List String)
  | combined (combinator : Combinator) (branches : List (Schema R))

namespace Combinator

/-- The keyword of a combinator. -/
def keyword : Combinator → String
  | .anyOf => "anyOf"
  | .oneOf => "oneOf"
  | .allOf => "allOf"

end Combinator

namespace Schema

instance : Inhabited (Schema R) := ⟨.boolean {}⟩

/-- The name of the kind of a schema. -/
def kind : Schema R → String
  | .integer .. => "integer"
  | .number .. => "number"
  | .boolean _ => "boolean"
  | .string .. => "string"
  | .enumeration .. => "string enum"
  | .uri _ => "uri"
  | .dateTime _ => "date-time"
  | .duration _ => "duration"
  | .array .. => "array"
  | .map .. => "map"
  | .object .. => "object"
  | .combined c _ => c.keyword

/-- A schema for some strings, of which there must be one. -/
def enumeration? (note : Annotation) (options : List String) : Option (Schema R) :=
  if h : options ≠ [] then some (.enumeration note options h) else none

/-- An object without properties that takes no other names. -/
def emptyObject : Schema R := .object {} [] false []

/-- Set the annotation, where there is one. -/
def annotate (note : Annotation) : Schema R → Schema R
  | .integer _ minimum maximum => .integer note minimum maximum
  | .number _ minimum maximum => .number note minimum maximum
  | .boolean _ => .boolean note
  | .string _ minLength maxLength pattern => .string note minLength maxLength pattern
  | .enumeration _ options nonempty => .enumeration note options nonempty
  | .uri _ => .uri note
  | .dateTime _ => .dateTime note
  | .duration _ => .duration note
  | .array _ items unique => .array note items unique
  | .map _ values => .map note values
  | .object _ properties additional required => .object note properties additional required
  | .combined c branches => .combined c branches

/-- Declare a property of an object; a property of that name is replaced. -/
def declare (s : Schema R) (name : String) (property : Schema R) : Schema R :=
  match s with
  | .object note properties additional required =>
      .object note (Entries.insert name property properties) additional required
  | s => s

/-- Require a name of an object. -/
def require (s : Schema R) (name : String) : Schema R :=
  match s with
  | .object note properties additional required =>
      .object note properties additional (required ++ [name])
  | s => s

/-- Let an object have undeclared names. -/
def allowAdditional : Schema R → Schema R
  | .object note properties _ required => .object note properties true required
  | s => s

mutual

/-- Every object in the schema has its properties in order. -/
def WellFormed : Schema R → Prop
  | .array _ items _ => items.WellFormed
  | .map _ values => values.WellFormed
  | .object _ properties _ _ => Entries.Sorted properties ∧ propertiesWellFormed properties
  | .combined _ branches => branchesWellFormed branches
  | _ => True

/-- Every property is well formed. -/
def propertiesWellFormed : List (String × Schema R) → Prop
  | [] => True
  | (_, s) :: properties => s.WellFormed ∧ propertiesWellFormed properties

/-- Every branch is well formed. -/
def branchesWellFormed : List (Schema R) → Prop
  | [] => True
  | s :: branches => s.WellFormed ∧ branchesWellFormed branches

end

end Schema

namespace Schema

/-- Whether two optional patterns have the same text. -/
def equalPatterns (p q : Option (Pattern R)) : Bool :=
  p.map Pattern.source == q.map Pattern.source

mutual

/-- Whether two schemas are equal. -/
def equal : Schema R → Schema R → Bool
  | .integer n a b, .integer m c d => n == m && a == c && b == d
  | .number n a b, .number m c d => n == m && a.numEq c && b.numEq d
  | .boolean n, .boolean m => n == m
  | .string n a b p, .string m c d q => n == m && a == c && b == d && equalPatterns p q
  | .enumeration n a _, .enumeration m b _ => n == m && a == b
  | .uri n, .uri m => n == m
  | .dateTime n, .dateTime m => n == m
  | .duration n, .duration m => n == m
  | .array n s u, .array m t v => n == m && equal s t && u == v
  | .map n s, .map m t => n == m && equal s t
  | .object n ps a rs, .object m qs b ss =>
      n == m && equalProperties ps qs && a == b && rs == ss
  | .combined c ss, .combined d ts => c == d && equalBranches ss ts
  | _, _ => false

/-- Whether two lists of properties agree in names and schemas. -/
def equalProperties : List (String × Schema R) → List (String × Schema R) → Bool
  | [], [] => true
  | (a, s) :: ps, (b, t) :: qs => a == b && equal s t && equalProperties ps qs
  | _, _ => false

/-- Whether two lists of branches agree, branch by branch. -/
def equalBranches : List (Schema R) → List (Schema R) → Bool
  | [], [] => true
  | s :: ss, t :: ts => equal s t && equalBranches ss ts
  | _, _ => false

end

/-- Equal schemas are of one kind. -/
theorem kind_eq_of_equal {s t : Schema R} (h : s.equal t = true) : s.kind = t.kind := by
  cases s with
  | combined c ss =>
      cases t with
      | combined d ts =>
          rw [equal, Bool.and_eq_true, beq_iff_eq] at h
          rw [kind, kind, h.1]
      | _ => cases h
  | _ => cases t <;> first | rfl | cases h

end Schema

end DataContract
