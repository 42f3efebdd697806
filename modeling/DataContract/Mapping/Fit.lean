import DataContract.Schema.Validation
import DataContract.Target.Content
import DataContract.Text
/-!
# Whether storage fits a schema

Storage fits a schema when it can hold every value that the schema accepts.  This is
decided before a value is put in, by a look at the slots: machine numbers by their
ranges, containers by a scratch part, records by their tables and fields.
-/

namespace DataContract

variable {R : Readers}

/-- A schema and storage that does not fit it, by their names. -/
structure Mismatch where
  schema : String
  target : String
deriving DecidableEq, Repr

namespace Mismatch

/-- The words for a mismatch. -/
def message (m : Mismatch) : String :=
  "type mismatch: " ++ m.schema ++ " schema cannot be mapped into " ++ m.target

end Mismatch

namespace Schema

/-- The name of a schema in a mismatch; numbers are shown with their bounds. -/
def label : Schema R → String
  | .integer _ minimum maximum =>
      "integer[" ++ toString minimum.toInt ++ ", " ++ toString maximum.toInt ++ "]"
  | .number _ minimum maximum => "number[" ++ minimum.text ++ ", " ++ maximum.text ++ "]"
  | s => s.kind

/-- A schema does not fit a shape. -/
def mismatch (s : Schema R) (shape : Shape) : Mismatch := ⟨s.label, shape.name⟩

/-- A record has no entry in its table for a name. -/
def nameMismatch (name : String) : Mismatch :=
  ⟨"object property " ++ Literal.encode name, "record"⟩

/-- Whether a format has every integer between two bounds. -/
def fitsInt (minimum maximum : Int64) (f : IntFormat) : Bool :=
  f.least ≤ minimum.toInt && maximum.toInt ≤ f.greatest

/-- Whether two bounds lie in the finite range of a format. -/
def fitsFloat (minimum maximum : Double) (f : FloatFormat) : Bool :=
  f.least.le minimum && maximum.le f.greatest

/-- The first name of an object that a record has no entry for. -/
def unboundName? (properties : List (String × Schema R)) (required : List String)
    (t : RecordType) : Option String :=
  (Entries.names properties ++ required).find? fun name => !t.names.contains name

/-- Whether a schema without parts fits a shape. -/
def fitsLeaf : Schema R → Shape → Bool
  | .integer _ minimum maximum, .int f => fitsInt minimum maximum f
  | .number _ minimum maximum, .float f => fitsFloat minimum maximum f
  | .boolean _, .bool => true
  | .string .., .text => true
  | .enumeration .., .text => true
  | .uri _, .uri => true
  | .uri _, .optionalUri => true
  | .uri _, .text => true
  | .dateTime _, .zonedMoment => true
  | .dateTime _, .moment => true
  | .dateTime _, .text => true
  | .duration _, .duration => true
  | _, _ => false

/-- A look at a scratch part of a container. -/
def probe (types : Catalog) (look : Shape → Content → Except Mismatch Unit × Content)
    (element : Shape) : Except Mismatch Unit :=
  (Content.throughSlot types look element (.fresh types element)).1

mutual

/-- Look at a slot: whether it fits, and its content after the look. -/
def check (types : Catalog) : Schema R → Shape → Content → Except Mismatch Unit × Content
  | _, .any, c => (.ok (), c)
  | .array note items unique, shape, c =>
      match shape with
      | .sequence element => (probe types (check types items) element, c)
      | shape => (.error (mismatch (.array note items unique) shape), c)
  | .map note values, shape, c =>
      match shape with
      | .dictionary _ element => (probe types (check types values) element, c)
      | shape => (.error (mismatch (.map note values) shape), c)
  | .object note properties additional required, shape, c =>
      match shape with
      | .record name =>
          let t := types.find name
          match unboundName? properties required t with
          | some name => (.error (nameMismatch name), c)
          | none =>
              let (result, fields) := checkProperties types properties t c.fields
              (result, .record fields)
      | shape => (.error (mismatch (.object note properties additional required) shape), c)
  | s, shape, c => (if fitsLeaf s shape then .ok () else .error (mismatch s shape), c)

/-- Look at the fields of properties, in the order of names. -/
def checkProperties (types : Catalog) :
    List (String × Schema R) → RecordType → Entries Content →
      Except Mismatch Unit × Entries Content
  | [], _, fields => (.ok (), fields)
  | (name, s) :: properties, t, fields =>
      match t.field? name with
      | none => checkProperties types properties t fields
      | some f =>
          let (result, c) := Content.inspected types (check types s) f.shape (.ofField f fields)
          let fields := fields.insert f.name c
          match result with
          | .ok () => checkProperties types properties t fields
          | .error m => (.error m, fields)

end

end Schema
end DataContract
