import DataContract.Duration
import DataContract.Schema.Basic
import DataContract.Value
/-!
# Descriptors

The descriptor of a schema is a document that says the same.  What has its default value
is left out: empty annotations, the widest bounds, lengths of zero, and so on.
-/

namespace DataContract

variable {R : Readers}

namespace Schema

/-- A document of the fields that are present. -/
def document (fields : List (String × Option Value)) : Value :=
  .object (Entries.present fields)

/-- A field that is left out when a condition holds. -/
def omitIf (omitted : Bool) (value : Value) : Option Value :=
  if omitted then none else some value

/-- A text; the empty one is left out. -/
def textField (s : String) : Option Value := omitIf s.isEmpty (.string s)

/-- A length; zero is left out. -/
def lengthField (n : UInt64) : Option Value := omitIf (n == 0) (.ofUInt64 n)

/-- The least 64-bit integer. -/
def leastInteger : Int64 := Int64.minValue

/-- The greatest 64-bit integer. -/
def greatestInteger : Int64 := Int64.maxValue

mutual

/-- The descriptor of a schema. -/
def descriptor : Schema R → Value
  | .integer note minimum maximum =>
      document
        [("description", textField note.description),
          ("maximum", omitIf (maximum == greatestInteger) (.ofInt64 maximum)),
          ("minimum", omitIf (minimum == leastInteger) (.ofInt64 minimum)),
          ("title", textField note.title),
          ("type", some (.string "integer"))]
  | .number note minimum maximum =>
      document
        [("description", textField note.description),
          ("maximum", omitIf (maximum.numEq .maxFinite) (.ofDouble maximum)),
          ("minimum", omitIf (minimum.numEq .minFinite) (.ofDouble minimum)),
          ("title", textField note.title),
          ("type", some (.string "number"))]
  | .boolean note =>
      document
        [("description", textField note.description),
          ("title", textField note.title),
          ("type", some (.string "boolean"))]
  | .string note minLength maxLength pattern =>
      document
        [("description", textField note.description),
          ("maxLength", lengthField maxLength),
          ("minLength", lengthField minLength),
          ("pattern", pattern.map fun p => .string p.source),
          ("title", textField note.title),
          ("type", some (.string "string"))]
  | .enumeration note options _ =>
      document
        [("description", textField note.description),
          ("enum", some (.ofStrings options)),
          ("title", textField note.title),
          ("type", some (.string "string"))]
  | .uri note =>
      document
        [("description", textField note.description),
          ("format", some (.string "uri")),
          ("title", textField note.title),
          ("type", some (.string "string"))]
  | .dateTime note =>
      document
        [("description", textField note.description),
          ("format", some (.string "date-time")),
          ("title", textField note.title),
          ("type", some (.string "string"))]
  | .duration note =>
      document
        [("description", textField note.description),
          ("pattern", some (.string Duration.patternText)),
          ("title", textField note.title),
          ("type", some (.ofStrings ["integer", "string"]))]
  | .array note items unique =>
      document
        [("description", textField note.description),
          ("items", some items.descriptor),
          ("title", textField note.title),
          ("type", some (.string "array")),
          ("uniqueItems", omitIf (!unique) (.bool true))]
  | .map note values =>
      document
        [("additionalProperties", some values.descriptor),
          ("description", textField note.description),
          ("title", textField note.title),
          ("type", some (.string "object"))]
  | .object note properties additional required =>
      document
        [("additionalProperties", omitIf additional (.bool false)),
          ("description", textField note.description),
          ("properties", omitIf properties.isEmpty (.object (propertyDescriptors properties))),
          ("required", omitIf required.isEmpty (.ofStrings required)),
          ("title", textField note.title),
          ("type", some (.string "object"))]
  | .combined c branches =>
      document [(c.keyword, some (.array (branchDescriptors branches)))]

/-- The descriptors of properties, under their names. -/
def propertyDescriptors : List (String × Schema R) → List (String × Value)
  | [] => []
  | (name, s) :: properties => (name, s.descriptor) :: propertyDescriptors properties

/-- The descriptors of branches. -/
def branchDescriptors : List (Schema R) → List Value
  | [] => []
  | s :: branches => s.descriptor :: branchDescriptors branches

end

end Schema
end DataContract
