import DataContract.Json
import DataContract.Schema.Basic
import DataContract.Text
import DataContract.Value
/-!
# Loading schemas

A descriptor is read node by node, and the first fault in it is reported with a pointer
to the node at fault.

* A node with `anyOf`, `oneOf` or `allOf` is a combination of its branches, and nothing
  else in it is looked at.
* Any other node has a `type`, which says what else is looked at.

A pointer leads to a node by names of entries and places of items.  In a token the tilde and
the slash are escaped, so that pointers to different nodes differ.
-/

namespace DataContract

variable {R : Readers}

/-- One step of a pointer. -/
inductive Pointer.Token where
  | name (s : String)
  | place (n : Nat)
deriving DecidableEq, Repr

/-- The steps from the root of a document to a node. -/
abbrev Pointer := List Pointer.Token

namespace Pointer.Token

/-- The escaped form of a character. -/
def escape (c : Char) : List Char :=
  if c = '~' then ['~', '0'] else if c = '/' then ['~', '1'] else [c]

/-- The text of a step. -/
def render : Token → String
  | .name s => String.ofList (s.toList.flatMap escape)
  | .place n => toString n

end Pointer.Token

namespace Pointer

/-- The text of a pointer, from the root on. -/
def render (p : Pointer) : String :=
  "#" ++ String.join (p.map fun token => "/" ++ token.render)

end Pointer

/-- What is wrong with a node of a descriptor. -/
inductive NodeFault where
  | notSchema (kind : String)
  | notString (kind : String)
  | notInt64
  | notNumber
  | notNatural
  | notBoolean
  | notStrings
  | notNames
  | notBranches
  | notProperties
  | noItems
  | noType
  | unknownType (name : String)
  | unknownFormat (name : String)
  | unsupportedType (v : Value)
  | unreadable (reason : String)

/-- Why there is no schema. -/
inductive LoadFault where
  | node (place : Pointer) (fault : NodeFault)
  | emptyEnumeration
  | badPattern (source : String)
  | notJson
  | notYaml
  | unavailable (reason : String)

namespace NodeFault

/-- The words for a fault. -/
def message : NodeFault → String
  | .notSchema kind => "expected a schema object, found " ++ kind
  | .notString kind => "expected a string, found " ++ kind
  | .notInt64 => "expected a 64-bit integer"
  | .notNumber => "expected a number"
  | .notNatural => "expected a non-negative integer"
  | .notBoolean => "expected a boolean"
  | .notStrings => "expected an array of strings"
  | .notNames => "expected an array of names"
  | .notBranches => "expected an array of schemas"
  | .notProperties => "expected an object of schemas"
  | .noItems => "array schema without \"items\""
  | .noType => "missing \"type\""
  | .unknownType name => "unknown type " ++ Literal.encode name
  | .unknownFormat name => "unsupported format " ++ Literal.encode name
  | .unsupportedType v => "unsupported type declaration " ++ Json.compact v
  | .unreadable reason => reason

end NodeFault

namespace LoadFault

/-- The words for a fault. -/
def message : LoadFault → String
  | .node place fault => "invalid descriptor at " ++ place.render ++ ": " ++ fault.message
  | .emptyEnumeration => "string enum must allow at least one value"
  | .badPattern source => "invalid pattern " ++ Literal.encode source
  | .notJson => "invalid JSON descriptor"
  | .notYaml => "invalid YAML descriptor"
  | .unavailable reason => "failed to load descriptor: " ++ reason

end LoadFault

namespace Schema
namespace Loading

/-- The result of loading. -/
abbrev Result (α : Type) := Except LoadFault α

/-- A fault at a node. -/
def fail {α : Type} (place : Pointer) (fault : NodeFault) : Result α :=
  .error (.node place fault)

/-- The node of an entry. -/
def under (place : Pointer) (name : String) : Pointer := place ++ [.name name]

/-- A text, if the field is there. -/
def text? (doc : Entries Value) (place : Pointer) (name : String) : Result (Option String) :=
  match doc.get? name with
  | none => .ok none
  | some (.string s) => .ok (some s)
  | some v => fail (under place name) (.notString v.kind)

/-- The annotation of a node. -/
def noteOf (doc : Entries Value) (place : Pointer) : Result Annotation := do
  let title ← text? doc place "title"
  let description ← text? doc place "description"
  return ⟨title.getD "", description.getD ""⟩

/-- The 64-bit integer of a number without fractional part. -/
def int64? (v : Value) : Option Int64 :=
  v.integral?.bind fun n =>
    if -0x8000000000000000 ≤ n ∧ n < 0x8000000000000000 then some (.ofInt n) else none

/-- A 64-bit integer, or the default. -/
def integerBound (doc : Entries Value) (place : Pointer) (name : String) (default : Int64) :
    Result Int64 :=
  match doc.get? name with
  | none => .ok default
  | some v =>
      match int64? v with
      | some n => .ok n
      | none => fail (under place name) .notInt64

/-- A double, or the default. -/
def numberBound (doc : Entries Value) (place : Pointer) (name : String) (default : Double) :
    Result Double :=
  match doc.get? name with
  | none => .ok default
  | some v =>
      match v.double? with
      | some x => .ok x
      | none => fail (under place name) .notNumber

/-- A length; zero if the field is not there. -/
def lengthBound (doc : Entries Value) (place : Pointer) (name : String) : Result UInt64 :=
  match doc.get? name with
  | none => .ok 0
  | some v =>
      match v.natural? with
      | some n => .ok n
      | none => fail (under place name) .notNatural

/-- A truth value, if the field is there. -/
def boolean? (doc : Entries Value) (place : Pointer) (name : String) : Result Bool :=
  match doc.get? name with
  | none => .ok false
  | some (.bool b) => .ok b
  | some _ => fail (under place name) .notBoolean

/-- The strings of an array. -/
def strings? (v : Value) : Option (List String) := v.items?.bind (·.mapM Value.string?)

variable (R)

/-- The pattern of a text. -/
def pattern (source : String) : Result (Pattern R) :=
  match Pattern.compile? source with
  | some p => .ok p
  | none => .error (.badPattern source)

/-- An integer. -/
def integer (doc : Entries Value) (place : Pointer) (note : Annotation) : Result (Schema R) := do
  let minimum ← integerBound doc place "minimum" .minValue
  let maximum ← integerBound doc place "maximum" .maxValue
  return .integer note minimum maximum

/-- A number. -/
def number (doc : Entries Value) (place : Pointer) (note : Annotation) : Result (Schema R) := do
  let minimum ← numberBound doc place "minimum" .minFinite
  let maximum ← numberBound doc place "maximum" .maxFinite
  return .number note minimum maximum

/-- One of some strings. -/
def enumeration (options : Value) (place : Pointer) (note : Annotation) : Result (Schema R) :=
  match strings? options with
  | none => fail (under place "enum") .notStrings
  | some options =>
      match Schema.enumeration? note options with
      | some s => .ok s
      | none => .error .emptyEnumeration

/-- A string of some lengths and with a pattern. -/
def bareString (doc : Entries Value) (place : Pointer) (note : Annotation) :
    Result (Schema R) := do
  let source ← text? doc place "pattern"
  let p ← source.mapM (pattern R)
  let minLength ← lengthBound doc place "minLength"
  let maxLength ← lengthBound doc place "maxLength"
  return .string note minLength maxLength p

/-- A string: a format is looked at before options, and options before all else. -/
def string (doc : Entries Value) (place : Pointer) (note : Annotation) : Result (Schema R) := do
  match ← text? doc place "format" with
  | some "uri" => return .uri note
  | some "date-time" => return .dateTime note
  | some name => fail (under place "format") (.unknownFormat name)
  | none =>
      match doc.get? "enum" with
      | some options => enumeration R options place note
      | none => bareString R doc place note

/-- The names that an object requires. -/
def required (doc : Entries Value) (place : Pointer) : Result (List String) :=
  match doc.get? "required" with
  | none => .ok []
  | some v =>
      match strings? v with
      | some names => .ok names
      | none => fail (under place "required") .notNames

/-- The combinator of a node and the value under its keyword. -/
def combination? (doc : Entries Value) : Option (Combinator × Value) :=
  [.anyOf, .oneOf, .allOf].findSome? fun c => (doc.get? c.keyword).map fun v => (c, v)

/-- Whether a list of types is that of a duration. -/
def isDurationType : List Value → Bool
  | [.string a, .string b] =>
      (a == "integer" && b == "string") || (a == "string" && b == "integer")
  | _ => false

/-- A node that has no parts. -/
def leaf (doc : Entries Value) (place : Pointer) (note : Annotation) : Result (Schema R) :=
  match doc.get? "type" with
  | some (.string "integer") => integer R doc place note
  | some (.string "number") => number R doc place note
  | some (.string "boolean") => .ok (.boolean note)
  | some (.string "string") => string R doc place note
  | some (.string name) => fail (under place "type") (.unknownType name)
  | some (.array kinds) =>
      if isDurationType kinds then .ok (.duration note)
      else fail (under place "type") (.unsupportedType (.array kinds))
  | some v => fail (under place "type") (.unsupportedType v)
  | none => fail place .noType

theorem sizeOf_get? {doc : Entries Value} {name : String} {v : Value}
    (h : doc.get? name = some v) : sizeOf v < sizeOf doc := by
  induction doc with
  | nil => simp at h
  | cons entry rest ih =>
      obtain ⟨other, w⟩ := entry
      rw [Entries.get?_cons] at h
      split at h
      · cases h
        simp
        omega
      · have := ih h
        simp
        omega

theorem sizeOf_combination? {doc : Entries Value} {c : Combinator} {v : Value}
    (h : combination? doc = some (c, v)) : sizeOf v < sizeOf doc := by
  unfold combination? at h
  obtain ⟨d, _, hd⟩ := List.exists_of_findSome?_eq_some h
  rw [Option.map_eq_some_iff] at hd
  obtain ⟨w, hw, hEq⟩ := hd
  cases hEq
  exact sizeOf_get? hw

mutual

/-- The schema of a node. -/
def node (place : Pointer) : Value → Result (Schema R)
  | .object doc =>
      match _h : combination? doc with
      | some (c, .array items) => do
          return .combined c (← branches (under place c.keyword) 0 items)
      | some (c, _) => fail (under place c.keyword) .notBranches
      | none => do
          let note ← noteOf doc place
          match Entries.get? doc "type" with
          | some (.string "array") =>
              match _h : Entries.get? doc "items" with
              | none => fail place .noItems
              | some items =>
                  let unique ← boolean? doc place "uniqueItems"
                  return .array note (← node (under place "items") items) unique
          | some (.string "object") =>
              match _h : Entries.get? doc "additionalProperties" with
              | none => object doc place note true
              | some (.bool additional) => object doc place note additional
              | some values =>
                  return .map note (← node (under place "additionalProperties") values)
          | _ => leaf R doc place note
  | v => fail place (.notSchema v.kind)
termination_by v => (sizeOf v, 0)
decreasing_by
  all_goals
    first
    | have := sizeOf_combination? _h
      simp_all
      omega
    | have := sizeOf_get? _h
      simp_all
      omega
    | simp_wf
      omega

/-- The schema of an object with declared properties. -/
def object (doc : Entries Value) (place : Pointer) (note : Annotation) (additional : Bool) :
    Result (Schema R) :=
  match _h : doc.get? "properties" with
  | none => do return .object note [] additional (← required doc place)
  | some (.object nodes) => do
      let declared ← properties (under place "properties") nodes
      return .object note declared additional (← required doc place)
  | some _ => fail (under place "properties") .notProperties
termination_by (sizeOf doc, 1)
decreasing_by
  have := sizeOf_get? _h
  simp_all
  omega

/-- The schemas of the branches of a combination. -/
def branches (place : Pointer) (i : Nat) : List Value → Result (List (Schema R))
  | [] => .ok []
  | item :: items => do
      let s ← node (place ++ [.place i]) item
      return s :: (← branches place (i + 1) items)
termination_by items => (sizeOf items, 0)

/-- The schemas of properties, under their names. -/
def properties (place : Pointer) : List (String × Value) → Result (List (String × Schema R))
  | [] => .ok []
  | (name, v) :: nodes => do
      let s ← node (under place name) v
      return (name, s) :: (← properties place nodes)
termination_by nodes => (sizeOf nodes, 0)

end

end Loading

/-- The schema that a descriptor describes. -/
def ofDescriptor (R : Readers) (v : Value) : Except LoadFault (Schema R) := Loading.node R [] v

end Schema

end DataContract
