import DataContract.Duration
import DataContract.Entries
import DataContract.Target.Shape
import DataContract.Readers
import DataContract.Value
/-!
# Contents

What storage of a shape holds.  Records are described in a catalog: the fields with
their shapes and first contents, and the table that leads from names of properties to
fields.  Several names may lead to one field, and a name may lead nowhere.

A value is put into the slot of storage: the storage itself, or what is inside when it
is optional or veiled.  To open a slot makes what is optional present.  A check made
ahead looks at the slot without opening it, on scratch storage where nothing is present.
-/

namespace DataContract

/-- What storage holds. -/
inductive Content where
  | int (n : Int)
  | float (x : Double)
  | bool (b : Bool)
  | text (s : String)
  | uri (u : Uri)
  | optionalUri (u : Option Uri)
  | zonedMoment (t : ZonedMoment)
  | moment (t : Moment)
  | duration (d : Duration)
  | any (v : Value)
  | optional (c : Option Content)
  | sequence (items : List Content)
  | dictionary (entries : List (String × Content))
  | record (fields : List (String × Content))

/-- A field of a record. -/
structure Field where
  name : String
  shape : Shape
  initial : Content

/-- A kind of records. -/
structure RecordType where
  fields : List Field
  table : List (String × Option String)

/-- The kinds of records, by name. -/
abbrev Catalog := List (String × RecordType)

namespace RecordType

/-- A record without fields. -/
def empty : RecordType := ⟨[], []⟩

/-- The names of properties that the table lists. -/
def names (t : RecordType) : List String := t.table.map Prod.fst

/-- The field that a name of a property leads to. -/
def field? (t : RecordType) (property : String) : Option Field :=
  (t.table.lookup property).join.bind fun name => t.fields.find? fun f => f.name == name

/-- The first content of a record. -/
def initial (t : RecordType) : Content :=
  .record (Entries.ofList (t.fields.map fun f => (f.name, f.initial)))

end RecordType

namespace Catalog

/-- The kind of records of a name. -/
def find (types : Catalog) (name : String) : RecordType := (types.lookup name).getD .empty

end Catalog

namespace Content

instance : Inhabited Content := ⟨.any .null⟩

/-- The fields, if the content is that of a record. -/
def fields : Content → Entries Content
  | .record fields => fields
  | _ => []

/-- The content of a field. -/
def ofField (f : Field) (fields : Entries Content) : Content :=
  (fields.get? f.name).getD f.initial

/-- The address in storage that has never been written. -/
def blankUri : Uri := ⟨"about:blank"⟩

/-- The content of new storage. -/
def fresh (types : Catalog) : Shape → Content
  | .int _ => .int 0
  | .float _ => .float (.finite (.zero false))
  | .bool => .bool false
  | .text => .text ""
  | .uri => .uri blankUri
  | .optionalUri => .optionalUri none
  | .zonedMoment => .zonedMoment ⟨⟨0, 0⟩, 0⟩
  | .moment => .moment ⟨0, 0⟩
  | .duration => .duration .zero
  | .any => .any .null
  | .optional _ => .optional none
  | .sequence _ => .sequence []
  | .dictionary .. => .dictionary []
  | .veiled inner => fresh types inner
  | .record name => (types.find name).initial

end Content

namespace Content

/-- The content of the slot. -/
def opened (types : Catalog) : Shape → Content → Content
  | .optional inner, .optional (some c) => opened types inner c
  | .optional inner, _ => opened types inner (fresh types inner)
  | .veiled inner, c => opened types inner c
  | _, c => c

/-- The content of storage whose slot has a content. -/
def closed : Shape → Content → Content
  | .optional inner, c => .optional (some (closed inner c))
  | .veiled inner, c => closed inner c
  | _, c => c

/-- Open a slot, use it and close it. -/
def throughSlot {α : Type} (types : Catalog) (use : Shape → Content → α × Content)
    (shape : Shape) (c : Content) : α × Content :=
  let (result, inside) := use shape.slot (opened types shape c)
  (result, closed shape inside)

/-- Look at a slot.  What the look does to scratch storage is forgotten. -/
def inspected {α : Type} (types : Catalog) (look : Shape → Content → α × Content) :
    Shape → Content → α × Content
  | .optional inner, .optional (some c) =>
      let (result, c) := inspected types look inner c
      (result, .optional (some c))
  | .optional inner, c => ((inspected types look inner (fresh types inner)).1, c)
  | .veiled _, c => ((look .any (.any .null)).1, c)
  | shape, c => look shape c

end Content

end DataContract
