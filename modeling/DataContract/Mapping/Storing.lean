import DataContract.Mapping.Fit
import DataContract.Target.Filling
/-!
# Putting values into storage

A valid value is put into the slot of storage that fits its schema.  Containers are
replaced as a whole once all their parts are filled; the fields of a record are written
one after the other.
-/

namespace DataContract

variable {R : Readers}

/-- Why a value was not put into storage. -/
inductive MapFault where
  | invalid (report : Report)
  | mismatch (m : Mismatch)

namespace MapFault

/-- The fault as seen from one step above. -/
def under (segment : Segment) : MapFault → MapFault
  | .invalid report => .invalid (report.under segment)
  | .mismatch m => .mismatch m

/-- The value itself is at fault. -/
def ofCause (cause : Cause) : MapFault := .invalid (.single cause)

end MapFault

namespace Schema

/-- What came of an attempt to put a value into storage. -/
abbrev Stored := Except MapFault Unit × Content

/-- A content that may be missing, to replace what was there. -/
def put (old : Content) (cause : Cause) : Option Content → Stored
  | some c => (.ok (), c)
  | none => (.error (.ofCause cause), old)

/-- The result of a look as that of an attempt. -/
def ofLook : Except Mismatch Unit × Content → Stored
  | (.ok (), c) => (.ok (), c)
  | (.error m, c) => (.error (.mismatch m), c)

/-- Put a value without parts into a slot. -/
def storeLeaf (s : Schema R) (v : Value) (shape : Shape) (c : Content) : Stored :=
  if fitsLeaf s shape then
    match s, shape with
    | .integer .., .int f =>
        match v.integral? with
        | none => (.error (.ofCause .notInteger), c)
        | some n =>
            if f.holds n then (.ok (), .int n) else (.error (.mismatch (mismatch s shape)), c)
    | .number .., .float f => put c .notNumber (v.double?.map fun x => .float (f.store x))
    | .boolean _, .bool => put c .notBoolean (v.bool?.map .bool)
    | .uri _, .uri => put c .notUri ((v.string?.bind fun s => (R.uri s).toOption).map .uri)
    | .uri _, .optionalUri =>
        put c .notUri ((v.string?.bind fun s => (R.uri s).toOption).map
          fun u => .optionalUri (some u))
    | .dateTime _, .zonedMoment =>
        put c .notTimestamp ((v.string?.bind fun s => (R.timestamp s).toOption).map
          .zonedMoment)
    | .dateTime _, .moment =>
        put c .notTimestamp ((v.string?.bind fun s => (R.timestamp s).toOption).map
          fun t => .moment t.moment)
    | .duration _, .duration =>
        match durationOf v with
        | .ok d => (.ok (), .duration d)
        | .error cause => (.error (.ofCause cause), c)
    | _, _ => put c .notString (v.string?.map .text)
  else (.error (.mismatch (mismatch s shape)), c)

/-- The content of a part, once a value is put into its slot. -/
def storePart (types : Catalog) (store : Shape → Content → Stored) (element : Shape)
    (c : Content) : Except MapFault Content :=
  match Content.throughSlot types store element c with
  | (.ok (), c) => .ok c
  | (.error fault, _) => .error fault

/-- Put an item into a part of a sequence. -/
def storeItem (types : Catalog) (store : Value → Shape → Content → Stored)
    (element : Shape) (items : List Value) (place : Nat) (c : Content) :
    Except MapFault Content :=
  match items[place]? with
  | some item => (storePart types (store item) element c).mapError (.under (.index place))
  | none => .ok c

/-- Put the entry of a name into a part of a dictionary. -/
def storeEntry (types : Catalog) (store : Value → Shape → Content → Stored)
    (element : Shape) (entries : Entries Value) (name : String) (c : Content) :
    Except MapFault Content :=
  match entries.get? name with
  | some v => (storePart types (store v) element c).mapError (.under (.key name))
  | none => .error (.ofCause .missingEntry)

/-- The look at a scratch part that an empty container is due. -/
def probeEmpty (isEmpty : Bool) (look : Except Mismatch Unit) : Except Mismatch Unit :=
  if isEmpty then look else .ok ()

mutual

/-- Put a value into a slot. -/
def store (types : Catalog) : Schema R → Value → Shape → Content → Stored
  | _, v, .any, _ => (.ok (), .any v)
  | .array note items unique, v, shape, c =>
      match shape with
      | .sequence element =>
          match v.items? with
          | none => (.error (.ofCause .notArray), c)
          | some vs =>
              match probeEmpty vs.isEmpty (probe types (check types items) element) with
              | .error m => (.error (.mismatch m), c)
              | .ok () =>
                  Content.refillItems types element vs.length
                    (storeItem types (store types items) element vs) c
      | shape => (.error (.mismatch (mismatch (.array note items unique) shape)), c)
  | .map note values, v, shape, c =>
      match shape with
      | .dictionary suffix element =>
          match v.entries? with
          | none => (.error (.ofCause .notObject), c)
          | some entries =>
              match probeEmpty entries.isEmpty (probe types (check types values) element) with
              | .error m => (.error (.mismatch m), c)
              | .ok () =>
                  Content.refillEntries types suffix element entries.names
                    (storeEntry types (store types values) element entries) c
      | shape => (.error (.mismatch (mismatch (.map note values) shape)), c)
  | .object note properties additional required, v, shape, c =>
      match check types (.object note properties additional required) shape c with
      | (.error m, c) => (.error (.mismatch m), c)
      | (.ok (), c) =>
          match v.entries? with
          | none => (.error (.ofCause .notObject), c)
          | some data =>
              match shape with
              | .record name =>
                  let (result, fields) :=
                    storeProperties types properties data (types.find name) c.fields
                  (result, .record fields)
              | _ => (.ok (), c)
  | .combined combinator branches, _, shape, c =>
      ofLook (check types (.combined combinator branches) shape c)
  | s, v, shape, c => storeLeaf s v shape c

/-- Put the properties that are present into their fields, in the order of names. -/
def storeProperties (types : Catalog) :
    List (String × Schema R) → Entries Value → RecordType → Entries Content →
      Except MapFault Unit × Entries Content
  | [], _, _, fields => (.ok (), fields)
  | (name, s) :: properties, data, t, fields =>
      match data.get? name, t.field? name with
      | some v, some f =>
          let (result, c) :=
            Content.throughSlot types (store types s v) f.shape (.ofField f fields)
          let fields := fields.insert f.name c
          match result with
          | .ok () => storeProperties types properties data t fields
          | .error fault => (.error (fault.under (.key name)), fields)
      | _, _ => storeProperties types properties data t fields

end

/-- Validate a value, check that storage fits, and put the value into it. -/
def mapInto (types : Catalog) (s : Schema R) (v : Value) (shape : Shape) (c : Content) :
    Stored :=
  match s.validate v with
  | .error report => (.error (.invalid report), c)
  | .ok () =>
      match Content.inspected types (check types s) shape c with
      | (.error m, c) => (.error (.mismatch m), c)
      | (.ok (), c) => Content.throughSlot types (store types s v) shape c

end Schema
end DataContract
