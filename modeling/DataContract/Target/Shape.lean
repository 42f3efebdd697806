import DataContract.Number.Binary
/-!
# Shapes

The shape of storage says what can be kept in it: a machine number, a text, a point in
time, any value at all, a sequence or a dictionary of parts, or a record with named
fields.
-/

namespace DataContract

/-- The formats of machine integers. -/
inductive IntFormat where
  | int8 | int16 | int32 | int64
  | uint8 | uint16 | uint32 | uint64
deriving DecidableEq, Repr, Inhabited

/-- The formats of machine floating-point numbers. -/
inductive FloatFormat where
  | single
  | double
deriving DecidableEq, Repr, Inhabited

/-- What can be kept in storage. -/
inductive Shape where
  | int (format : IntFormat)
  | float (format : FloatFormat)
  | bool
  | text
  | uri
  | optionalUri
  | zonedMoment
  | moment
  | duration
  /-- Any decoded value. -/
  | any
  | optional (inner : Shape)
  | sequence (element : Shape)
  /-- Entries are asked for by their names with a suffix, which is mostly empty. -/
  | dictionary (suffix : String) (element : Shape)
  /-- Storage that looks like any value until something is put in. -/
  | veiled (inner : Shape)
  | record (name : String)
deriving DecidableEq, Repr, Inhabited

namespace IntFormat

/-- The name of a format. -/
def name : IntFormat → String
  | .int8 => "i8"
  | .int16 => "i16"
  | .int32 => "i32"
  | .int64 => "i64"
  | .uint8 => "u8"
  | .uint16 => "u16"
  | .uint32 => "u32"
  | .uint64 => "u64"

/-- The least integer of a format. -/
def least : IntFormat → Int
  | .int8 => -0x80
  | .int16 => -0x8000
  | .int32 => -0x80000000
  | .int64 => -0x8000000000000000
  | _ => 0

/-- The greatest integer of a format. -/
def greatest : IntFormat → Int
  | .int8 => 0x7f
  | .int16 => 0x7fff
  | .int32 => 0x7fffffff
  | .int64 => 0x7fffffffffffffff
  | .uint8 => 0xff
  | .uint16 => 0xffff
  | .uint32 => 0xffffffff
  | .uint64 => 0xffffffffffffffff

/-- Whether a format has an integer. -/
def holds (f : IntFormat) (n : Int) : Bool := f.least ≤ n && n ≤ f.greatest

end IntFormat

namespace FloatFormat

/-- The name of a format. -/
def name : FloatFormat → String
  | .single => "f32"
  | .double => "f64"

/-- The least finite number of a format. -/
def least : FloatFormat → Double
  | .single => .minSingle
  | .double => .minFinite

/-- The greatest finite number of a format. -/
def greatest : FloatFormat → Double
  | .single => .maxSingle
  | .double => .maxFinite

/-- The number of a format nearest to a double. -/
def store : FloatFormat → Double → Double
  | .single, x => x.toSingle
  | .double, x => x

end FloatFormat

namespace Shape

/-- The name of the kind of storage. -/
def name : Shape → String
  | .int f => f.name
  | .float f => f.name
  | .bool => "bool"
  | .text => "String"
  | .uri | .optionalUri => "Url"
  | .zonedMoment => "DateTime<FixedOffset>"
  | .moment => "DateTime<Utc>"
  | .duration => "Duration"
  | .any => "Value"
  | .optional inner => inner.name
  | .sequence _ => "sequence"
  | .dictionary .. => "dictionary"
  | .veiled inner => inner.name
  | .record _ => "record"

/-- The shape that a value is put into. -/
def slot : Shape → Shape
  | .optional inner => inner.slot
  | .veiled inner => inner.slot
  | s => s

/-- The shape that a check made ahead gets to see. -/
def seen : Shape → Shape
  | .optional inner => inner.seen
  | .veiled _ => .any
  | s => s

end Shape
end DataContract
