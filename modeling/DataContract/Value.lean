import DataContract.Entries
import DataContract.Number.Decimal
/-!
# Decoded values

A value is null, a truth value, a number, a string, an array or an object whose
entries stand in the order of their names.  A number keeps the way it was written: a
whole literal in the range of 64-bit integers, or a finite double.

Two values are the same when they have the same content: numbers by their exact
value, arrays item by item, objects entry by entry whatever the order of entries.
-/

namespace DataContract

/-- A number as it was written. -/
inductive Number where
  | whole (n : Int) (inRange : -0x8000000000000000 ≤ n ∧ n < 0x10000000000000000)
  | real (x : FiniteDouble)
deriving DecidableEq

/-- A decoded value. -/
inductive Value where
  | null
  | bool (b : Bool)
  | number (n : Number)
  | string (s : String)
  | array (items : List Value)
  | object (entries : List (String × Value))

namespace Number

/-- A natural below `2 ^ 64` as a whole literal. -/
def ofUInt64 (n : UInt64) : Number :=
  .whole n.toNat (by have := n.toNat_lt; omega)

/-- A 64-bit integer as a whole literal. -/
def ofInt64 (n : Int64) : Number :=
  .whole n.toInt (by have := n.le_toInt; have := n.toInt_lt; omega)

/-- The whole literal of an integer in the range of literals. -/
def ofInt? (n : Int) : Option Number :=
  if h : -0x8000000000000000 ≤ n ∧ n < 0x10000000000000000 then some (.whole n h) else none

/-- The double nearest to the number. -/
def toDouble : Number → Double
  | .whole n _ => .ofInt n
  | .real x => .finite x

/-- The integer `n`, or the end of the signed 128-bit range on its side. -/
def clamp (n : Int) : Int :=
  if 0x7fffffffffffffffffffffffffffffff < n then 0x7fffffffffffffffffffffffffffffff
  else if n < -0x80000000000000000000000000000000 then -0x80000000000000000000000000000000
  else n

/-- The value of a number without fractional part, clamped to the signed 128-bit range. -/
def integral? : Number → Option Int
  | .whole n _ => some n
  | .real x => x.whole?.map clamp

/-- The exact value of a number without fractional part, if it is of magnitude less
than `2 ^ 127`. -/
def exactInteger? : Number → Option Int
  | .whole n _ => some n
  | .real x => x.whole?.filter fun n => decide (n.natAbs < 0x80000000000000000000000000000000)

/-- Two numbers are the same when their exact values are, however they are written. -/
def sameValue (a b : Number) : Bool :=
  match a.exactInteger?, b.exactInteger? with
  | some m, some n => m == n
  | none, none => a.toDouble.numEq b.toDouble
  | _, _ => false

end Number

namespace Value

instance : Inhabited Value := ⟨.null⟩

/-- The name of a value's kind. -/
def kind : Value → String
  | .null => "null"
  | .bool _ => "boolean"
  | .number _ => "number"
  | .string _ => "string"
  | .array _ => "array"
  | .object _ => "object"

/-- A 64-bit integer. -/
def ofInt64 (n : Int64) : Value := .number (.ofInt64 n)

/-- A 64-bit natural. -/
def ofUInt64 (n : UInt64) : Value := .number (.ofUInt64 n)

/-- A double; null when it is not finite. -/
def ofDouble : Double → Value
  | .finite x => .number (.real x)
  | _ => .null

/-- An array of strings. -/
def ofStrings (strings : List String) : Value := .array (strings.map .string)

/-- The truth value, if the value is one. -/
def bool? : Value → Option Bool
  | .bool b => some b
  | _ => none

/-- The string, if the value is one. -/
def string? : Value → Option String
  | .string s => some s
  | _ => none

/-- The entries, if the value is an object. -/
def entries? : Value → Option (Entries Value)
  | .object entries => some entries
  | _ => none

/-- The items, if the value is an array. -/
def items? : Value → Option (List Value)
  | .array items => some items
  | _ => none

/-- The value of a number without fractional part. -/
def integral? : Value → Option Int
  | .number n => n.integral?
  | _ => none

/-- The double nearest to a number. -/
def double? : Value → Option Double
  | .number n => some n.toDouble
  | _ => none

/-- The natural written as a whole literal. -/
def natural? : Value → Option UInt64
  | .number (.whole n _) => if 0 ≤ n then some (.ofNat n.toNat) else none
  | _ => none

mutual

/-- Every object in the value has its entries in order. -/
def WellFormed : Value → Prop
  | .array items => itemsWellFormed items
  | .object entries => Entries.Sorted entries ∧ entriesWellFormed entries
  | _ => True

/-- Every item is well formed. -/
def itemsWellFormed : List Value → Prop
  | [] => True
  | item :: items => item.WellFormed ∧ itemsWellFormed items

/-- Every entry is well formed. -/
def entriesWellFormed : List (String × Value) → Prop
  | [] => True
  | (_, value) :: entries => value.WellFormed ∧ entriesWellFormed entries

end

end Value

namespace Value

mutual

/-- Whether two values have the same content. -/
def same : Value → Value → Bool
  | .null, .null => true
  | .bool a, .bool b => a == b
  | .number a, .number b => a.sameValue b
  | .string a, .string b => a == b
  | .array xs, .array ys => sameItems xs ys
  | .object xs, .object ys => xs.length == ys.length && sameEntries xs ys
  | _, _ => false

/-- Whether two lists have the same items in the same order. -/
def sameItems : List Value → List Value → Bool
  | [], [] => true
  | x :: xs, y :: ys => same x y && sameItems xs ys
  | _, _ => false

/-- Whether every entry of the first list has a counterpart of the same content. -/
def sameEntries : List (String × Value) → List (String × Value) → Bool
  | [], _ => true
  | (name, x) :: xs, ys =>
      (match Entries.get? ys name with
        | some y => same x y
        | none => false) && sameEntries xs ys

end

/-- Whether two items of a list have the same content. -/
def hasDuplicates : List Value → Bool
  | [] => false
  | item :: items => items.any (same item) || hasDuplicates items

end Value

end DataContract
