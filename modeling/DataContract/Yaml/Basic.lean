import DataContract.Number.Decimal
import DataContract.Text
import DataContract.Value
/-!
# Decoded YAML

A YAML document decodes to more than a JSON value: its doubles need not be finite, any
value may be the key of an entry, and a value may carry a tag.

It stands for a value when its doubles are finite and its keys are strings, numbers or truth
values.  Numbers and truth values become names as they are written, and of entries with one
name the last counts.  Tags are passed over.
-/

namespace DataContract

/-- A decoded YAML document. -/
inductive Yaml where
  | null
  | bool (b : Bool)
  | whole (n : Int) (inRange : -0x8000000000000000 ≤ n ∧ n < 0x10000000000000000)
  | real (x : Double)
  | string (s : String)
  | sequence (items : List Yaml)
  | mapping (entries : List (Yaml × Yaml))
  | tagged (tag : String) (content : Yaml)

namespace Yaml

instance : Inhabited Yaml := ⟨.null⟩

/-- A whole number in the range of 64-bit integers. -/
def ofInt? (n : Int) : Option Yaml :=
  if h : -0x8000000000000000 ≤ n ∧ n < 0x10000000000000000 then some (.whole n h) else none

/-- The text form of doubles. -/
def numberLayout : DecimalLayout where
  tie := .toEven
  positional := some (-5, 15)
  pointZero := true
  plusSign := false
  nanText := ".nan"
  infinityText := ".inf"

/-- The text of a double. -/
def realText (x : Double) : String := x.render numberLayout

/-- The text of a truth value. -/
def boolText (b : Bool) : String := if b then "true" else "false"

mutual

/-- A document as it is shown in messages. -/
def describe : Yaml → String
  | .null => "Null"
  | .bool b => "Bool(" ++ boolText b ++ ")"
  | .whole n _ => "Number(" ++ toString n ++ ")"
  | .real x => "Number(" ++ realText x ++ ")"
  | .string s => "String(" ++ Literal.encode s ++ ")"
  | .sequence items => "Sequence [" ++ describeItems items ++ "]"
  | .mapping entries => "Mapping \x7b" ++ describeEntries entries ++ "\x7d"
  | .tagged tag content =>
      "TaggedValue \x7b tag: !" ++ tag ++ ", value: " ++ describe content ++ " \x7d"

/-- Items, separated by commas. -/
def describeItems : List Yaml → String
  | [] => ""
  | [item] => describe item
  | item :: items => describe item ++ ", " ++ describeItems items

/-- Entries, separated by commas; a scalar key is shown bare. -/
def describeEntries : List (Yaml × Yaml) → String
  | [] => ""
  | [(key, value)] => describeKey key ++ ": " ++ describe value
  | (key, value) :: entries =>
      describeKey key ++ ": " ++ describe value ++ ", " ++ describeEntries entries

/-- A key as it is shown in messages. -/
def describeKey : Yaml → String
  | .bool b => boolText b
  | .whole n _ => toString n
  | .real x => realText x
  | .string s => Literal.encode s
  | .null => "Null"
  | .sequence items => "Sequence [" ++ describeItems items ++ "]"
  | .mapping entries => "Mapping \x7b" ++ describeEntries entries ++ "\x7d"
  | .tagged tag content =>
      "TaggedValue \x7b tag: !" ++ tag ++ ", value: " ++ describe content ++ " \x7d"

end

/-- Whether two doubles are the same key. -/
def sameReal (x y : Double) : Bool := x.numEq y || (x == .nan && y == .nan)

mutual

/-- Whether two documents are the same key, whatever the order of entries. -/
def same : Yaml → Yaml → Bool
  | .null, .null => true
  | .bool a, .bool b => a == b
  | .whole m _, .whole n _ => m == n
  | .real x, .real y => sameReal x y
  | .string s, .string t => s == t
  | .sequence xs, .sequence ys => sameItems xs ys
  | .mapping xs, .mapping ys => xs.length == ys.length && sameEntries xs ys
  | .tagged s x, .tagged t y => s == t && same x y
  | _, _ => false

/-- Whether two lists have the same items in the same order. -/
def sameItems : List Yaml → List Yaml → Bool
  | [], [] => true
  | x :: xs, y :: ys => same x y && sameItems xs ys
  | _, _ => false

/-- Whether every entry of the first list has a counterpart. -/
def sameEntries : List (Yaml × Yaml) → List (Yaml × Yaml) → Bool
  | [], _ => true
  | (k, v) :: xs, ys => (ys.any fun (l, w) => same k l && same v w) && sameEntries xs ys

end

/-- Whether a key occurs twice. -/
def hasDuplicateKeys : List (Yaml × Yaml) → Bool
  | [] => false
  | (key, _) :: entries =>
      (entries.any fun (other, _) => same key other) || hasDuplicateKeys entries

end Yaml

namespace Yaml

/-- Why a document stands for no value. -/
inductive Fault where
  | notFinite (x : Double)
  | badKey (key : Yaml)

namespace Fault

/-- The words for a fault. -/
def message : Fault → String
  | .notFinite x => "cannot represent float " ++ x.text ++ " in JSON"
  | .badKey key => "unsupported YAML map key type: " ++ key.describe

end Fault

/-- The name that a key becomes. -/
def nameOfKey : Yaml → Except Fault String
  | .string s => .ok s
  | .whole n _ => .ok (toString n)
  | .real x => .ok (realText x)
  | .bool b => .ok (boolText b)
  | key => .error (.badKey key)

mutual

/-- The value of a document. -/
def toValue : Yaml → Except Fault Value
  | .null => .ok .null
  | .bool b => .ok (.bool b)
  | .whole n inRange => .ok (.number (.whole n inRange))
  | .real (.finite x) => .ok (.number (.real x))
  | .real x => .error (.notFinite x)
  | .string s => .ok (.string s)
  | .sequence items => (itemsToValues items).map .array
  | .mapping entries => (entriesToValues entries).map fun pairs => .object (Entries.ofList pairs)
  | .tagged _ content => content.toValue

/-- The values of items. -/
def itemsToValues : List Yaml → Except Fault (List Value)
  | [] => .ok []
  | item :: items => do
      let v ← item.toValue
      let vs ← itemsToValues items
      return v :: vs

/-- The names and values of entries. -/
def entriesToValues : List (Yaml × Yaml) → Except Fault (List (String × Value))
  | [] => .ok []
  | (key, value) :: entries => do
      let name ← nameOfKey key
      let v ← value.toValue
      let rest ← entriesToValues entries
      return (name, v) :: rest

end

end Yaml

end DataContract
