import DataContract.Pattern.CharClass
import DataContract.Pattern.Tree
import DataContract.Text.Unicode.Age
import DataContract.Text.Unicode.Division
/-!
# Properties by name

The name of a property is compared without case, blanks, underscores and hyphens, and a
leading "is" is dropped.  A bare name is that of a property, of a category or of a
script; a name with a value says which of them is meant, or asks for an age or for a kind of
a division of texts.
-/

namespace DataContract
namespace Pattern
namespace PropertyQuery

/-- Drop a leading "is". -/
def dropIs : List Char → List Char
  | i :: s :: name =>
      if i.toLower = 'i' ∧ s.toLower = 's' then name else i :: s :: name
  | name => name

/-- A name as it is compared.  What is left of "isc" is not taken for the name of a category. -/
def normalize (name : List Char) : String :=
  let rest := dropIs name
  let kept := rest.filter fun c => decide (c.toNat < 128) && c != ' ' && c != '_' && c != '-'
  let folded := String.ofList (kept.map Char.toLower)
  if folded == "c" && rest.length < name.length then "isc" else folded

/-- The class of a category. -/
def categoryClass? (name : String) : Option CharClass :=
  match name with
  | "any" => some .all
  | "assigned" => some (.complement (.categories [.unassigned]))
  | "ascii" => some (.ranges [(0, 0x7F)])
  | name =>
      (Unicode.Category.named.find? fun row => row.1.contains name).map
        fun row => .categories row.2

/-- The class of a property that a character has or lacks. -/
def propertyClass? (name : String) : Option CharClass :=
  (Unicode.property? name).map .property

/-- The names that stand for a category before they stand for a property. -/
def isCategoryFirst (name : String) : Bool := ["cf", "sc", "lc"].contains name

/-- The class of a bare name. -/
def bareClass? (name : String) : Option CharClass :=
  (if isCategoryFirst name then none else propertyClass? name) <|>
    categoryClass? name <|> (Unicode.scriptCode? name).map .script

/-- The class of a name and a value. -/
def valuedClass? (name value : String) : Option CharClass :=
  if ["gc", "generalcategory"].contains name then categoryClass? value
  else if ["sc", "script"].contains name then (Unicode.scriptCode? value).map .script
  else if ["scx", "scriptextensions"].contains name then
    (Unicode.scriptCode? value).map .scripts
  else if name = "age" then (Unicode.assignedBy? value).map .ranges
  else (Unicode.kind? name value).map .property

/-- The class that a query asks for. -/
def class? : PropertyQuery → Option CharClass
  | .letter c => bareClass? (normalize [c])
  | .named name => bareClass? (normalize name)
  | .valued name value equal =>
      (valuedClass? (normalize name) (normalize value)).map (.negateIf !equal)

end PropertyQuery
end Pattern
end DataContract
