import DataContract.Text
import DataContract.Text.Unicode.Folding
import DataContract.Text.Unicode.Property
import DataContract.Text.Unicode.Script
/-!
# Character classes

A class is built from ranges and from properties of characters by the operations on
sets.  Membership is decided by recursion on the way it was built.
-/

namespace DataContract

/-- A set of characters. -/
inductive CharClass where
  | ranges (rs : List (Nat × Nat))
  | blank
  | categories (cs : List Unicode.Category)
  | property (p : Unicode.Property)
  | script (code : String)
  | scripts (code : String)
  | union (a b : CharClass)
  | inter (a b : CharClass)
  | complement (a : CharClass)
  /-- All case variants of the members. -/
  | folded (a : CharClass)
  /-- The members and the other case of the unaccented letters among them. -/
  | asciiFolded (a : CharClass)

namespace CharClass

/-- The other case of an unaccented letter. -/
def swapCase (c : Char) : Char :=
  if c.isUpper then c.toLower else if c.isLower then c.toUpper else c

/-- Whether a character is a member. -/
def contains : CharClass → Char → Bool
  | .ranges rs, c => Unicode.inRanges rs c.toNat
  | .blank, c => isBlank c
  | .categories cs, c => Unicode.inCategories cs c
  | .property p, c => p.holds c
  | .script code, c => Unicode.script c == code
  | .scripts code, c => (Unicode.scripts c).contains code
  | .union a b, c => a.contains c || b.contains c
  | .inter a b, c => a.contains c && b.contains c
  | .complement a, c => !a.contains c
  | .folded a, c => (Unicode.caseVariants c).any a.contains
  | .asciiFolded a, c => a.contains c || a.contains (swapCase c)

/-- No character. -/
def none : CharClass := .ranges []

/-- Every character. -/
def all : CharClass := .ranges [(0, 0x10FFFF)]

/-- One character. -/
def single (c : Char) : CharClass := .ranges [(c.toNat, c.toNat)]

/-- The characters of a range, ends included. -/
def range (low high : Char) : CharClass := .ranges [(low.toNat, high.toNat)]

/-- The members of `a` that are not members of `b`. -/
def except (a b : CharClass) : CharClass := .inter a (.complement b)

/-- The members of exactly one class. -/
def symmetric (a b : CharClass) : CharClass := .union (a.except b) (b.except a)

/-- The complement, if wanted. -/
def negateIf (negated : Bool) (a : CharClass) : CharClass :=
  if negated then .complement a else a

/-- The class of a property, empty for an unknown name. -/
def ofProperty (name : String) : CharClass :=
  match Unicode.property? name with
  | some p => .property p
  | Option.none => none

/-- Decimal digits of all scripts. -/
def digit : CharClass := .categories [.decimalNumber]

/-- The characters of words: letters, marks, digits, connectors and joiners. -/
def word : CharClass :=
  .union (ofProperty "alphabetic")
    (.union
      (.categories
        [.nonspacingMark, .spacingMark, .enclosingMark, .decimalNumber, .connectorPunctuation])
      (ofProperty "joincontrol"))

/-- The unaccented letters, the digits and the underscore. -/
def asciiWord : CharClass :=
  .ranges [('0'.toNat, '9'.toNat), ('A'.toNat, 'Z'.toNat), ('_'.toNat, '_'.toNat),
    ('a'.toNat, 'z'.toNat)]

end CharClass
end DataContract
