import DataContract.Text
import DataContract.Yaml.Basic
/-!
# Resolving scalars

A plain scalar is null, a truth value, a number or else a string, by the way it is
written.  A tag may say which of these it is; a tag of the document's own is kept.
-/

namespace DataContract
namespace Yaml
namespace Resolution

/-- The value of digits to a base. -/
def digits? (base : Nat) (cs : List Char) : Option Nat :=
  if cs.isEmpty then none
  else cs.foldlM (fun n c =>
    match hexValue? c with
    | some d => if d < base then some (base * n + d) else none
    | none => none) 0

/-- The base that a mark tells, and the digits behind it. -/
def marked? : List Char → Option (Nat × List Char)
  | '0' :: 'x' :: cs => some (16, cs)
  | '0' :: 'o' :: cs => some (8, cs)
  | '0' :: 'b' :: cs => some (2, cs)
  | _ => none

/-- Without a sign at the start. -/
def dropSign : List Char → List Char
  | '-' :: cs => cs
  | '+' :: cs => cs
  | cs => cs

/-- Without a plus at the start. -/
def dropPlus : List Char → List Char
  | '+' :: cs => cs
  | cs => cs

/-- Whether a scalar of digits has superfluous zeros, so that it is no number. -/
def hasLeadingZero (cs : List Char) : Bool :=
  let cs := dropSign cs
  1 < cs.length && cs.head? == some '0' && cs.all Char.isDigit

/-- The natural of digits with or without the mark of a base. -/
def natural? (cs : List Char) : Option Nat :=
  match marked? cs with
  | some (base, digits) => digits? base digits
  | none => digits? 10 cs

/-- The integer of a scalar. -/
def integer? (cs : List Char) : Option Int :=
  if hasLeadingZero cs then none
  else
    match cs with
    | '-' :: digits => (natural? digits).map fun n => -(n : Int)
    | cs => (natural? (dropPlus cs)).map fun n => (n : Int)

/-- Whether an integer has at most 128 bits, signed or unsigned. -/
def isWide (n : Int) : Bool :=
  -0x80000000000000000000000000000000 ≤ n && n < 0x100000000000000000000000000000000

/-- The value of decimal digits. -/
def decimalValue (cs : List Char) : Nat :=
  cs.foldl (fun n c => 10 * n + (c.toNat - '0'.toNat)) 0

/-- The exponent of a scalar, to its end. -/
def exponent? : List Char → Option Int
  | [] => some 0
  | e :: cs =>
      let digits := dropSign cs
      if (e = 'e' ∨ e = 'E') ∧ !digits.isEmpty ∧ digits.all Char.isDigit then
        let n : Int := decimalValue digits
        some (if cs.head? == some '-' then -n else n)
      else none

/-- The finite double of decimal digits with point and exponent. -/
def decimal? (cs : List Char) : Option Double :=
  let negative := cs.head? == some '-'
  let cs := dropSign cs
  let whole := cs.takeWhile Char.isDigit
  let rest := cs.dropWhile Char.isDigit
  let (fraction, rest) :=
    match rest with
    | '.' :: rest => (rest.takeWhile Char.isDigit, rest.dropWhile Char.isDigit)
    | rest => ([], rest)
  if whole.isEmpty && fraction.isEmpty then none
  else
    match exponent? rest with
    | none => none
    | some e =>
        let d : Decimal := ⟨decimalValue (whole ++ fraction), e - fraction.length⟩
        match d.toDouble negative with
        | .finite x => some (.finite x)
        | _ => none

/-- The double of a scalar. -/
def real? (text : String) : Option Double :=
  if [".inf", ".Inf", ".INF", "+.inf", "+.Inf", "+.INF"].contains text then
    some (.infinite false)
  else if ["-.inf", "-.Inf", "-.INF"].contains text then some (.infinite true)
  else if [".nan", ".NaN", ".NAN"].contains text then some .nan
  else
    match text.toList with
    | '+' :: cs => if cs.head? == some '+' || cs.head? == some '-' then none else decimal? cs
    | cs => decimal? cs

/-- The truth value of a scalar. -/
def bool? (text : String) : Option Bool :=
  if ["true", "True", "TRUE"].contains text then some true
  else if ["false", "False", "FALSE"].contains text then some false
  else none

/-- Whether a scalar is written as null. -/
def isNull (text : String) : Bool := ["null", "Null", "NULL", "~"].contains text

/-- An integer, which must have at most 64 bits. -/
def ofInteger (n : Int) : Option Yaml := Yaml.ofInt? n

/-- A plain scalar without a tag.  An integer of more than 64 bits is at fault, up to
128 bits; a wider one is a double. -/
def plain (text : String) : Option Yaml :=
  if text.isEmpty || isNull text then some .null
  else
    match bool? text with
    | some b => some (.bool b)
    | none =>
        let other : Yaml :=
          match (if hasLeadingZero text.toList then none else real? text) with
          | some x => .real x
          | none => .string text
        match integer? text.toList with
        | some n => if isWide n then ofInteger n else some other
        | none => some other

/-- The name of a tag of the document's own. -/
def ownTag? (tag : Option String) : Option String :=
  match tag.map String.toList with
  | some ('!' :: name) => some (String.ofList name)
  | _ => none

/-- A document under a tag of its own, which must have a name. -/
def withTag (name : String) (content : Yaml) : Option Yaml :=
  if name.isEmpty then none else some (.tagged name content)

/-- A scalar with a tag that says what it is. -/
def ofCoreTag (tag text : String) : Option Yaml :=
  match tag with
  | "tag:yaml.org,2002:bool" => (bool? text).map .bool
  | "tag:yaml.org,2002:int" => do
      let n ← integer? text.toList
      ofInteger n
  | "tag:yaml.org,2002:float" => (real? text).map .real
  | "tag:yaml.org,2002:null" => if isNull text then some .null else none
  | _ => some (.string text)

/-- A scalar. -/
def scalar (tag : Option String) (text : String) (isPlain : Bool) : Option Yaml :=
  match tag, ownTag? tag with
  | _, some name => do
      withTag name (← if isPlain then plain text else some (.string text))
  | some tag, none => ofCoreTag tag text
  | none, none => if isPlain then plain text else some (.string text)

end Resolution
end Yaml
end DataContract
