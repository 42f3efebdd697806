/-!
# Binary floating-point numbers

**Data.** A finite double is a sign, a mantissa and a power of two, in the one
canonical form that the format allows.  A double is finite, infinite or not a
number.

**Operations.** Every finite double is a whole number of units of `2 ^ (-1074)`,
so comparison, the test for a whole value and the conversion to an integer are
integer arithmetic.  A quotient of naturals is rounded to the nearest value of a
format, a tie going to the even mantissa.
-/

namespace DataContract

/-- The pairs of mantissa and exponent that stand for a finite double. -/
def CanonicalDouble (mantissa : Nat) (exponent : Int) : Prop :=
  mantissa < 0x20000000000000 ∧ -1074 ≤ exponent ∧ exponent ≤ 971 ∧
    (0x10000000000000 ≤ mantissa ∨ exponent = -1074)

instance (mantissa : Nat) (exponent : Int) :
    Decidable (CanonicalDouble mantissa exponent) := by
  unfold CanonicalDouble
  infer_instance

/-- A finite double, `± mantissa * 2 ^ exponent`. -/
structure FiniteDouble where
  negative : Bool
  mantissa : Nat
  exponent : Int
  canonical : CanonicalDouble mantissa exponent
deriving DecidableEq

/-- A double. -/
inductive Double where
  | finite (x : FiniteDouble)
  | infinite (negative : Bool)
  | nan
deriving DecidableEq

namespace FiniteDouble

/-- Zero with a sign. -/
def zero (negative : Bool) : FiniteDouble :=
  ⟨negative, 0, -1074, by decide⟩

instance : Inhabited FiniteDouble := ⟨zero false⟩

/-- The absolute value, counted in units of `2 ^ (-1074)`. -/
def magnitude (x : FiniteDouble) : Nat :=
  x.mantissa * Nat.pow 2 (x.exponent + 1074).toNat

/-- The value, counted in units of `2 ^ (-1074)`. -/
def units (x : FiniteDouble) : Int :=
  if x.negative then -(x.magnitude : Int) else x.magnitude

/-- Number of units in the integer one. -/
def unitsPerOne : Nat := Nat.pow 2 1074

/-- Whether the value is a whole number. -/
def isWhole (x : FiniteDouble) : Bool :=
  x.magnitude % unitsPerOne == 0

/-- The value without its fractional part. -/
def truncate (x : FiniteDouble) : Int :=
  x.units.tdiv unitsPerOne

/-- The whole value, if there is no fractional part. -/
def whole? (x : FiniteDouble) : Option Int :=
  if x.isWhole then some x.truncate else none

/-- Both zeros are the same value. -/
def sameValue (x y : FiniteDouble) : Bool :=
  x.units == y.units

end FiniteDouble

namespace Double

/-- Strictly below; false when a side is not a number. -/
def lt : Double → Double → Bool
  | .nan, _ => false
  | _, .nan => false
  | .finite x, .finite y => decide (x.units < y.units)
  | .infinite n, .infinite m => n && !m
  | .infinite n, .finite _ => n
  | .finite _, .infinite m => !m

/-- Below or equal; false when a side is not a number. -/
def le : Double → Double → Bool
  | .nan, _ => false
  | _, .nan => false
  | .finite x, .finite y => decide (x.units ≤ y.units)
  | .infinite n, .infinite m => n || !m
  | .infinite n, .finite _ => n
  | .finite _, .infinite m => !m

/-- Numeric equality: the zeros are equal and nothing equals what is not a number. -/
def numEq : Double → Double → Bool
  | .finite x, .finite y => x.sameValue y
  | .infinite n, .infinite m => n == m
  | _, _ => false

/-- Whether the double is finite. -/
def isFinite : Double → Bool
  | .finite _ => true
  | _ => false

end Double

/-- The nearest natural to `n / d`, a tie going to the even one. -/
def nearestEven (n d : Nat) : Nat :=
  let floor := n / d
  let twice := 2 * (n % d)
  if twice < d then floor
  else if d < twice then floor + 1
  else if floor % 2 = 0 then floor else floor + 1

/-- Mantissa width and exponent range of a binary format. -/
structure BinaryFormat where
  width : Nat
  minExponent : Int
  maxExponent : Int

namespace BinaryFormat

/-- Sixty-four bits. -/
def double : BinaryFormat := ⟨53, -1074, 971⟩

/-- Thirty-two bits. -/
def single : BinaryFormat := ⟨24, -149, 104⟩

/-- The numerator and denominator of `num / den / 2 ^ exponent`. -/
def scaled (num den : Nat) (exponent : Int) : Nat × Nat :=
  (num * Nat.pow 2 (-exponent).toNat, den * Nat.pow 2 exponent.toNat)

/-- The exponent under which `num / den` has a mantissa of full width, but not
below the least exponent of the format. -/
def exponentOf (f : BinaryFormat) (num den : Nat) : Int :=
  let low := max f.minExponent ((num.log2 : Int) - den.log2 - f.width)
  let (n, d) := scaled num den low
  if Nat.pow 2 f.width * d ≤ n then low + 1 else low

/-- The mantissa and exponent nearest to `num / den`; the exponent may exceed the
range of the format. -/
def round (f : BinaryFormat) (num den : Nat) : Nat × Int :=
  if num = 0 then (0, f.minExponent)
  else
    let exponent := f.exponentOf num den
    let (n, d) := scaled num den exponent
    let mantissa := nearestEven n d
    if mantissa = Nat.pow 2 f.width then (Nat.pow 2 (f.width - 1), exponent + 1)
    else (mantissa, exponent)

end BinaryFormat

namespace Double

/-- The double of a rounded mantissa and exponent; infinite beyond the range. -/
def ofRounded (negative : Bool) (mantissa : Nat) (exponent : Int) : Double :=
  if h : CanonicalDouble mantissa exponent then
    .finite ⟨negative, mantissa, exponent, h⟩
  else
    .infinite negative

/-- The double nearest to `± num / den`. -/
def nearest (negative : Bool) (num den : Nat) : Double :=
  let (mantissa, exponent) := BinaryFormat.double.round num den
  ofRounded negative mantissa exponent

/-- The double nearest to `± mantissa * 2 ^ exponent`. -/
def ofScaled (negative : Bool) (mantissa : Nat) (exponent : Int) : Double :=
  nearest negative (mantissa * Nat.pow 2 exponent.toNat) (Nat.pow 2 (-exponent).toNat)

/-- The double nearest to an integer. -/
def ofInt (n : Int) : Double :=
  nearest (decide (n < 0)) n.natAbs 1

/-- The double nearest to the single nearest to `x`; infinite beyond the range of
singles. -/
def toSingle : Double → Double
  | .finite x =>
      let (num, den) := BinaryFormat.scaled x.mantissa 1 (-x.exponent)
      let (mantissa, exponent) := BinaryFormat.single.round num den
      if BinaryFormat.single.maxExponent < exponent then .infinite x.negative
      else ofScaled x.negative mantissa exponent
  | x => x

/-- The largest finite double. -/
def maxFinite : Double := ofScaled false 0x1fffffffffffff 971

/-- The least finite double. -/
def minFinite : Double := ofScaled true 0x1fffffffffffff 971

/-- The largest finite single, as a double. -/
def maxSingle : Double := ofScaled false 0xffffff 104

/-- The least finite single, as a double. -/
def minSingle : Double := ofScaled true 0xffffff 104

end Double

namespace FiniteDouble

/-- The product, rounded once. -/
def mul (x y : FiniteDouble) : Double :=
  .ofScaled (x.negative != y.negative) (x.mantissa * y.mantissa) (x.exponent + y.exponent)

/-- The quotient, rounded once. -/
def div (x y : FiniteDouble) : Double :=
  let negative := x.negative != y.negative
  if y.mantissa = 0 then
    if x.mantissa = 0 then .nan else .infinite negative
  else
    let (num, den) := BinaryFormat.scaled x.mantissa y.mantissa (y.exponent - x.exponent)
    .nearest negative num den

end FiniteDouble

end DataContract
