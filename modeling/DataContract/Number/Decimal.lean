import DataContract.Number.Binary
/-!
# Decimals

**Shortest digits.** A finite double stands for the interval of reals that round to
it.  Its decimal is the multiple of the largest power of ten inside the interval that
lies nearest to the double.

**Layout.** How the digits are written: positionally or with an exponent, and which of
two equally near decimals is chosen, is a record of decisions.

**Reading.** A decimal is rounded to the nearest double.
-/

namespace DataContract

/-- The number `digits * 10 ^ exponent`. -/
structure Decimal where
  digits : Nat
  exponent : Int
deriving DecidableEq, Repr

/-- The number of decimal digits of a natural, one for zero. -/
def digitCount (n : Nat) : Nat :=
  (Nat.toDigits 10 n).length

/-- Which of two equally near decimals is chosen. -/
inductive Tie where
  | toEven
  | up
deriving DecidableEq, Repr

namespace FiniteDouble

/-- Lower end, value and upper end of the interval of reals that round to `x`, in
quarters of the last place of its mantissa. -/
def window (x : FiniteDouble) : Nat × Nat × Nat :=
  let below := if x.mantissa = 0x10000000000000 ∧ -1074 < x.exponent then 1 else 2
  (4 * x.mantissa - below, 4 * x.mantissa, 4 * x.mantissa + 2)

/-- Factors `(p, w)` for which `n * 10 ^ k` against `v` quarters of the last place
compares as `n * p` against `v * w`. -/
def gridFactors (x : FiniteDouble) (k : Int) : Nat × Nat :=
  let quarter := x.exponent - 2
  (Nat.pow 10 k.toNat * Nat.pow 2 (-quarter).toNat,
    Nat.pow 2 quarter.toNat * Nat.pow 10 (-k).toNat)

/-- Whether `n * 10 ^ k` rounds to `x`: it lies in the interval, whose ends belong to
it when the mantissa is even. -/
def readsBack (x : FiniteDouble) (n : Nat) (k : Int) : Bool :=
  let (low, _, high) := x.window
  let (p, w) := x.gridFactors k
  if x.mantissa % 2 = 0 then decide (low * w ≤ n * p) && decide (n * p ≤ high * w)
  else decide (low * w < n * p) && decide (n * p < high * w)

/-- The multiple of `10 ^ k` nearest to the magnitude of `x` among those that round
to it. -/
def nearestOnGrid (tie : Tie) (x : FiniteDouble) (k : Int) : Option Nat :=
  let (_, mid, _) := x.window
  let (p, w) := x.gridFactors k
  let n := mid * w / p
  match x.readsBack n k, x.readsBack (n + 1) k with
  | false, false => none
  | true, false => some n
  | false, true => some (n + 1)
  | true, true =>
      match compare (2 * (mid * w)) ((2 * n + 1) * p) with
      | .lt => some n
      | .gt => some (n + 1)
      | .eq =>
          match tie with
          | .up => some (n + 1)
          | .toEven => some (if n % 2 = 0 then n else n + 1)

/-- A power of ten above the magnitude of a nonzero `x`. -/
def topExponent (x : FiniteDouble) : Int :=
  ((x.mantissa.log2 : Int) + x.exponent) * 30103 / 100000 + 2

/-- The shortest decimal that rounds to the magnitude of `x`. -/
def shortest (tie : Tie) (x : FiniteDouble) : Decimal :=
  if x.mantissa = 0 then ⟨0, 0⟩
  else
    let found := (List.range 24).findSome? fun (i : Nat) =>
      let k := x.topExponent - (i : Int)
      (x.nearestOnGrid tie k).map fun n => Decimal.mk n k
    found.getD <|
      if 0 ≤ x.exponent then ⟨x.mantissa * Nat.pow 2 x.exponent.toNat, 0⟩
      else ⟨x.mantissa * Nat.pow 5 (-x.exponent).toNat, x.exponent⟩

end FiniteDouble

/-- The decisions that a text form of doubles makes. -/
structure DecimalLayout where
  /-- Which of two equally near decimals is chosen. -/
  tie : Tie
  /-- The exponents of the leading digit that are written positionally; all when absent. -/
  positional : Option (Int × Int)
  /-- Whole numbers end in a point and a zero. -/
  pointZero : Bool
  /-- A positive exponent carries its sign. -/
  plusSign : Bool
  /-- The text of what is not a number. -/
  nanText : String
  /-- The text of positive infinity. -/
  infinityText : String

namespace Decimal

/-- The exponent of the leading digit. -/
def leading (d : Decimal) : Int :=
  d.exponent + digitCount d.digits - 1

/-- Digits with the point where it belongs. -/
def positional (pointZero : Bool) (d : Decimal) : String :=
  let digits := Nat.toDigits 10 d.digits
  if 0 ≤ d.exponent then
    String.ofList (digits ++ List.replicate d.exponent.toNat '0') ++
      (if pointZero then ".0" else "")
  else
    let places := (-d.exponent).toNat
    if places < digits.length then
      String.ofList (digits.take (digits.length - places)) ++ "." ++
        String.ofList (digits.drop (digits.length - places))
    else
      "0." ++ String.ofList (List.replicate (places - digits.length) '0' ++ digits)

/-- One digit, the point, the other digits and the exponent. -/
def scientific (plusSign : Bool) (d : Decimal) : String :=
  let digits := Nat.toDigits 10 d.digits
  let rest := digits.drop 1
  let e := d.leading
  String.ofList (digits.take 1) ++
    (if rest.isEmpty then "" else "." ++ String.ofList rest) ++ "e" ++
    (if 0 ≤ e && plusSign then "+" else "") ++ toString e

end Decimal

namespace Double

/-- The text of a double. -/
def render (layout : DecimalLayout) : Double → String
  | .nan => layout.nanText
  | .infinite negative => (if negative then "-" else "") ++ layout.infinityText
  | .finite x =>
      let d := x.shortest layout.tie
      let body :=
        match layout.positional with
        | none => d.positional layout.pointZero
        | some (least, greatest) =>
            if least ≤ d.leading && d.leading ≤ greatest then d.positional layout.pointZero
            else d.scientific layout.plusSign
      (if x.negative then "-" else "") ++ body

/-- Messages write doubles positionally, whole numbers without a point. -/
def plainLayout : DecimalLayout where
  tie := .up
  positional := none
  pointZero := false
  plusSign := false
  nanText := "NaN"
  infinityText := "inf"

/-- The text of a double in a message. -/
def text (x : Double) : String := x.render plainLayout

end Double

namespace Decimal

/-- The double nearest to `± d`.  Outside the exponents of doubles the answer is known
without the power of ten. -/
def toDouble (negative : Bool) (d : Decimal) : Double :=
  if d.digits = 0 then .finite (.zero negative)
  else if 400 < d.leading then .infinite negative
  else if d.leading < -400 then .finite (.zero negative)
  else
    .nearest negative (d.digits * Nat.pow 10 d.exponent.toNat) (Nat.pow 10 (-d.exponent).toNat)

end Decimal

end DataContract
