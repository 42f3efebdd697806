import DataContract.Text
import DataContract.Text.Ways
/-!
# Durations

A duration is written as amounts with units, such as `1d 12h` or `-90 minutes`.  Blanks
may stand around every part, and one sign before all of them.

**Reading.** The text must have that shape from its first character to its last.  The
amounts are then searched for anew in the whole text, and their seconds are added in 64-bit
integers, where a sum or a product that is out of range ends the reading.
-/

namespace DataContract

section Checked

/-- The sum, unless it is out of range. -/
def checkedAdd (a b : Int64) : Option Int64 :=
  if a.toBitVec.saddOverflow b.toBitVec then none else some (a + b)

/-- The product, unless it is out of range. -/
def checkedMul (a b : Int64) : Option Int64 :=
  if a.toBitVec.smulOverflow b.toBitVec then none else some (a * b)

variable {a b c : Int64}

/-- The sum exists where some 64-bit integer is the exact sum, and is that integer. -/
theorem checkedAdd_eq_some_iff : checkedAdd a b = some c ↔ c.toInt = a.toInt + b.toInt := by
  have hLower := c.le_toInt
  have hUpper := c.toInt_lt
  rw [checkedAdd]
  by_cases h : a.toBitVec.saddOverflow b.toBitVec = true
  · rw [if_pos h]
    simp only [BitVec.saddOverflow, Bool.or_eq_true, decide_eq_true_eq,
      Int64.toInt_toBitVec] at h
    refine iff_of_false (by simp) fun hSum => ?_
    omega
  · rw [if_neg h, Option.some.injEq, ← Int64.toInt_inj, ← Int64.toInt_toBitVec (a + b),
      Int64.toBitVec_add, BitVec.toInt_add_of_not_saddOverflow h, Int64.toInt_toBitVec,
      Int64.toInt_toBitVec]
    exact eq_comm

/-- The product exists where some 64-bit integer is the exact product, and is that
integer. -/
theorem checkedMul_eq_some_iff : checkedMul a b = some c ↔ c.toInt = a.toInt * b.toInt := by
  have hLower := c.le_toInt
  have hUpper := c.toInt_lt
  rw [checkedMul]
  by_cases h : a.toBitVec.smulOverflow b.toBitVec = true
  · rw [if_pos h]
    simp only [BitVec.smulOverflow, Bool.or_eq_true, decide_eq_true_eq,
      Int64.toInt_toBitVec] at h
    refine iff_of_false (by simp) fun hProduct => ?_
    rw [← hProduct] at h
    omega
  · rw [if_neg h, Option.some.injEq, ← Int64.toInt_inj, ← Int64.toInt_toBitVec (a * b),
      Int64.toBitVec_mul, BitVec.toInt_mul_of_not_smulOverflow h, Int64.toInt_toBitVec,
      Int64.toInt_toBitVec]
    exact eq_comm

end Checked

namespace Duration

/-- The most seconds of a duration, in either direction. -/
def maxSeconds : Nat := 0x7fffffffffffffff / 1000

/-- Why a text is no duration. -/
inductive Fault where
  | malformed
  | outOfRange
deriving DecidableEq, Repr

namespace Fault

/-- The words for a fault. -/
def message : Fault → String
  | .malformed => "unrecognised duration syntax"
  | .outOfRange => "duration is out of range"

end Fault

end Duration

/-- A signed number of whole seconds. -/
structure Duration where
  seconds : Int
  bounded : seconds.natAbs ≤ Duration.maxSeconds
deriving DecidableEq, Repr

namespace Duration

/-- The duration of a number of seconds, if it is in range. -/
def ofSeconds? (seconds : Int) : Option Duration :=
  if h : seconds.natAbs ≤ maxSeconds then some ⟨seconds, h⟩ else none

/-- No time. -/
def zero : Duration := ⟨0, by decide⟩

/-- The words for a day. -/
def dayWords : List String := ["d", "day", "days"]

/-- The words for an hour. -/
def hourWords : List String := ["h", "hr", "hour", "hours"]

/-- The words for units, in the order in which a reader tries them: a longer word comes
before its beginnings. -/
def unitWords : List String :=
  ["days", "day", "d", "hours", "hour", "hr", "h", "minutes", "minute", "min", "m"]

/-- A letter without case.  The long letter s is a case of the letter s. -/
def foldLetter (c : Char) : Char := if c = 'ſ' then 's' else c.toLower

/-- The seconds of a unit.  Only words that are letter for letter those for a day or an
hour count as such. -/
def unitSeconds (unit : List Char) : Int64 :=
  let word := String.ofList (unit.map Char.toLower)
  if dayWords.contains word then 86400
  else if hourWords.contains word then 3600
  else 60

/-- An amount and its unit, as they are written. -/
structure Amount where
  digits : List Char
  unit : List Char
deriving DecidableEq, Repr

/-- A unit, whatever its case. -/
def unit : Ways (List Char) :=
  .choice (unitWords.map fun word => .word foldLetter word.toList)

/-- Digits, blanks and a unit. -/
def amount : Ways Amount := do
  let digits ← .atLeastOne Char.isDigit
  let _ ← .many isBlank
  let unit ← unit
  return ⟨digits, unit⟩

/-- The sign before the amounts. -/
def sign : Ways (Option Char) := .optional (.one fun c => c == '+' || c == '-')

/-- A whole text: blanks, a sign, blanks, and amounts with blanks behind them.  What is
read is the sign. -/
def shape : Ways (Option Char) := do
  let _ ← .many isBlank
  let sign ← sign
  let _ ← .many isBlank
  let _ ← .star do
    let _ ← amount
    .many isBlank
  .ending
  return sign

/-- The amounts of a text, wherever they stand. -/
def amounts (text : String) : List Amount := Ways.occurrences amount text.toList

/-- The value of a digit. -/
def digitValue (c : Char) : Nat := c.toNat - '0'.toNat

/-- The number that digits stand for, digit by digit. -/
def number? (digits : List Char) : Option Int64 :=
  digits.foldlM (fun n c => do checkedAdd (← checkedMul n 10) (.ofNat (digitValue c))) 0

/-- Add the seconds of an amount. -/
def addAmount (seconds : Int64) (amount : Amount) : Option Int64 := do
  let n ← number? amount.digits
  let product ← checkedMul n (unitSeconds amount.unit)
  checkedAdd seconds product

/-- The seconds of amounts. -/
def sum? (amounts : List Amount) : Option Int64 := amounts.foldlM addAmount 0

/-- The signed seconds that a text stands for. -/
def resolve (text : String) : Except Fault Int64 :=
  match shape.first? text.toList with
  | none => .error .malformed
  | some (sign, _) =>
      match sum? (amounts text) with
      | none => .error .outOfRange
      | some total =>
          if (maxSeconds : Int) < total.toInt then .error .outOfRange
          else .ok (if sign = some '-' then -total else total)

section Range

variable {s t : Int64}

/-- A sum is never negative where no step makes it so. -/
theorem nonneg_of_foldlM {α : Type} {step : Int64 → α → Option Int64} {as : List α}
    (hStep : ∀ a s t, 0 ≤ s.toInt → step s a = some t → 0 ≤ t.toInt) :
    ∀ {s}, 0 ≤ s.toInt → as.foldlM step s = some t → 0 ≤ t.toInt := by
  induction as with
  | nil =>
      intro s hs h
      cases h
      exact hs
  | cons a as ih =>
      intro s hs h
      rw [List.foldlM_cons, Option.bind_eq_bind, Option.bind_eq_some_iff] at h
      obtain ⟨next, hNext, hRest⟩ := h
      exact ih (hStep a s next hs hNext) hRest

theorem toInt_ofNat_digitValue (c : Char) : (Int64.ofNat (digitValue c)).toInt = digitValue c := by
  refine Int64.toInt_ofNat_of_lt ?_
  have hCode : c.toNat < 0x110000 := by
    rcases c.valid with h | h
    · exact Nat.lt_trans h (by decide)
    · exact h.2
  simp only [digitValue]
  omega

theorem nonneg_of_number {digits : List Char} (h : number? digits = some t) : 0 ≤ t.toInt := by
  refine nonneg_of_foldlM (fun c s n hs hn => ?_) (by decide) h
  simp only [Option.bind_eq_bind, Option.bind_eq_some_iff, checkedMul_eq_some_iff,
    checkedAdd_eq_some_iff, toInt_ofNat_digitValue] at hn
  obtain ⟨shifted, hShifted, hSum⟩ := hn
  have hTen : (10 : Int64).toInt = 10 := by decide
  rw [hTen] at hShifted
  omega

theorem nonneg_of_unitSeconds (unit : List Char) : 0 ≤ (unitSeconds unit).toInt := by
  simp only [unitSeconds]
  split
  · decide
  · split <;> decide

/-- No amount takes anything away. -/
theorem nonneg_of_addAmount {amount : Amount} (hs : 0 ≤ s.toInt) (h : addAmount s amount = some t) :
    0 ≤ t.toInt := by
  simp only [addAmount, Option.bind_eq_bind, Option.bind_eq_some_iff, checkedMul_eq_some_iff,
    checkedAdd_eq_some_iff] at h
  obtain ⟨n, hn, product, hProduct, hSum⟩ := h
  have hNonneg : 0 ≤ product.toInt := by
    rw [hProduct]
    exact Int.mul_nonneg (nonneg_of_number hn) (nonneg_of_unitSeconds amount.unit)
  omega

theorem nonneg_of_sum {amounts : List Amount} (h : sum? amounts = some t) : 0 ≤ t.toInt :=
  nonneg_of_foldlM (fun _ _ _ => nonneg_of_addAmount) (by decide) h

/-- What a text adds up to is in range, and so is the sum with its sign. -/
theorem natAbs_le_of_resolve {text : String} {n : Int64} (h : resolve text = .ok n) :
    n.toInt.natAbs ≤ maxSeconds := by
  have hMax : maxSeconds < 0x8000000000000000 := by decide
  rw [resolve] at h
  split at h
  · cases h
  · split at h
    · cases h
    · rename_i total hSum
      have hNonneg := nonneg_of_sum hSum
      split at h
      · cases h
      · cases h
        split
        · rw [Int64.toInt_neg, Int.bmod_eq_of_le] <;> omega
        · omega

end Range

/-- The duration that a text stands for. -/
def read (text : String) : Except Fault Duration :=
  match h : resolve text with
  | .error fault => .error fault
  | .ok n => .ok ⟨n.toInt, natAbs_le_of_resolve h⟩

theorem read_of_resolve_eq_error {text : String} {fault : Fault} (h : resolve text = .error fault) :
    read text = .error fault := by
  unfold read
  split
  · next h' =>
      rw [h] at h'
      cases h'
      rfl
  · next h' =>
      rw [h] at h'
      cases h'

theorem read_of_resolve_eq_ok {text : String} {n : Int64} (h : resolve text = .ok n) :
    read text = .ok ⟨n.toInt, natAbs_le_of_resolve h⟩ := by
  unfold read
  split
  · next h' =>
      rw [h] at h'
      cases h'
  · next h' =>
      have hEq := h'
      rw [h] at hEq
      cases hEq
      rfl

/-- The pattern that describes durations to readers of a descriptor. -/
def patternText : String :=
  "^\\s*[+-]?\\s*([0-9]+\\s*(days|day|d|hours|hour|hr|h|minutes|minute|min|m)\\s*)*$"

end Duration

end DataContract
