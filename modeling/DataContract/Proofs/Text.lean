import DataContract.Json
import DataContract.Text
import DataContract.Text.Unicode.Folding
import DataContract.Text.Ways
/-!
# Taking texts apart

Where a text begins with characters that pass a test and goes on with one that does not,
or ends there, the run has one end only.  A text that is put together from runs can be
taken apart again, and a reader that prefers long runs finds the run.

No written character of a quoted string begins another, and none begins with the quote, so
that the characters of a string are known from their written form, and so is the quote behind
them.

Of the basic characters only the capitals are folded, as all runs but theirs begin further
up.  No blank is folded, and of the other letters that are sent to basic ones the long
letter s is the one that matters for words.

**Results.**
* `eq_of_append_eq_append`: a text has one way to be a run and a rest outside of it.
* `many_bind_of_run`: a reader of a run that cannot go on within it reads all of it.
* `escapeAll_append_inj`: a text has one way to be a written string, a quote and a rest.
* `foldCode_of_lt`, `foldCode_of_isBlank`: what is folded of basic characters and blanks.
* `foldCode_longS`: the long letter s is sent to the letter s.
-/

namespace DataContract

/-- The text does not begin with a character that passes the test. -/
def StartsOutside (test : Char → Bool) (cs : List Char) : Prop :=
  ∀ c ∈ cs.head?, test c = false

namespace StartsOutside

variable {test : Char → Bool}

@[simp] theorem nil : StartsOutside test [] := by simp [StartsOutside]

@[simp] theorem cons_iff {c : Char} {cs : List Char} :
    StartsOutside test (c :: cs) ↔ test c = false := by
  simp [StartsOutside]

/-- A text begins as its first part does, or as the rest when that part is empty. -/
theorem append {front back : List Char} (hFront : ∀ c ∈ front, test c = false)
    (hBack : StartsOutside test back) :
    StartsOutside test (front ++ back) := by
  cases front with
  | nil => exact hBack
  | cons c front => exact cons_iff.mpr (hFront c List.mem_cons_self)

/-- As `append`, when the first part is not empty. -/
theorem append_of_ne_nil {front back : List Char} (hNonempty : front ≠ [])
    (hFront : ∀ c ∈ front, test c = false) :
    StartsOutside test (front ++ back) := by
  cases front with
  | nil => exact absurd rfl hNonempty
  | cons c front => exact cons_iff.mpr (hFront c List.mem_cons_self)

end StartsOutside

/-- A text has one way to be a run and a rest that begins outside of the run. -/
theorem eq_of_append_eq_append {test : Char → Bool} :
    ∀ {run run' rest rest' : List Char}, (∀ c ∈ run, test c = true) →
      (∀ c ∈ run', test c = true) → StartsOutside test rest → StartsOutside test rest' →
      run ++ rest = run' ++ rest' → run = run' ∧ rest = rest'
  | [], [], rest, rest', _, _, _, _, h => ⟨rfl, h⟩
  | [], d :: run', rest, rest', _, hRun', hRest, _, h => by
      rw [List.nil_append] at h
      rw [h, List.cons_append, StartsOutside.cons_iff, hRun' d List.mem_cons_self] at hRest
      cases hRest
  | c :: run, [], rest, rest', hRun, _, _, hRest', h => by
      rw [List.nil_append] at h
      rw [← h, List.cons_append, StartsOutside.cons_iff, hRun c List.mem_cons_self] at hRest'
      cases hRest'
  | c :: run, d :: run', rest, rest', hRun, hRun', hRest, hRest', h => by
      rw [List.cons_append, List.cons_append, List.cons.injEq] at h
      rw [List.forall_mem_cons] at hRun hRun'
      obtain ⟨hRuns, hRests⟩ := eq_of_append_eq_append hRun.2 hRun'.2 hRest hRest' h.2
      exact ⟨by rw [h.1, hRuns], hRests⟩

namespace Ways

variable {α : Type} {test : Char → Bool} {run rest : List Char}

/-- A run is read to its end when the reader behind it cannot begin within it. -/
theorem many_bind_of_run (hRun : ∀ c ∈ run, test c = true) (hRest : StartsOutside test rest) :
    ∀ {q : List Char → Ways α}, (∀ front c cs, test c = true → q front (c :: cs) = []) →
      (many test >>= q) (run ++ rest) = q run rest := by
  induction run with
  | nil =>
      intro q hq
      rw [List.nil_append, bind_apply]
      cases rest with
      | nil => simp [many]
      | cons c cs =>
          have hc : ¬ test c = true := by simpa using hRest
          simp [many, hc]
  | cons c run ih =>
      intro q hq
      rw [List.forall_mem_cons] at hRun
      -- The shortest reading, of nothing, cannot go on; every other begins with `c`.
      have hTail := ih hRun.2 (q := fun front => q (c :: front)) fun front => hq (c :: front)
      rw [bind_apply] at hTail
      rw [bind_apply, List.cons_append, many, if_pos hRun.1, List.flatMap_append,
        List.flatMap_map, List.flatMap_singleton, hq _ _ _ hRun.1, List.append_nil]
      exact hTail

theorem atLeastOne_bind_of_run {q : List Char → Ways α} (hNonempty : run ≠ [])
    (hRun : ∀ c ∈ run, test c = true) (hRest : StartsOutside test rest)
    (hq : ∀ front c cs, test c = true → q front (c :: cs) = []) :
    (atLeastOne test >>= q) (run ++ rest) = q run rest := by
  cases run with
  | nil => exact absurd rfl hNonempty
  | cons c run =>
      rw [List.forall_mem_cons] at hRun
      have hTail := many_bind_of_run hRun.2 hRest (q := fun front => q (c :: front)) fun front =>
        hq (c :: front)
      rw [← hTail, atLeastOne, bind_apply, bind_apply, bind_apply, List.cons_append, one,
        if_pos hRun.1, List.flatMap_singleton, bind_apply, List.flatMap_assoc]
      simp [pure_apply]

end Ways

namespace Quoted

/-- The character of an escape, behind its backslash, and the text behind it. -/
def nextEscaped? : List Char → Option (Char × List Char)
  | 'u' :: '0' :: '0' :: high :: low :: rest => do
      return (Char.ofNat (16 * (← hexValue? high) + (← hexValue? low)), rest)
  | c :: rest => (Json.Token.escaped? c).map (·, rest)
  | [] => none

/-- The first character within quotes and the text behind it; none where the quote ends. -/
def next? : List Char → Option (Char × List Char)
  | [] => none
  | c :: rest =>
      if c = '"' then none
      else if c = '\\' then nextEscaped? rest
      else some (c, rest)

/-- The characters with an escape of one letter. -/
def shortened : List Char := ['"', '\\', '\n', '\r', '\t', Char.ofNat 8, Char.ofNat 12]

section Characters

variable {c d : Char} {x y : List Char}

theorem escape_eq_unit (hShort : c ∉ shortened) (hControl : c.toNat < 32) :
    escape c = ['\\', 'u', '0', '0', hexDigit (c.toNat / 16), hexDigit (c.toNat % 16)] := by
  simp only [shortened, List.mem_cons, List.not_mem_nil, or_false, not_or] at hShort
  simp only [escape, hShort, if_false, hControl, if_true]

theorem escape_eq_self (hShort : c ∉ shortened) (hControl : ¬ c.toNat < 32) : escape c = [c] := by
  simp only [shortened, List.mem_cons, List.not_mem_nil, or_false, not_or] at hShort
  simp only [escape, hShort, if_false, hControl]

/-- What is written for a character is read as that character, whatever stands behind it. -/
theorem next?_escape (c : Char) (x : List Char) : next? (escape c ++ x) = some (c, x) := by
  by_cases hShort : c ∈ shortened
  · simp only [shortened, List.mem_cons, List.not_mem_nil, or_false] at hShort
    rcases hShort with rfl | rfl | rfl | rfl | rfl | rfl | rfl <;> rfl
  · by_cases hControl : c.toNat < 32
    · have hHigh : c.toNat / 16 < 16 := by omega
      have hLow : c.toNat % 16 < 16 := by omega
      have hCode : 16 * (c.toNat / 16) + c.toNat % 16 = c.toNat := by omega
      rw [escape_eq_unit hShort hControl]
      simp [next?, nextEscaped?, hexValue?_hexDigit hHigh, hexValue?_hexDigit hLow, hCode]
    · rw [escape_eq_self hShort hControl, List.singleton_append, next?, if_neg, if_neg]
      · rintro rfl
        exact hShort (by decide)
      · rintro rfl
        exact hShort (by decide)

theorem escape_append_inj (h : escape c ++ x = escape d ++ y) : c = d ∧ x = y := by
  have hNext := congrArg next? h
  rw [next?_escape, next?_escape, Option.some.injEq, Prod.mk.injEq] at hNext
  exact hNext

theorem escape_append_ne (c : Char) (x y : List Char) : escape c ++ x ≠ '"' :: y := by
  intro h
  have hNext := congrArg next? h
  rw [next?_escape] at hNext
  cases hNext

end Characters

theorem escapeAll_cons (c : Char) (cs : List Char) :
    escapeAll (c :: cs) = escape c ++ escapeAll cs :=
  List.flatMap_cons

/-- A text has one way to be a written string, the quote that ends it and a rest. -/
theorem escapeAll_append_inj :
    ∀ {a b x y : List Char}, escapeAll a ++ '"' :: x = escapeAll b ++ '"' :: y → a = b ∧ x = y
  | [], [], x, y, h => ⟨rfl, (List.cons.inj h).2⟩
  | [], d :: b, x, y, h => by
      rw [escapeAll_cons, List.append_assoc] at h
      exact absurd h.symm (escape_append_ne d _ x)
  | c :: a, [], x, y, h => by
      rw [escapeAll_cons, List.append_assoc] at h
      exact absurd h (escape_append_ne c _ y)
  | c :: a, d :: b, x, y, h => by
      rw [escapeAll_cons, escapeAll_cons, List.append_assoc, List.append_assoc] at h
      obtain ⟨rfl, hRest⟩ := escape_append_inj h
      obtain ⟨rfl, rfl⟩ := escapeAll_append_inj hRest
      exact ⟨rfl, rfl⟩

end Quoted

namespace Unicode

variable {code : Nat}

/-- The capitals are the first run, and the others begin behind the basic characters. -/
theorem exists_foldingRuns_eq_cons :
    ∃ others, foldingRuns = ⟨0x41, 26, 1, 32⟩ :: others ∧ ∀ run ∈ others, 0xB5 ≤ run.first :=
  ⟨_, rfl, by decide +kernel⟩

theorem FoldingRun.has_eq_false_of_lt {run : FoldingRun} (h : code < run.first) :
    run.has code = false := by
  have hFirst : ¬ run.first ≤ code := Nat.not_le_of_lt h
  simp only [has, hFirst, decide_false, Bool.false_and]

/-- Capitals are sent to small letters, and other basic characters to themselves. -/
theorem foldCode_of_lt (h : code < 0xB5) :
    foldCode code = if 65 ≤ code ∧ code ≤ 90 then code + 32 else code := by
  obtain ⟨others, hRuns, hFirst⟩ := exists_foldingRuns_eq_cons
  have hOthers : (others.find? fun run => run.has code) = none := by
    rw [List.find?_eq_none]
    intro run hRun
    rw [FoldingRun.has_eq_false_of_lt (Nat.lt_of_lt_of_le h (hFirst run hRun))]
    exact Bool.false_ne_true
  have hCapital : FoldingRun.has ⟨0x41, 26, 1, 32⟩ code = decide (65 ≤ code ∧ code ≤ 90) := by
    rw [Bool.eq_iff_iff]
    simp only [FoldingRun.has, Nat.mod_one, beq_self_eq_true, Bool.and_true, Bool.and_eq_true,
      decide_eq_true_eq]
    omega
  by_cases hRange : 65 ≤ code ∧ code ≤ 90
  · simp only [foldCode, hRuns, List.find?_cons, hCapital, hRange, decide_true, and_self, if_true]
    omega
  · simp only [foldCode, hRuns, List.find?_cons, hCapital, hRange, decide_false, hOthers, if_false]

theorem foldCode_longS : foldCode 0x17F = 0x73 := by
  decide +kernel

theorem foldCode_of_isBlank {c : Char} (h : isBlank c = true) : foldCode c.toNat = c.toNat := by
  have hFar : ∀ code ∈ [0x1680, 0x2028, 0x2029, 0x202F, 0x205F, 0x3000] ++
      List.range' 0x2000 11, foldCode code = code := by
    decide +kernel
  by_cases hNear : c.toNat < 0xB5
  · simp only [isBlank, Bool.or_eq_true, Bool.and_eq_true, decide_eq_true_eq, beq_iff_eq] at h
    rw [foldCode_of_lt hNear, if_neg (by omega)]
  · refine hFar _ ?_
    simp only [isBlank, Bool.or_eq_true, Bool.and_eq_true, decide_eq_true_eq, beq_iff_eq] at h
    simp only [List.mem_append, List.mem_cons, List.not_mem_nil, or_false, List.mem_range'_1]
    omega

end Unicode

end DataContract
