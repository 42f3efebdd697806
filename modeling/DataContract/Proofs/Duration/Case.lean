import DataContract.Proofs.Duration.Sum
import DataContract.Proofs.Text
import Mathlib.Data.List.Forall2
/-!
# Durations in other letters

The case of letters does not matter for the shape of a text: what simple case folding sends
to one text is written with one sign and with groups that have the same digits and, up to
case, the same units.  The seconds of a unit are looked up under lower case, which leaves the
long letter s as it is.  So a word with that letter has the shape of a day or an hour and
counts as a minute.

**Results.**
* `Written.folded_eq`: texts of one folding have one sign and the same groups up to case.
* `toInt_unitSeconds`: what a unit counts, the long letter included.
* `read_eq_of_folding_eq`: where no day or hour is written with the long letter, texts of one
  folding are read alike.
* `read_longS_ne`: `1dayſ` is read as a minute.
-/

namespace DataContract
namespace Duration

open Unicode

/-- The characters of durations. -/
def isWritten (c : Char) : Bool :=
  isBlank c || c.isDigit || isUnitLetter c || c == '+' || c == '-'

/-- Simple case folding of a text. -/
def folding (text : List Char) : List Nat := text.map fun c => foldCode c.toNat

section Letters

variable {c : Char}

theorem toNat_toLower_of_isUpper (h : c.isUpper = true) : c.toLower.toNat = c.toNat + 32 := by
  have hRange := isUpper_iff.mp h
  have hValid : c.val ≥ 'A'.val ∧ c.val ≤ 'Z'.val :=
    ⟨UInt32.le_iff_toNat_le.mpr hRange.1, UInt32.le_iff_toNat_le.mpr hRange.2⟩
  have hLower : c.toLower.val = c.val + ('a'.val - 'A'.val) := congrArg Char.val (dif_pos hValid)
  have hSum : (c.val + ('a'.val - 'A'.val)).toNat = (c.toNat + 32) % 4294967296 := by
    rw [UInt32.toNat_add]
    rfl
  show c.toLower.val.toNat = _
  rw [hLower, hSum]
  omega

/-- Only letters of units are changed. -/
theorem foldLetter_eq_self (h : isUnitLetter c = false) : foldLetter c = c := by
  have hUpper : c.isUpper = false := by
    rw [← Bool.not_eq_true]
    intro hUpper
    have hLetter : isUnitLetter c = true :=
      isUnitLetter_iff.mpr (Or.inr (Bool.or_eq_true_iff.mpr (Or.inl hUpper)))
    rw [h] at hLetter
    cases hLetter
  have hLong : c ≠ 'ſ' := by
    rintro rfl
    cases h
  rw [foldLetter_of_ne hLong, toLower_eq_self hUpper]

theorem foldLetter_of_isDigit (h : c.isDigit = true) : foldLetter c = c :=
  foldLetter_eq_self (not_isUnitLetter_of_isDigit h)

theorem foldLetter_of_isBlank (h : isBlank c = true) : foldLetter c = c :=
  foldLetter_eq_self (not_isUnitLetter_of_isBlank h)

/-- Small letters are not changed any further. -/
theorem foldLetter_of_isLower (h : c.isLower = true) : foldLetter c = c := by
  have hRange := isLower_iff.mp h
  have hUpper : c.isUpper = false := by
    rw [← Bool.not_eq_true, isUpper_iff]
    omega
  have hLong : c ≠ 'ſ' := by
    rintro rfl
    cases h
  rw [foldLetter_of_ne hLong, toLower_eq_self hUpper]

theorem foldCode_of_isUnitLetter (h : isUnitLetter c = true) :
    foldCode c.toNat = (foldLetter c).toNat := by
  rcases isUnitLetter_iff.mp h with hLong | hAlpha
  · obtain rfl : c = 'ſ' := Char.toNat_inj.mp hLong
    exact foldCode_longS
  · have hRange := isAlpha_iff.mp hAlpha
    have hNe : c ≠ 'ſ' := by
      rintro rfl
      cases hAlpha
    rw [foldCode_of_lt (by omega), foldLetter_of_ne hNe]
    cases hUpper : c.isUpper with
    | true => rw [if_pos (isUpper_iff.mp hUpper), toNat_toLower_of_isUpper hUpper]
    | false =>
        have hOutside : ¬ (65 ≤ c.toNat ∧ c.toNat ≤ 90) := by
          rw [← isUpper_iff, hUpper]
          exact Bool.false_ne_true
        rw [if_neg hOutside, toLower_eq_self hUpper]

/-- On the characters of durations, comparing letters without case is case folding. -/
theorem foldCode_of_isWritten (h : isWritten c = true) :
    foldCode c.toNat = (foldLetter c).toNat := by
  simp only [isWritten, Bool.or_eq_true, beq_iff_eq] at h
  rcases h with (((hBlank | hDigit) | hLetter) | rfl) | rfl
  · rw [foldCode_of_isBlank hBlank, foldLetter_of_isBlank hBlank]
  · have hRange := isDigit_iff.mp hDigit
    rw [foldCode_of_lt (by omega), if_neg (by omega), foldLetter_of_isDigit hDigit]
  · exact foldCode_of_isUnitLetter hLetter
  · decide +kernel
  · decide +kernel

theorem folding_eq {text : List Char} (h : ∀ c ∈ text, isWritten c = true) :
    folding text = (text.map foldLetter).map Char.toNat := by
  rw [folding, List.map_map]
  exact List.map_congr_left fun c hc => foldCode_of_isWritten (h c hc)

theorem map_foldLetter_eq_self {cs : List Char} (h : ∀ c ∈ cs, foldLetter c = c) :
    cs.map foldLetter = cs :=
  (List.map_congr_left h).trans (List.map_id cs)

end Letters

namespace Group

/-- The group with its unit in small letters. -/
def folded (g : Group) : Group := ⟨g.digits, g.gap, g.unit.map foldLetter, g.after⟩

variable {g : Group}

theorem Spelled.isWritten_of_mem (h : g.Spelled foldLetter) : ∀ c ∈ g.text, isWritten c = true := by
  intro c hc
  simp only [text, List.mem_append] at hc
  rcases hc with hDigit | hGap | hUnit | hAfter
  · simp [isWritten, h.isDigit_of_mem c hDigit]
  · simp [isWritten, h.isBlank_of_mem_gap c hGap]
  · simp [isWritten, h.isUnitLetter_of_mem c hUnit]
  · simp [isWritten, h.isBlank_of_mem_after c hAfter]

theorem Spelled.map_foldLetter_folded (h : g.Spelled foldLetter) :
    (g.unit.map foldLetter).map foldLetter = g.unit.map foldLetter := by
  refine map_foldLetter_eq_self fun c hc => ?_
  have hLower := (isLower_of_mem_unitTable _ h.unit_mem).2
  rw [String.toList_ofList, List.all_eq_true] at hLower
  exact foldLetter_of_isLower (hLower c hc)

theorem Spelled.folded (h : g.Spelled foldLetter) : g.folded.Spelled foldLetter where
  digits_ne_nil := h.digits_ne_nil
  isDigit_of_mem := h.isDigit_of_mem
  isBlank_of_mem_gap := h.isBlank_of_mem_gap
  unit_mem := by
    rw [Group.folded, h.map_foldLetter_folded]
    exact h.unit_mem
  isBlank_of_mem_after := h.isBlank_of_mem_after

theorem Spelled.map_foldLetter_text (h : g.Spelled foldLetter) :
    g.text.map foldLetter = g.folded.text := by
  have hDigits : g.digits.map foldLetter = g.digits :=
    map_foldLetter_eq_self fun c hc => foldLetter_of_isDigit (h.isDigit_of_mem c hc)
  have hGap : g.gap.map foldLetter = g.gap :=
    map_foldLetter_eq_self fun c hc => foldLetter_of_isBlank (h.isBlank_of_mem_gap c hc)
  have hAfter : g.after.map foldLetter = g.after :=
    map_foldLetter_eq_self fun c hc => foldLetter_of_isBlank (h.isBlank_of_mem_after c hc)
  simp only [text, Group.folded, List.map_append, hDigits, hGap, hAfter]

end Group

namespace Written

variable {s t : List Char} {sign sign' : Option Char} {groups groups' : List Group}

theorem isWritten_of_mem (h : Written foldLetter s sign groups) : ∀ c ∈ s, isWritten c = true := by
  obtain ⟨before, between, hBefore, hBetween, rfl⟩ := h.text_eq
  intro c hc
  simp only [List.mem_append, Option.mem_toList, List.mem_flatMap] at hc
  rcases hc with hBlank | hSign | hBlank | ⟨g, hg, hText⟩
  · simp [isWritten, hBefore c hBlank]
  · rcases h.isSign_of_mem c hSign with rfl | rfl <;> rfl
  · simp [isWritten, hBetween c hBlank]
  · exact (h.spelled_of_mem g hg).isWritten_of_mem c hText

/-- Written texts of one folding differ in the case of letters only. -/
theorem map_foldLetter_eq (h : Written foldLetter s sign groups)
    (h' : Written foldLetter t sign' groups') (hFolding : folding s = folding t) :
    s.map foldLetter = t.map foldLetter := by
  rw [folding_eq h.isWritten_of_mem, folding_eq h'.isWritten_of_mem] at hFolding
  exact List.map_injective_iff.mpr (fun _ _ hEq => Char.toNat_inj.mp hEq) hFolding

/-- In small letters a text is written as before. -/
theorem folded (h : Written foldLetter s sign groups) :
    Written foldLetter (s.map foldLetter) sign (groups.map Group.folded) where
  isSign_of_mem := h.isSign_of_mem
  spelled_of_mem := by
    intro _ hMem
    obtain ⟨g, hg, rfl⟩ := List.mem_map.mp hMem
    exact (h.spelled_of_mem g hg).folded
  text_eq := by
    obtain ⟨before, between, hBefore, hBetween, rfl⟩ := h.text_eq
    refine ⟨before, between, hBefore, hBetween, ?_⟩
    have hSign : sign.toList.map foldLetter = sign.toList := by
      refine map_foldLetter_eq_self fun c hc => ?_
      rcases h.isSign_of_mem c (Option.mem_toList.mp hc) with rfl | rfl <;> rfl
    have hGroups : (groups.flatMap Group.text).map foldLetter =
        (groups.map Group.folded).flatMap Group.text := by
      rw [List.map_flatMap, List.flatMap_map]
      exact List.flatMap_congr fun g hg => (h.spelled_of_mem g hg).map_foldLetter_text
    have hBefore' : before.map foldLetter = before :=
      map_foldLetter_eq_self fun c hc => foldLetter_of_isBlank (hBefore c hc)
    have hBetween' : between.map foldLetter = between :=
      map_foldLetter_eq_self fun c hc => foldLetter_of_isBlank (hBetween c hc)
    simp only [List.map_append, hSign, hGroups, hBefore', hBetween']

/-- Texts of one folding have one sign, and the same groups up to case. -/
theorem folded_eq (h : Written foldLetter s sign groups) (h' : Written foldLetter t sign' groups')
    (hFolding : folding s = folding t) :
    sign = sign' ∧ groups.map Group.folded = groups'.map Group.folded := by
  have hText := h.folded
  rw [h.map_foldLetter_eq h' hFolding] at hText
  exact hText.eq_of_written h'.folded

end Written

section Units

variable {unit : List Char}

/-- The seconds of a unit as the table of units has them, whatever the case of its letters. -/
def unitValue (unit : List Char) : Nat :=
  (unitTable.lookup (String.ofList (unit.map foldLetter))).getD 0

theorem not_mem_of_mem_words : ∀ word ∈ dayWords ++ hourWords, 'ſ' ∉ word.toList := by
  decide

/-- A unit counts as the table says, unless it is written with the long letter s: then it
counts as a minute. -/
theorem toInt_unitSeconds (h : String.ofList (unit.map foldLetter) ∈ unitTable.map Prod.fst) :
    (unitSeconds unit).toInt = if 'ſ' ∈ unit then 60 else (unitValue unit : Int) := by
  by_cases hLong : 'ſ' ∈ unit
  · -- Lower case keeps the long letter, so that no word for a day or an hour is met.
    have hKept : 'ſ' ∈ (String.ofList (unit.map Char.toLower)).toList := by
      rw [String.toList_ofList]
      exact List.mem_map.mpr ⟨'ſ', hLong, by decide⟩
    have hOther : String.ofList (unit.map Char.toLower) ∉ dayWords ++ hourWords :=
      fun hMem => not_mem_of_mem_words _ hMem hKept
    rw [List.mem_append, not_or, ← List.contains_iff_mem, ← List.contains_iff_mem] at hOther
    rw [unitSeconds, if_neg hOther.1, if_neg hOther.2, if_pos hLong]
    rfl
  · rw [if_neg hLong, unitValue]
    rw [map_foldLetter hLong] at h ⊢
    exact (unitSeconds_eq h).2

/-- The unit counts as the table says exactly when the long letter does no harm. -/
theorem toInt_unitSeconds_eq_unitValue_iff
    (h : String.ofList (unit.map foldLetter) ∈ unitTable.map Prod.fst) :
    (unitSeconds unit).toInt = unitValue unit ↔ ('ſ' ∈ unit → unitValue unit = 60) := by
  rw [toInt_unitSeconds h]
  by_cases hLong : 'ſ' ∈ unit
  · simp only [hLong, if_true, forall_const]
    omega
  · simp only [hLong, if_false, false_imp_iff]

end Units

section Readings

variable {s t : String} {sign : Option Char} {groups groups' : List Group}

/-- The sum only looks at the digits of the groups and at what their units count. -/
theorem sum?_congr (h : List.Forall₂ (fun g g' : Group =>
      g.digits = g'.digits ∧ unitSeconds g.unit = unitSeconds g'.unit) groups groups') :
    sum? (groups.map Group.amount) = sum? (groups'.map Group.amount) := by
  rw [sum?, sum?]
  generalize (0 : Int64) = start
  induction h generalizing start with
  | nil => rfl
  | cons hHead hTail ih =>
      obtain ⟨hDigits, hUnits⟩ := hHead
      rw [List.map_cons, List.map_cons, List.foldlM_cons, List.foldlM_cons]
      simp only [addAmount, Group.amount, hDigits, hUnits]
      exact bind_congr fun next => ih next

/-- Texts with one sign and sums that agree are read alike. -/
theorem read_congr (h : Written foldLetter s.toList sign groups)
    (h' : Written foldLetter t.toList sign groups')
    (hSum : sum? (groups.map Group.amount) = sum? (groups'.map Group.amount)) :
    read s = read t := by
  have hResolve : resolve s = resolve t := by
    cases hTotal : sum? (groups.map Group.amount) with
    | none => rw [resolve_of_sum_eq_none h hTotal, resolve_of_sum_eq_none h' (hSum ▸ hTotal)]
    | some total =>
        rw [resolve_of_sum_eq_some h hTotal, resolve_of_sum_eq_some h' (hSum ▸ hTotal)]
  cases hOutcome : resolve s with
  | error fault =>
      rw [read_of_resolve_eq_error hOutcome, read_of_resolve_eq_error (hResolve ▸ hOutcome)]
  | ok n => rw [read_of_resolve_eq_ok hOutcome, read_of_resolve_eq_ok (hResolve ▸ hOutcome)]

theorem read_ne_malformed (h : Written foldLetter s.toList sign groups) :
    read s ≠ .error .malformed := by
  have hResolve : resolve s ≠ .error .malformed := by
    cases hTotal : sum? (groups.map Group.amount) with
    | none =>
        rw [resolve_of_sum_eq_none h hTotal]
        decide
    | some total =>
        rw [resolve_of_sum_eq_some h hTotal]
        split <;> simp
  cases hOutcome : resolve s with
  | error fault =>
      rw [read_of_resolve_eq_error hOutcome]
      rintro ⟨⟩
      exact hResolve hOutcome
  | ok n =>
      rw [read_of_resolve_eq_ok hOutcome]
      simp

theorem exists_written_of_read (h : read s ≠ .error .malformed) :
    ∃ sign groups, Written foldLetter s.toList sign groups := by
  by_contra hNone
  exact h (read_of_resolve_eq_error (resolve_of_not_written hNone))

/-- Texts of one folding that are not malformed have one sign and, up to case, the same
groups.  A group counts as the table of units says exactly when it is no day and no hour that
is written with the long letter s.  Where no group is one, the texts are read alike. -/
theorem read_eq_of_folding_eq (hFolding : folding s.toList = folding t.toList)
    (hs : read s ≠ .error .malformed) (ht : read t ≠ .error .malformed) :
    ∃ sign groups groups',
      Written foldLetter s.toList sign groups ∧ Written foldLetter t.toList sign groups' ∧
      List.Forall₂ (fun g g' : Group => g.digits = g'.digits ∧ unitValue g.unit = unitValue g'.unit)
        groups groups' ∧
      (∀ g ∈ groups ++ groups', (unitSeconds g.unit).toInt = unitValue g.unit ↔
        ('ſ' ∈ g.unit → unitValue g.unit = 60)) ∧
      ((∀ g ∈ groups ++ groups', 'ſ' ∈ g.unit → unitValue g.unit = 60) → read s = read t) := by
  obtain ⟨sign, groups, h⟩ := exists_written_of_read hs
  obtain ⟨sign', groups', h'⟩ := exists_written_of_read ht
  obtain ⟨rfl, hGroups⟩ := h.folded_eq h' hFolding
  have hSpelled : ∀ g ∈ groups ++ groups', g.Spelled foldLetter :=
    List.forall_mem_append.mpr ⟨h.spelled_of_mem, h'.spelled_of_mem⟩
  have hPairs : List.Forall₂ (fun g g' : Group => g.folded = g'.folded) groups groups' := by
    rw [← List.forall₂_eq_eq_eq, List.forall₂_map_left_iff, List.forall₂_map_right_iff] at hGroups
    exact hGroups
  have hAlike : List.Forall₂ (fun g g' : Group =>
      g.digits = g'.digits ∧ unitValue g.unit = unitValue g'.unit) groups groups' := by
    refine hPairs.imp fun g g' hEq => ?_
    rw [Group.folded, Group.folded, Group.mk.injEq] at hEq
    obtain ⟨hDigits, -, hUnit, -⟩ := hEq
    exact ⟨hDigits, by rw [unitValue, unitValue, hUnit]⟩
  have hCounts : ∀ g ∈ groups ++ groups', (unitSeconds g.unit).toInt = unitValue g.unit ↔
      ('ſ' ∈ g.unit → unitValue g.unit = 60) :=
    fun g hg => toInt_unitSeconds_eq_unitValue_iff (hSpelled g hg).unit_mem
  refine ⟨sign, groups, groups', h, h', hAlike, hCounts, fun hShort => ?_⟩
  refine read_congr h h' (sum?_congr ?_)
  rw [List.forall₂_iff_get] at hAlike ⊢
  refine ⟨hAlike.1, fun i hi hj => ?_⟩
  obtain ⟨hDigits, hUnits⟩ := hAlike.2 i hi hj
  have hg : groups.get ⟨i, hi⟩ ∈ groups ++ groups' :=
    List.mem_append_left groups' (List.get_mem groups _)
  have hg' : groups'.get ⟨i, hj⟩ ∈ groups ++ groups' :=
    List.mem_append_right groups (List.get_mem groups' _)
  refine ⟨hDigits, Int64.toInt_inj.mp ?_⟩
  rw [(hCounts _ hg).mpr (hShort _ hg), (hCounts _ hg').mpr (hShort _ hg'), hUnits]

/-- A minute may be written with the long letter s. -/
theorem read_minutes_longS :
    (folding "- 1 Day 3MINUTES".toList = folding "- 1 dAY 3minuteſ".toList ∧
        read "- 1 Day 3MINUTES" ≠ .error .malformed ∧
        read "- 1 dAY 3minuteſ" ≠ .error .malformed) ∧
      read "- 1 Day 3MINUTES" = read "- 1 dAY 3minuteſ" := by
  have hSign : ∀ c ∈ some '-', c = '+' ∨ c = '-' := fun _ hc => Or.inr (Option.some.inj hc).symm
  have hCapital : Written foldLetter "- 1 Day 3MINUTES".toList (some '-')
      [⟨['1'], [' '], ['D', 'a', 'y'], [' ']⟩,
        ⟨['3'], [], ['M', 'I', 'N', 'U', 'T', 'E', 'S'], []⟩] :=
    ⟨hSign, by decide, [], [' '], List.forall_mem_nil _, List.forall_mem_singleton.mpr rfl, rfl⟩
  have hLong : Written foldLetter "- 1 dAY 3minuteſ".toList (some '-')
      [⟨['1'], [' '], ['d', 'A', 'Y'], [' ']⟩,
        ⟨['3'], [], ['m', 'i', 'n', 'u', 't', 'e', 'ſ'], []⟩] :=
    ⟨hSign, by decide, [], [' '], List.forall_mem_nil _, List.forall_mem_singleton.mpr rfl, rfl⟩
  have hFolding : folding "- 1 Day 3MINUTES".toList = folding "- 1 dAY 3minuteſ".toList := by
    rw [folding_eq hCapital.isWritten_of_mem, folding_eq hLong.isWritten_of_mem]
    decide
  have hFirst := read_ne_malformed hCapital
  have hSecond := read_ne_malformed hLong
  obtain ⟨sign, groups, groups', h, h', -, -, hRead⟩ :=
    read_eq_of_folding_eq hFolding hFirst hSecond
  obtain ⟨-, rfl⟩ := h.eq_of_written hCapital
  obtain ⟨-, rfl⟩ := h'.eq_of_written hLong
  exact ⟨⟨hFolding, hFirst, hSecond⟩, hRead (by decide)⟩

/-- A day with the long letter s has the folding of a day, and is read as a minute. -/
theorem read_longS_ne :
    folding "1days".toList = folding "1dayſ".toList ∧
      (∃ d, read "1days" = .ok d ∧ d.seconds = 86400) ∧
      ∃ d, read "1dayſ" = .ok d ∧ d.seconds = 60 := by
  have hSign : ∀ c ∈ none, c = '+' ∨ c = '-' := fun c hc => (Option.not_mem_none c hc).elim
  have hDay : Written foldLetter "1days".toList none [⟨['1'], [], ['d', 'a', 'y', 's'], []⟩] :=
    ⟨hSign, by decide, [], [], List.forall_mem_nil _, List.forall_mem_nil _, rfl⟩
  have hLong : Written foldLetter "1dayſ".toList none [⟨['1'], [], ['d', 'a', 'y', 'ſ'], []⟩] :=
    ⟨hSign, by decide, [], [], List.forall_mem_nil _, List.forall_mem_nil _, rfl⟩
  refine ⟨?_, ?_, ?_⟩
  · rw [folding_eq hDay.isWritten_of_mem, folding_eq hLong.isWritten_of_mem]
    decide
  · have hSum : sum? ([⟨['1'], [], ['d', 'a', 'y', 's'], []⟩].map Group.amount) = some 86400 := by
      decide
    have hResolve : resolve "1days" = .ok 86400 := by
      rw [resolve_of_sum_eq_some hDay hSum]
      decide
    exact ⟨_, read_of_resolve_eq_ok hResolve, rfl⟩
  · have hSum : sum? ([⟨['1'], [], ['d', 'a', 'y', 'ſ'], []⟩].map Group.amount) = some 60 := by
      decide
    have hResolve : resolve "1dayſ" = .ok 60 := by
      rw [resolve_of_sum_eq_some hLong hSum]
      decide
    exact ⟨_, read_of_resolve_eq_ok hResolve, rfl⟩

end Readings

end Duration
end DataContract
