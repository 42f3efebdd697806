import DataContract.Proofs.Duration.Case
import DataContract.Proofs.Pattern.Language
/-!
# The published pattern of durations

A descriptor shows a pattern for the texts that are durations.  It names the words for units in
small letters, and it is matched like any other pattern, over the positions of a text.  Texts
themselves are read by the grammar, whatever the case of their letters.  Both describe the same
texts up to case: the pattern stands for a language, and the language is the grammar without
a change of letters.

**Results.**
* `isMatch_published_iff`: the pattern is found in the texts that are written in small letters.
* `exists_written_map_iff`: to change letters within their kinds is to compare words after the
  change.
* `patternText_describes_read`: the pattern is found in no malformed text, and in the small
  letters of every other.
-/

namespace DataContract

namespace Duration

open Pattern

/-- Any number of blanks. -/
def blanksExpr : Expr := .repeated 0 none (.chars .blank)

/-- A sign or nothing. -/
def signExpr : Expr :=
  .repeated 0 (some 1) (.chars (.union (.single '+') (.union (.single '-') .none)))

/-- A word for a unit. -/
def unitExpr : Expr :=
  .choice ((unitWords.map String.toList).map fun word => .sequence (word.map .single))

/-- Digits, blanks, a unit and blanks. -/
def amountExpr : Expr :=
  .sequence [.repeated 1 none (.chars (.range '0' '9')), blanksExpr, unitExpr, blanksExpr]

/-- The parts of the pattern between the start of a text and its end. -/
def publishedParts : List Expr :=
  [blanksExpr, signExpr, blanksExpr, .repeated 0 none amountExpr]

set_option maxRecDepth 8000 in
theorem compile_patternText :
    Readers.standard.compile patternText =
      some (.sequence (.look .textStart :: (publishedParts ++ [.look .textEnd]))) := by
  rfl

/-- The pattern that is published for durations. -/
def published : Pattern .standard := ⟨patternText, _, compile_patternText⟩

section Parts

variable {run : List Char}

theorem mem_language_blanksExpr :
    run ∈ blanksExpr.language ↔ ∀ c ∈ run, isBlank c = true :=
  Expr.mem_language_repeated_chars.trans (and_iff_right (Nat.zero_le _))

theorem mem_language_digits :
    run ∈ (Expr.repeated 1 none (.chars (.range '0' '9'))).language ↔
      run ≠ [] ∧ ∀ c ∈ run, c.isDigit = true := by
  have hRange (c : Char) : (CharClass.range '0' '9').contains c = true ↔ c.isDigit = true := by
    rw [isDigit_iff, CharClass.range, CharClass.contains, Unicode.inRanges]
    simp
  rw [Expr.mem_language_repeated_chars, Nat.one_le_iff_ne_zero, Ne, List.length_eq_zero_iff]
  simp only [hRange]

theorem mem_language_signExpr :
    run ∈ signExpr.language ↔
      ∃ sign : Option Char, (∀ c ∈ sign, c = '+' ∨ c = '-') ∧ run = sign.toList := by
  have hSign (c : Char) :
      (CharClass.union (.single '+') (.union (.single '-') .none)).contains c = true ↔
        c = '+' ∨ c = '-' := by
    simp only [CharClass.contains, Bool.or_eq_true, CharClass.contains_single_iff]
    simp [CharClass.none, CharClass.contains, Unicode.inRanges]
  rw [signExpr, Expr.mem_language_optional, Expr.mem_language_chars]
  constructor
  · rintro (rfl | ⟨c, rfl, hc⟩)
    · exact ⟨none, fun c hc => (Option.not_mem_none c hc).elim, rfl⟩
    · refine ⟨some c, fun d hd => ?_, rfl⟩
      rw [← Option.some.inj hd]
      exact (hSign c).mp hc
  · rintro ⟨sign, hKind, rfl⟩
    cases sign with
    | none => exact Or.inl rfl
    | some c => exact Or.inr ⟨c, rfl, (hSign c).mpr (hKind c rfl)⟩

theorem mem_language_unitExpr :
    run ∈ unitExpr.language ↔ String.ofList (run.map id) ∈ unitTable.map Prod.fst := by
  rw [unitExpr, Expr.mem_language_choice, List.map_id, ← mem_unitWords_iff]
  constructor
  · rintro ⟨e, he, hRun⟩
    obtain ⟨_, hLetters, rfl⟩ := List.mem_map.mp he
    obtain ⟨word, hWord, rfl⟩ := List.mem_map.mp hLetters
    rw [Expr.mem_language_word.mp hRun, String.ofList_toList]
    exact hWord
  · intro hWord
    refine ⟨_, List.mem_map_of_mem (List.mem_map_of_mem hWord), ?_⟩
    exact Expr.mem_language_word.mpr String.toList_ofList.symm

/-- What an amount takes is a group in small letters. -/
theorem mem_language_amountExpr :
    run ∈ amountExpr.language ↔ ∃ g : Group, g.Spelled id ∧ run = g.text := by
  simp only [amountExpr, Expr.language_sequence, List.map_cons, List.map_nil, List.prod_cons,
    List.prod_nil, mul_one, Language.mem_mul, mem_language_digits, mem_language_blanksExpr,
    mem_language_unitExpr]
  constructor
  · rintro ⟨digits, ⟨hNonempty, hDigits⟩, _, ⟨gap, hGap, _, ⟨word, hWord, after, hAfter, rfl⟩,
      rfl⟩, rfl⟩
    exact ⟨⟨digits, gap, word, after⟩, ⟨hNonempty, hDigits, hGap, hWord, hAfter⟩, rfl⟩
  · rintro ⟨g, h, rfl⟩
    exact ⟨g.digits, ⟨h.digits_ne_nil, h.isDigit_of_mem⟩, _, ⟨g.gap, h.isBlank_of_mem_gap, _,
      ⟨g.unit, h.unit_mem, g.after, h.isBlank_of_mem_after, rfl⟩, rfl⟩, rfl⟩

theorem exists_groups_of_parts {parts : List (List Char)}
    (h : ∀ part ∈ parts, ∃ g : Group, g.Spelled id ∧ part = g.text) :
    ∃ groups : List Group, (∀ g ∈ groups, g.Spelled id) ∧
      parts.flatten = groups.flatMap Group.text := by
  induction parts with
  | nil => exact ⟨[], List.forall_mem_nil _, rfl⟩
  | cons part parts ih =>
      rw [List.forall_mem_cons] at h
      obtain ⟨⟨g, hg, rfl⟩, hParts⟩ := h
      obtain ⟨groups, hGroups, hText⟩ := ih hParts
      refine ⟨g :: groups, List.forall_mem_cons.mpr ⟨hg, hGroups⟩, ?_⟩
      rw [List.flatten_cons, List.flatMap_cons, hText]

theorem mem_language_amounts :
    run ∈ (Expr.repeated 0 none amountExpr).language ↔
      ∃ groups : List Group, (∀ g ∈ groups, g.Spelled id) ∧ run = groups.flatMap Group.text := by
  rw [Expr.language_repeated_none, Language.mem_kstar]
  simp only [mem_language_amountExpr]
  constructor
  · rintro ⟨parts, rfl, hParts⟩
    exact exists_groups_of_parts hParts
  · rintro ⟨groups, hGroups, rfl⟩
    refine ⟨groups.map Group.text, rfl, ?_⟩
    rintro _ hPart
    obtain ⟨g, hg, rfl⟩ := List.mem_map.mp hPart
    exact ⟨g, hGroups g hg, rfl⟩

end Parts

/-- The pattern is found in the texts that are written in small letters. -/
theorem isMatch_published_iff {text : String} :
    published.isMatch text = true ↔ ∃ sign groups, Written id text.toList sign groups := by
  rw [Readers.standard_lawful.isMatch_iff]
  refine (Expr.occursIn_iff_mem_language (by decide)).trans ?_
  simp only [publishedParts, List.map_cons, List.map_nil, List.prod_cons, List.prod_nil, mul_one,
    Language.mem_mul, mem_language_blanksExpr, mem_language_signExpr, mem_language_amounts]
  constructor
  · rintro ⟨before, hBefore, _, ⟨_, ⟨sign, hSign, rfl⟩, _, ⟨between, hBetween, _,
      ⟨groups, hGroups, rfl⟩, rfl⟩, rfl⟩, hText⟩
    exact ⟨sign, groups, hSign, hGroups, before, between, hBefore, hBetween, hText.symm⟩
  · rintro ⟨sign, groups, hSign, hGroups, before, between, hBefore, hBetween, hText⟩
    exact ⟨before, hBefore, _, ⟨_, ⟨sign, hSign, rfl⟩, _, ⟨between, hBetween, _,
      ⟨groups, hGroups, rfl⟩, rfl⟩, rfl⟩, hText.symm⟩

/-- A change of characters that leaves digits, blanks and signs among themselves. -/
structure KeepsKinds (change : Char → Char) : Prop where
  isDigit_eq : ∀ c, (change c).isDigit = c.isDigit
  isBlank_eq : ∀ c, isBlank (change c) = isBlank c
  isSign_iff : ∀ c, (change c = '+' ∨ change c = '-') ↔ (c = '+' ∨ c = '-')

/-- Only capitals are changed to small letters, and neither are digits, blanks or signs. -/
theorem keepsKinds_toLower : KeepsKinds Char.toLower := by
  have hCapital {c : Char} (h : c.isUpper = true) :
      isUnitLetter c = true ∧ isUnitLetter c.toLower = true := by
    have hRange := isUpper_iff.mp h
    have hCode := toNat_toLower_of_isUpper h
    simp only [isUnitLetter_iff, isAlpha_iff]
    omega
  refine ⟨fun c => ?_, fun c => ?_, fun c => ?_⟩
  all_goals
    cases h : c.isUpper with
    | false => rw [toLower_eq_self h]
    | true => ?_
  · rw [not_isDigit_of_isUnitLetter (hCapital h).1, not_isDigit_of_isUnitLetter (hCapital h).2]
  · rw [not_isBlank_of_isUnitLetter (hCapital h).1, not_isBlank_of_isUnitLetter (hCapital h).2]
  · refine iff_of_false ?_ ?_
    · rintro (hSign | hSign) <;> cases hSign ▸ (hCapital h).2
    · rintro (rfl | rfl) <;> cases (hCapital h).1

section Changes

variable {change lower : Char → Char}

theorem KeepsKinds.all_map_iff {test : Char → Bool} (h : ∀ c, test (change c) = test c)
    {cs : List Char} :
    (∀ c ∈ cs.map change, test c = true) ↔ ∀ c ∈ cs, test c = true := by
  simp only [List.forall_mem_map, h]

theorem KeepsKinds.isSign_map_iff (h : KeepsKinds change) {sign : Option Char} :
    (∀ c ∈ sign.map change, c = '+' ∨ c = '-') ↔ ∀ c ∈ sign, c = '+' ∨ c = '-' := by
  cases sign with
  | none => simp
  | some c => simp [h.isSign_iff]

theorem exists_sign_of_map_eq {sign' : Option Char} {cs : List Char}
    (h : cs.map change = sign'.toList) :
    ∃ sign : Option Char, sign.map change = sign' ∧ cs = sign.toList := by
  cases sign' with
  | none => exact ⟨none, rfl, List.map_eq_nil_iff.mp h⟩
  | some c' =>
      obtain ⟨c, rfl, rfl⟩ := List.map_eq_singleton_iff.mp h
      exact ⟨some c, rfl, rfl⟩

/-- The group with all its characters changed. -/
def Group.changed (change : Char → Char) (g : Group) : Group :=
  ⟨g.digits.map change, g.gap.map change, g.unit.map change, g.after.map change⟩

theorem Group.text_changed (g : Group) : (g.changed change).text = g.text.map change := by
  simp only [changed, text, List.map_append]

theorem flatMap_text_changed (groups : List Group) :
    (groups.map (Group.changed change)).flatMap Group.text =
      (groups.flatMap Group.text).map change := by
  rw [List.flatMap_map, List.map_flatMap]
  simp only [Group.text_changed]

theorem Group.spelled_changed_iff (h : KeepsKinds change) {g : Group} :
    (g.changed change).Spelled lower ↔ g.Spelled (lower ∘ change) := by
  constructor
  · rintro ⟨hNonempty, hDigits, hGap, hUnit, hAfter⟩
    refine ⟨?_, ?_, ?_, ?_, ?_⟩
    · exact fun hNil => hNonempty (List.map_eq_nil_iff.mpr hNil)
    · exact (KeepsKinds.all_map_iff h.isDigit_eq).mp hDigits
    · exact (KeepsKinds.all_map_iff h.isBlank_eq).mp hGap
    · rw [← List.map_map]
      exact hUnit
    · exact (KeepsKinds.all_map_iff h.isBlank_eq).mp hAfter
  · rintro ⟨hNonempty, hDigits, hGap, hUnit, hAfter⟩
    refine ⟨?_, ?_, ?_, ?_, ?_⟩
    · exact fun hNil => hNonempty (List.map_eq_nil_iff.mp hNil)
    · exact (KeepsKinds.all_map_iff h.isDigit_eq).mpr hDigits
    · exact (KeepsKinds.all_map_iff h.isBlank_eq).mpr hGap
    · rw [← List.map_map] at hUnit
      exact hUnit
    · exact (KeepsKinds.all_map_iff h.isBlank_eq).mpr hAfter

/-- What groups make of a changed text was groups before. -/
theorem exists_changed_of_map_eq {groups : List Group} :
    ∀ {text : List Char}, text.map change = groups.flatMap Group.text →
      ∃ before : List Group, before.map (Group.changed change) = groups ∧
        text = before.flatMap Group.text := by
  induction groups with
  | nil =>
      intro text h
      exact ⟨[], rfl, List.map_eq_nil_iff.mp h⟩
  | cons g groups ih =>
      intro text h
      obtain ⟨digits, gap, unit, after⟩ := g
      simp only [List.flatMap_cons, Group.text, List.append_assoc] at h
      obtain ⟨digits, _, rfl, rfl, hGap⟩ := List.map_eq_append_iff.mp h
      obtain ⟨gap, _, rfl, rfl, hUnit⟩ := List.map_eq_append_iff.mp hGap
      obtain ⟨unit, _, rfl, rfl, hAfter⟩ := List.map_eq_append_iff.mp hUnit
      obtain ⟨after, _, rfl, rfl, hRest⟩ := List.map_eq_append_iff.mp hAfter
      obtain ⟨before, rfl, rfl⟩ := ih hRest
      refine ⟨⟨digits, gap, unit, after⟩ :: before, rfl, ?_⟩
      simp only [List.flatMap_cons, Group.text, List.append_assoc]

/-- To change letters within their kinds is to compare words after the change. -/
theorem exists_written_map_iff (h : KeepsKinds change) {text : List Char} :
    (∃ sign groups, Written lower (text.map change) sign groups) ↔
      ∃ sign groups, Written (lower ∘ change) text sign groups := by
  constructor
  · rintro ⟨sign', groups', hSign, hGroups, before', between', hBefore, hBetween, hText⟩
    obtain ⟨before, _, rfl, rfl, hSigned⟩ := List.map_eq_append_iff.mp hText
    obtain ⟨signs, _, rfl, hSigns, hRest⟩ := List.map_eq_append_iff.mp hSigned
    obtain ⟨between, _, rfl, rfl, hAmounts⟩ := List.map_eq_append_iff.mp hRest
    obtain ⟨groups, rfl, rfl⟩ := exists_changed_of_map_eq hAmounts
    obtain ⟨sign, rfl, rfl⟩ := exists_sign_of_map_eq hSigns
    refine ⟨sign, groups, h.isSign_map_iff.mp hSign, ?_, before, between, ?_, ?_, rfl⟩
    · intro g hg
      exact (Group.spelled_changed_iff h).mp (hGroups _ (List.mem_map_of_mem hg))
    · exact (KeepsKinds.all_map_iff h.isBlank_eq).mp hBefore
    · exact (KeepsKinds.all_map_iff h.isBlank_eq).mp hBetween
  · rintro ⟨sign, groups, hSign, hGroups, before, between, hBefore, hBetween, rfl⟩
    refine ⟨sign.map change, groups.map (Group.changed change), h.isSign_map_iff.mpr hSign, ?_,
      before.map change, between.map change, ?_, ?_, ?_⟩
    · rintro _ hMem
      obtain ⟨g, hg, rfl⟩ := List.mem_map.mp hMem
      exact (Group.spelled_changed_iff h).mpr (hGroups g hg)
    · exact (KeepsKinds.all_map_iff h.isBlank_eq).mpr hBefore
    · exact (KeepsKinds.all_map_iff h.isBlank_eq).mpr hBetween
    · rw [flatMap_text_changed]
      simp only [List.map_append, Option.toList_map]

end Changes

/-- What is written in small letters is written. -/
theorem Written.of_id {text : List Char} {sign : Option Char} {groups : List Group}
    (h : Written id text sign groups) : Written foldLetter text sign groups where
  isSign_of_mem := h.isSign_of_mem
  text_eq := h.text_eq
  spelled_of_mem := fun g hg => by
    have hSpelled := h.spelled_of_mem g hg
    have hLower := (isLower_of_mem_unitTable _ hSpelled.unit_mem).2
    rw [List.map_id, String.toList_ofList, List.all_eq_true] at hLower
    refine hSpelled.of_map_eq ?_
    rw [List.map_id]
    exact map_foldLetter_eq_self fun c hc => foldLetter_of_isLower (hLower c hc)

theorem read_ne_malformed_iff {text : String} :
    read text ≠ .error .malformed ↔ ∃ sign groups, Written foldLetter text.toList sign groups := by
  constructor
  · exact exists_written_of_read
  · rintro ⟨sign, groups, h⟩
    exact read_ne_malformed h

/-- The pattern that is published for durations is a pattern, and it is found in no malformed
text.  Where the long letter s does not occur, a text is not malformed exactly when the pattern
is found in the text in small letters. -/
theorem patternText_describes_read :
    ∃ p : Pattern .standard, Pattern.compile? patternText = some p ∧
      (∀ text, p.isMatch text = true → read text ≠ .error .malformed) ∧
      ∀ text : String, 'ſ' ∉ text.toList →
        (read text ≠ .error .malformed ↔ p.isMatch text.toLower = true) := by
  refine ⟨published, Pattern.compile?_source published, fun text h => ?_, fun text hText => ?_⟩
  · obtain ⟨sign, groups, hWritten⟩ := isMatch_published_iff.mp h
    exact read_ne_malformed hWritten.of_id
  · have hSmall : text.toLower.toList = text.toList.map Char.toLower := String.toList_map
    rw [isMatch_published_iff, hSmall, exists_written_map_iff keepsKinds_toLower,
      read_ne_malformed_iff]
    constructor
    · rintro ⟨sign, groups, h⟩
      exact ⟨sign, groups, h.toLower hText⟩
    · rintro ⟨sign, groups, h⟩
      exact ⟨sign, groups, Written.of_toLower h⟩

/-- The pattern is not found in a text with capitals, but in the same text in small letters. -/
theorem patternText_describes_capitals :
    'ſ' ∉ "2Days 5H".toList ∧
      ∃ p : Pattern .standard, Pattern.compile? patternText = some p ∧
        p.isMatch "2Days 5H" = false ∧ p.isMatch "2Days 5H".toLower = true ∧
        read "2Days 5H" ≠ .error .malformed := by
  have hText : 'ſ' ∉ "2Days 5H".toList := by decide
  obtain ⟨p, hCompiled, -, hSmall⟩ := patternText_describes_read
  obtain rfl : p = published :=
    Option.some.inj (hCompiled.symm.trans (Pattern.compile?_source published))
  have hCapitals : published.isMatch "2Days 5H" = false := by decide +kernel
  have hLower : published.isMatch "2Days 5H".toLower = true := by decide +kernel
  exact ⟨hText, published, hCompiled, hCapitals, hLower, (hSmall _ hText).mpr hLower⟩

end Duration
end DataContract
