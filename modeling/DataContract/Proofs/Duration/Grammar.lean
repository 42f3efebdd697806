import DataContract.Duration
import DataContract.Proofs.Text
/-!
# The grammar of durations

A written duration consists of blanks, a sign or none, blanks, and groups.  A group has
digits, blanks, the word for a unit in whatever case, and blanks behind it.  Its seconds are
its number times the seconds of the unit.

Digits, blanks and letters exclude one another and every group begins with a digit, so that
a text can be taken apart in one way only.  Reading takes the long letter s for a letter s;
lower case knows the basic letters only.  Texts without the long letter are written alike under
both.

**Results.**
* `Written.eq_of_written`: a text has one sign and one list of groups.
-/

namespace DataContract
namespace Duration

/-- The words for units, with the seconds of one unit. -/
def unitTable : List (String × Nat) :=
  [("d", 86400), ("day", 86400), ("days", 86400),
    ("h", 3600), ("hr", 3600), ("hour", 3600), ("hours", 3600),
    ("m", 60), ("min", 60), ("minute", 60), ("minutes", 60)]

/-- The number that digits stand for. -/
def value (digits : List Char) : Nat := digits.foldl (fun n c => n * 10 + digitValue c) 0

/-- The parts of a group, in the order in which they are written. -/
structure Group where
  digits : List Char
  gap : List Char
  unit : List Char
  after : List Char
deriving DecidableEq

namespace Group

/-- The text of a group. -/
def text (g : Group) : List Char := g.digits ++ (g.gap ++ (g.unit ++ g.after))

/-- What counts of a group. -/
def amount (g : Group) : Amount := ⟨g.digits, g.unit⟩

/-- The seconds of a group. -/
def seconds (g : Group) : Nat :=
  value g.digits * (unitTable.lookup (String.ofList (g.unit.map Char.toLower))).getD 0

/-- The parts of a group are of their kinds; the word for the unit is compared in lower
case. -/
structure Spelled (lower : Char → Char) (g : Group) : Prop where
  digits_ne_nil : g.digits ≠ []
  isDigit_of_mem : ∀ c ∈ g.digits, c.isDigit = true
  isBlank_of_mem_gap : ∀ c ∈ g.gap, isBlank c = true
  unit_mem : String.ofList (g.unit.map lower) ∈ unitTable.map Prod.fst
  isBlank_of_mem_after : ∀ c ∈ g.after, isBlank c = true

instance (lower : Char → Char) (g : Group) : Decidable (g.Spelled lower) :=
  decidable_of_iff (g.digits ≠ [] ∧ g.digits.all Char.isDigit = true ∧
      g.gap.all isBlank = true ∧ String.ofList (g.unit.map lower) ∈ unitTable.map Prod.fst ∧
      g.after.all isBlank = true) <| by
    simp only [List.all_eq_true]
    constructor
    · rintro ⟨hNonempty, hDigits, hGap, hUnit, hAfter⟩
      exact ⟨hNonempty, hDigits, hGap, hUnit, hAfter⟩
    · intro h
      exact ⟨h.digits_ne_nil, h.isDigit_of_mem, h.isBlank_of_mem_gap, h.unit_mem,
        h.isBlank_of_mem_after⟩

end Group

/-- The seconds of several groups. -/
def total : List Group → Nat
  | [] => 0
  | g :: groups => g.seconds + total groups

/-- A text consists of blanks, a sign or none, blanks, and groups. -/
structure Written (lower : Char → Char) (text : List Char) (sign : Option Char)
    (groups : List Group) : Prop where
  isSign_of_mem : ∀ c ∈ sign, c = '+' ∨ c = '-'
  spelled_of_mem : ∀ g ∈ groups, g.Spelled lower
  text_eq : ∃ before between, (∀ c ∈ before, isBlank c = true) ∧
    (∀ c ∈ between, isBlank c = true) ∧
    text = before ++ (sign.toList ++ (between ++ groups.flatMap Group.text))

/-- A number of seconds with a sign. -/
def signed (sign : Option Char) (seconds : Nat) : Int :=
  if sign = some '-' then -(seconds : Int) else seconds

/-- Whether a character may stand in the word for a unit. -/
def isUnitLetter (c : Char) : Bool := c == 'ſ' || c.isAlpha

section Kinds

variable {c : Char}

theorem between_iff {least greatest : UInt32} :
    (decide (c.val ≥ least) && decide (c.val ≤ greatest)) = true ↔
      least.toNat ≤ c.toNat ∧ c.toNat ≤ greatest.toNat :=
  Bool.and_eq_true_iff.trans
    (and_congr (decide_eq_true_iff.trans UInt32.le_iff_toNat_le)
      (decide_eq_true_iff.trans UInt32.le_iff_toNat_le))

theorem isDigit_iff : c.isDigit = true ↔ 48 ≤ c.toNat ∧ c.toNat ≤ 57 :=
  between_iff

theorem isLower_iff : c.isLower = true ↔ 97 ≤ c.toNat ∧ c.toNat ≤ 122 :=
  between_iff

theorem isUpper_iff : c.isUpper = true ↔ 65 ≤ c.toNat ∧ c.toNat ≤ 90 :=
  decide_eq_true_iff.trans (and_congr UInt32.le_iff_toNat_le UInt32.le_iff_toNat_le)

theorem isAlpha_iff :
    c.isAlpha = true ↔ (65 ≤ c.toNat ∧ c.toNat ≤ 90) ∨ (97 ≤ c.toNat ∧ c.toNat ≤ 122) :=
  Bool.or_eq_true_iff.trans (or_congr isUpper_iff isLower_iff)

/-- Lower case leaves all characters as they are but capitals. -/
theorem toLower_eq_self (h : c.isUpper = false) : c.toLower = c := by
  refine dif_neg fun hRange => ?_
  rw [isUpper_iff.mpr ⟨UInt32.le_iff_toNat_le.mp hRange.1, UInt32.le_iff_toNat_le.mp hRange.2⟩] at h
  cases h

theorem isUnitLetter_iff : isUnitLetter c = true ↔ c.toNat = 0x17F ∨ c.isAlpha = true := by
  rw [isUnitLetter, Bool.or_eq_true, beq_iff_eq, ← Char.toNat_inj]
  exact Iff.rfl

theorem isUnitLetter_of_isLower_foldLetter (h : (foldLetter c).isLower = true) :
    isUnitLetter c = true := by
  rw [foldLetter] at h
  split at h
  · rename_i hc
    rw [hc]
    rfl
  · refine isUnitLetter_iff.mpr (Or.inr (Bool.or_eq_true_iff.mpr ?_))
    cases hUpper : c.isUpper with
    | true => exact Or.inl rfl
    | false =>
        rw [toLower_eq_self hUpper] at h
        exact Or.inr h

theorem not_isUnitLetter_of_isDigit (h : c.isDigit = true) : isUnitLetter c = false := by
  rw [isDigit_iff] at h
  rw [← Bool.not_eq_true, isUnitLetter_iff, isAlpha_iff]
  omega

theorem not_isUnitLetter_of_isBlank (h : isBlank c = true) : isUnitLetter c = false := by
  simp only [isBlank, Bool.or_eq_true, Bool.and_eq_true, decide_eq_true_eq, beq_iff_eq] at h
  rw [← Bool.not_eq_true, isUnitLetter_iff, isAlpha_iff]
  omega

theorem not_isDigit_of_isBlank (h : isBlank c = true) : c.isDigit = false := by
  simp only [isBlank, Bool.or_eq_true, Bool.and_eq_true, decide_eq_true_eq, beq_iff_eq] at h
  rw [← Bool.not_eq_true, isDigit_iff]
  omega

theorem not_isBlank_of_isDigit (h : c.isDigit = true) : isBlank c = false := by
  rw [← Bool.not_eq_true]
  intro hBlank
  rw [not_isDigit_of_isBlank hBlank] at h
  cases h

theorem not_isBlank_of_isUnitLetter (h : isUnitLetter c = true) : isBlank c = false := by
  rw [← Bool.not_eq_true]
  intro hBlank
  rw [not_isUnitLetter_of_isBlank hBlank] at h
  cases h

theorem not_isDigit_of_isUnitLetter (h : isUnitLetter c = true) : c.isDigit = false := by
  rw [← Bool.not_eq_true]
  intro hDigit
  rw [not_isUnitLetter_of_isDigit hDigit] at h
  cases h

end Kinds

/-- What may follow a group: the first digit of another, or nothing. -/
def AtGroup (cs : List Char) : Prop := ∀ c ∈ cs.head?, c.isDigit = true

theorem AtGroup.startsOutside {cs : List Char} (h : AtGroup cs) {test : Char → Bool}
    (hTest : ∀ c, c.isDigit = true → test c = false) :
    StartsOutside test cs :=
  fun c hc => hTest c (h c hc)

theorem isLower_of_mem_unitTable :
    ∀ word ∈ unitTable.map Prod.fst,
      word.toList ≠ [] ∧ word.toList.all Char.isLower = true := by
  decide

namespace Group.Spelled

variable {g g' : Group} {rest rest' : List Char}

theorem isUnitLetter_of_mem (h : g.Spelled foldLetter) :
    ∀ c ∈ g.unit, isUnitLetter c = true := by
  intro c hc
  have hLower := (isLower_of_mem_unitTable _ h.unit_mem).2
  rw [String.toList_ofList, List.all_eq_true] at hLower
  exact isUnitLetter_of_isLower_foldLetter (hLower _ (List.mem_map_of_mem hc))

theorem unit_ne_nil (h : g.Spelled foldLetter) : g.unit ≠ [] := by
  have hNonempty := (isLower_of_mem_unitTable _ h.unit_mem).1
  rw [String.toList_ofList] at hNonempty
  exact fun hNil => hNonempty (List.map_eq_nil_iff.mpr hNil)

theorem startsOutside_unit (h : g.Spelled foldLetter) {test : Char → Bool}
    (hTest : ∀ c, isUnitLetter c = true → test c = false) :
    StartsOutside test (g.unit ++ rest) :=
  .append_of_ne_nil h.unit_ne_nil fun c hc => hTest c (h.isUnitLetter_of_mem c hc)

theorem startsOutside_gap (h : g.Spelled foldLetter) :
    StartsOutside Char.isDigit (g.gap ++ (g.unit ++ rest)) :=
  .append (fun c hc => not_isDigit_of_isBlank (h.isBlank_of_mem_gap c hc))
    (h.startsOutside_unit fun _ => not_isDigit_of_isUnitLetter)

theorem startsOutside_after (h : g.Spelled foldLetter) (hRest : AtGroup rest) :
    StartsOutside isUnitLetter (g.after ++ rest) :=
  .append (fun c hc => not_isUnitLetter_of_isBlank (h.isBlank_of_mem_after c hc))
    (hRest.startsOutside fun _ => not_isUnitLetter_of_isDigit)

/-- A group begins with a digit. -/
theorem atGroup_text (h : g.Spelled foldLetter) : AtGroup (g.text ++ rest) := by
  obtain ⟨digits, gap, unit, after⟩ := g
  cases digits with
  | nil => exact absurd rfl h.digits_ne_nil
  | cons c digits =>
      intro d hd
      cases hd
      exact h.isDigit_of_mem c List.mem_cons_self

/-- A group is known from a text that it begins, and so is the rest of the text. -/
theorem eq_of_text_append_eq (h : g.Spelled foldLetter) (h' : g'.Spelled foldLetter)
    (hRest : AtGroup rest) (hRest' : AtGroup rest')
    (hEq : g.text ++ rest = g'.text ++ rest') :
    g = g' ∧ rest = rest' := by
  obtain ⟨digits, gap, unit, after⟩ := g
  obtain ⟨digits', gap', unit', after'⟩ := g'
  simp only [Group.text, List.append_assoc] at hEq
  obtain ⟨rfl, hEq⟩ := eq_of_append_eq_append h.isDigit_of_mem h'.isDigit_of_mem
    h.startsOutside_gap h'.startsOutside_gap hEq
  obtain ⟨rfl, hEq⟩ := eq_of_append_eq_append h.isBlank_of_mem_gap h'.isBlank_of_mem_gap
    (h.startsOutside_unit fun _ => not_isBlank_of_isUnitLetter)
    (h'.startsOutside_unit fun _ => not_isBlank_of_isUnitLetter) hEq
  obtain ⟨rfl, hEq⟩ := eq_of_append_eq_append h.isUnitLetter_of_mem h'.isUnitLetter_of_mem
    (h.startsOutside_after hRest) (h'.startsOutside_after hRest') hEq
  obtain ⟨rfl, hRests⟩ := eq_of_append_eq_append h.isBlank_of_mem_after h'.isBlank_of_mem_after
    (hRest.startsOutside fun _ => not_isBlank_of_isDigit)
    (hRest'.startsOutside fun _ => not_isBlank_of_isDigit) hEq
  exact ⟨rfl, hRests⟩

end Group.Spelled

variable {groups groups' : List Group}

theorem atGroup_flatMap_text (h : ∀ g ∈ groups, g.Spelled foldLetter) :
    AtGroup (groups.flatMap Group.text) := by
  cases groups with
  | nil => simp [AtGroup]
  | cons g groups => exact (h g List.mem_cons_self).atGroup_text

theorem flatMap_text_injOn (h : ∀ g ∈ groups, g.Spelled foldLetter)
    (h' : ∀ g ∈ groups', g.Spelled foldLetter)
    (hEq : groups.flatMap Group.text = groups'.flatMap Group.text) :
    groups = groups' := by
  induction groups generalizing groups' with
  | nil =>
      cases groups' with
      | nil => rfl
      | cons g' groups' =>
          have hDigits := (h' g' List.mem_cons_self).digits_ne_nil
          simp [Group.text, hDigits] at hEq
  | cons g groups ih =>
      cases groups' with
      | nil =>
          have hDigits := (h g List.mem_cons_self).digits_ne_nil
          simp [Group.text, hDigits] at hEq
      | cons g' groups' =>
          rw [List.forall_mem_cons] at h h'
          rw [List.flatMap_cons, List.flatMap_cons] at hEq
          obtain ⟨rfl, hRest⟩ := h.1.eq_of_text_append_eq h'.1 (atGroup_flatMap_text h.2)
            (atGroup_flatMap_text h'.2) hEq
          rw [ih h.2 h'.2 hRest]

namespace Written

variable {text : List Char} {sign sign' : Option Char}

/-- The blanks at the beginning of a text end at its sign, or at its groups where there is
no sign. -/
theorem text_eq_append (h : Written foldLetter text sign groups) :
    ∃ lead rest, (∀ c ∈ lead, isBlank c = true) ∧ StartsOutside isBlank rest ∧
      text = lead ++ rest ∧ ((∃ c between, sign = some c ∧ (∀ d ∈ between, isBlank d = true) ∧
          rest = c :: (between ++ groups.flatMap Group.text)) ∨
        sign = none ∧ rest = groups.flatMap Group.text) := by
  obtain ⟨before, between, hBefore, hBetween, rfl⟩ := h.text_eq
  cases sign with
  | none =>
      refine ⟨before ++ between, groups.flatMap Group.text, ?_, ?_, ?_, Or.inr ⟨rfl, rfl⟩⟩
      · exact List.forall_mem_append.mpr ⟨hBefore, hBetween⟩
      · exact (atGroup_flatMap_text h.spelled_of_mem).startsOutside fun _ =>
          not_isBlank_of_isDigit
      · rw [Option.toList_none, List.nil_append, List.append_assoc]
  | some c =>
      refine ⟨before, _, hBefore, ?_, rfl, Or.inl ⟨c, between, rfl, hBetween, rfl⟩⟩
      rw [Option.toList_some, List.singleton_append, StartsOutside.cons_iff]
      rcases h.isSign_of_mem c rfl with rfl | rfl <;> rfl

/-- A text has one sign and one list of groups. -/
theorem eq_of_written (h : Written foldLetter text sign groups)
    (h' : Written foldLetter text sign' groups') :
    sign = sign' ∧ groups = groups' := by
  obtain ⟨lead, rest, hLead, hRest, hText, hCases⟩ := h.text_eq_append
  obtain ⟨lead', rest', hLead', hRest', hText', hCases'⟩ := h'.text_eq_append
  obtain ⟨rfl, rfl⟩ := eq_of_append_eq_append hLead hLead' hRest hRest' (hText.symm.trans hText')
  have hGroups := atGroup_flatMap_text h.spelled_of_mem
  have hGroups' := atGroup_flatMap_text h'.spelled_of_mem
  rcases hCases with ⟨c, between, rfl, hBetween, rfl⟩ | ⟨rfl, rfl⟩
  · rcases hCases' with ⟨c', between', rfl, hBetween', hEq⟩ | ⟨rfl, hEq⟩
    · rw [List.cons.injEq] at hEq
      obtain ⟨rfl, hEq⟩ := hEq
      obtain ⟨-, hEq⟩ := eq_of_append_eq_append hBetween hBetween'
        (hGroups.startsOutside fun _ => not_isBlank_of_isDigit)
        (hGroups'.startsOutside fun _ => not_isBlank_of_isDigit) hEq
      exact ⟨rfl, flatMap_text_injOn h.spelled_of_mem h'.spelled_of_mem hEq⟩
    · -- A sign is no digit.
      rw [← hEq] at hGroups'
      have hDigit := hGroups' c rfl
      rcases h.isSign_of_mem c rfl with rfl | rfl <;> cases hDigit
  · rcases hCases' with ⟨c', between', rfl, hBetween', hEq⟩ | ⟨rfl, hEq⟩
    · rw [hEq] at hGroups
      have hDigit := hGroups c' rfl
      rcases h'.isSign_of_mem c' rfl with rfl | rfl <;> cases hDigit
    · exact ⟨rfl, flatMap_text_injOn h.spelled_of_mem h'.spelled_of_mem hEq⟩

end Written

theorem foldLetter_of_ne {c : Char} (h : c ≠ 'ſ') : foldLetter c = c.toLower := if_neg h

theorem map_foldLetter {cs : List Char} (h : 'ſ' ∉ cs) :
    cs.map foldLetter = cs.map Char.toLower :=
  List.map_congr_left fun _ hc => foldLetter_of_ne fun hEq => h (hEq ▸ hc)

namespace Group.Spelled

variable {g : Group}

theorem of_map_eq {lower lower' : Char → Char} (h : g.Spelled lower)
    (hUnit : g.unit.map lower' = g.unit.map lower) : g.Spelled lower' where
  digits_ne_nil := h.digits_ne_nil
  isDigit_of_mem := h.isDigit_of_mem
  isBlank_of_mem_gap := h.isBlank_of_mem_gap
  unit_mem := hUnit ▸ h.unit_mem
  isBlank_of_mem_after := h.isBlank_of_mem_after

theorem not_mem_unit (h : g.Spelled Char.toLower) : 'ſ' ∉ g.unit := by
  intro hMem
  have hLower := (isLower_of_mem_unitTable _ h.unit_mem).2
  rw [String.toList_ofList, List.all_eq_true] at hLower
  have hLong := hLower _ (List.mem_map_of_mem hMem)
  revert hLong
  decide

end Group.Spelled

theorem Written.of_toLower {text : List Char} {sign : Option Char}
    (h : Written Char.toLower text sign groups) : Written foldLetter text sign groups where
  isSign_of_mem := h.isSign_of_mem
  text_eq := h.text_eq
  spelled_of_mem := fun g hg =>
    have hSpelled := h.spelled_of_mem g hg
    hSpelled.of_map_eq (map_foldLetter hSpelled.not_mem_unit)

theorem Written.toLower {text : List Char} {sign : Option Char} (hText : 'ſ' ∉ text)
    (h : Written foldLetter text sign groups) : Written Char.toLower text sign groups where
  isSign_of_mem := h.isSign_of_mem
  text_eq := h.text_eq
  spelled_of_mem := fun g hg => by
    have hUnit : 'ſ' ∉ g.unit := by
      intro hMem
      obtain ⟨before, between, -, -, rfl⟩ := h.text_eq
      have hGroup : 'ſ' ∈ groups.flatMap Group.text :=
        List.mem_flatMap.mpr ⟨g, hg, by simp [Group.text, hMem]⟩
      exact hText (by simp [hGroup])
    exact (h.spelled_of_mem g hg).of_map_eq (map_foldLetter hUnit).symm

end Duration
end DataContract
