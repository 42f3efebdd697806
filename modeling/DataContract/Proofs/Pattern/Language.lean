import DataContract.Proofs.Pattern.Occurrence
import Mathlib.Computability.Language
/-!
# Languages of patterns

What an expression without conditions takes does not depend on the text around it.  The runs of
characters between the ends of its matches form a language, and the language is put together
as the expression is: sequence is the product of languages, choice is their sum, and a
repetition joins powers of one language.

A pattern that is held at both ends of the text has a match in the texts of the language in
between, and in no others.

**Results.**
* `Expr.takes_language`: the matches of an expression without conditions are the runs of its
  language.
* `Expr.occursIn_iff_mem_language`: an expression from the start of the text to its end is found
  in the texts of its language.
-/

namespace DataContract
namespace Pattern

open scoped Computability

/-- A relation between positions leads over the runs of a language, wherever they stand. -/
def Takes (R : List Char → Nat → Nat → Prop) (L : Language Char) : Prop :=
  ∀ before rest j, R (before ++ rest) before.length j ↔
    ∃ run ∈ L, ∃ after, rest = run ++ after ∧ j = before.length + run.length

namespace Takes

variable {R R' : List Char → Nat → Nat → Prop} {L L' : Language Char}

theorem stay : Takes (fun _ => Eq) 1 := by
  intro before rest j
  constructor
  · rintro rfl
    exact ⟨[], Language.nil_mem_one, rest, rfl, rfl⟩
  · rintro ⟨run, hRun, after, -, rfl⟩
    rw [Language.mem_one] at hRun
    rw [hRun, List.length_nil, Nat.add_zero]

theorem mul (h : Takes R L) (h' : Takes R' L') :
    Takes (fun text i j => ∃ k, R text i k ∧ R' text k j) (L * L') := by
  intro before rest j
  constructor
  · rintro ⟨k, hFirst, hSecond⟩
    obtain ⟨run, hRun, after, rfl, rfl⟩ := (h before rest k).mp hFirst
    rw [← List.append_assoc, ← List.length_append] at hSecond
    obtain ⟨run', hRun', after', rfl, rfl⟩ := (h' (before ++ run) after j).mp hSecond
    refine ⟨run ++ run', Language.append_mem_mul hRun hRun', after', ?_, ?_⟩
    · rw [List.append_assoc]
    · rw [List.length_append, List.length_append, Nat.add_assoc]
  · rintro ⟨_, hRuns, after, rfl, rfl⟩
    obtain ⟨run, hRun, run', hRun', rfl⟩ := Language.mem_mul.mp hRuns
    refine ⟨before.length + run.length, ?_, ?_⟩
    · exact (h before _ _).mpr ⟨run, hRun, run' ++ after, List.append_assoc _ _ _, rfl⟩
    · have hSecond := (h' (before ++ run) (run' ++ after) _).mpr ⟨run', hRun', after, rfl, rfl⟩
      simpa only [List.append_assoc, List.length_append, Nat.add_assoc] using hSecond

theorem add (h : Takes R L) (h' : Takes R' L') :
    Takes (fun text i j => R text i j ∨ R' text i j) (L + L') := by
  intro before rest j
  refine (or_congr (h before rest j) (h' before rest j)).trans ?_
  simp only [Language.mem_add, or_and_right, exists_or]

theorem pow (h : Takes R L) (count : Nat) :
    Takes (fun text => Times (R text) count) (L ^ count) := by
  induction count with
  | zero => exact stay
  | succ count ih =>
      rw [pow_succ']
      exact h.mul ih

end Takes

namespace Expr

/-- Nothing in the expression asks what stands around a position. -/
def isUnconditional : Expr → Bool
  | .empty => true
  | .chars _ => true
  | .look _ => false
  | .concat e f => e.isUnconditional && f.isUnconditional
  | .either e f => e.isUnconditional && f.isUnconditional
  | .repeated _ _ e => e.isUnconditional

/-- The runs of characters that an expression takes.  A condition takes none. -/
def language : Expr → Language Char
  | .empty => 1
  | .chars set => {run | ∃ c, run = [c] ∧ set.contains c = true}
  | .look _ => 1
  | .concat e f => e.language * f.language
  | .either e f => e.language + f.language
  | .repeated least most e =>
      {run | ∃ count, (least ≤ count ∧ ∀ m, most = some m → count ≤ max least m) ∧
        run ∈ e.language ^ count}

theorem takes_chars (set : CharClass) :
    Takes (fun text => (chars set).Matches text) (chars set).language := by
  intro before rest j
  have hHead : (before ++ rest)[before.length]? = rest.head? := by
    rw [List.getElem?_append_right le_rfl, Nat.sub_self, List.head?_eq_getElem?]
  simp only [Matches, language, hHead]
  constructor
  · rintro ⟨rfl, c, hc, hSet⟩
    obtain ⟨after, rfl⟩ := List.head?_eq_some_iff.mp hc
    exact ⟨[c], ⟨c, rfl, hSet⟩, after, rfl, rfl⟩
  · rintro ⟨_, ⟨c, rfl, hSet⟩, after, rfl, rfl⟩
    exact ⟨rfl, c, rfl, hSet⟩

/-- The matches of an expression without conditions are the runs of its language. -/
theorem takes_language (e : Expr) (h : e.isUnconditional = true) :
    Takes (fun text => e.Matches text) e.language := by
  induction e with
  | empty => exact Takes.stay
  | chars set => exact takes_chars set
  | look condition => cases h
  | concat e f ihe ihf =>
      rw [isUnconditional, Bool.and_eq_true] at h
      exact (ihe h.1).mul (ihf h.2)
  | either e f ihe ihf =>
      rw [isUnconditional, Bool.and_eq_true] at h
      exact (ihe h.1).add (ihf h.2)
  | repeated least most e ih =>
      intro before rest j
      have hTimes count := (ih h).pow count before rest j
      simp only [Matches, hTimes, language]
      constructor
      · rintro ⟨count, hLeast, hMost, run, hRun, hRest⟩
        exact ⟨run, ⟨count, ⟨hLeast, hMost⟩, hRun⟩, hRest⟩
      · rintro ⟨run, ⟨count, ⟨hLeast, hMost⟩, hRun⟩, hRest⟩
        exact ⟨count, hLeast, hMost, run, hRun, hRest⟩

section Languages

variable {e : Expr} {set : CharClass} {run : List Char}

theorem mem_language_chars :
    run ∈ (chars set).language ↔ ∃ c, run = [c] ∧ set.contains c = true :=
  Iff.rfl

theorem mem_language_chars_pow {count : Nat} :
    run ∈ (chars set).language ^ count ↔
      run.length = count ∧ ∀ c ∈ run, set.contains c = true := by
  induction count generalizing run with
  | zero =>
      rw [pow_zero, Language.mem_one, List.length_eq_zero_iff]
      exact ⟨fun h => ⟨h, h ▸ List.forall_mem_nil _⟩, And.left⟩
  | succ count ih =>
      rw [pow_succ', Language.mem_mul]
      constructor
      · rintro ⟨_, ⟨c, rfl, hSet⟩, more, hMore, rfl⟩
        obtain ⟨hLength, hMembers⟩ := ih.mp hMore
        exact ⟨congrArg Nat.succ hLength, List.forall_mem_cons.mpr ⟨hSet, hMembers⟩⟩
      · rintro ⟨hLength, hMembers⟩
        obtain ⟨c, more, rfl⟩ := List.exists_cons_of_length_eq_add_one hLength
        rw [List.forall_mem_cons] at hMembers
        exact ⟨[c], ⟨c, rfl, hMembers.1⟩, more, ih.mpr ⟨Nat.succ.inj hLength, hMembers.2⟩, rfl⟩

/-- A repetition of single characters only counts them. -/
theorem mem_language_repeated_chars {least : Nat} :
    run ∈ (repeated least none (chars set)).language ↔
      least ≤ run.length ∧ ∀ c ∈ run, set.contains c = true := by
  constructor
  · rintro ⟨count, ⟨hLeast, -⟩, hRun⟩
    obtain ⟨rfl, hMembers⟩ := mem_language_chars_pow.mp hRun
    exact ⟨hLeast, hMembers⟩
  · rintro ⟨hLeast, hMembers⟩
    refine ⟨run.length, ⟨hLeast, fun m hm => ?_⟩, mem_language_chars_pow.mpr ⟨rfl, hMembers⟩⟩
    cases hm

theorem language_repeated_none : (repeated 0 none e).language = e.language∗ := by
  rw [Language.kstar_eq_iSup_pow]
  ext run
  rw [Language.mem_iSup]
  constructor
  · rintro ⟨count, -, hRun⟩
    exact ⟨count, hRun⟩
  · rintro ⟨count, hRun⟩
    refine ⟨count, ⟨Nat.zero_le count, fun m hm => ?_⟩, hRun⟩
    cases hm

theorem mem_language_optional :
    run ∈ (repeated 0 (some 1) e).language ↔ run = [] ∨ run ∈ e.language := by
  constructor
  · rintro ⟨count, ⟨-, hMost⟩, hRun⟩
    rcases Nat.le_one_iff_eq_zero_or_eq_one.mp (hMost 1 rfl) with rfl | rfl
    · rw [pow_zero, Language.mem_one] at hRun
      exact Or.inl hRun
    · rw [pow_one] at hRun
      exact Or.inr hRun
  · rintro (rfl | hRun)
    · exact ⟨0, ⟨le_rfl, fun m hm => Nat.zero_le _⟩, Language.nil_mem_one⟩
    · refine ⟨1, ⟨Nat.zero_le 1, fun m hm => ?_⟩, ?_⟩
      · cases hm
        exact le_rfl
      · rw [pow_one]
        exact hRun

theorem sequence_cons (e : Expr) {es : List Expr} (h : es ≠ []) :
    sequence (e :: es) = .concat e (sequence es) := by
  cases es with
  | nil => exact absurd rfl h
  | cons f es => rfl

theorem language_sequence (es : List Expr) :
    (sequence es).language = (es.map language).prod := by
  induction es with
  | nil => rfl
  | cons e es ih =>
      rw [List.map_cons, List.prod_cons, ← ih]
      cases es with
      | nil => exact (mul_one _).symm
      | cons f es => rfl

theorem not_mem_language_choice_nil : run ∉ (choice []).language := by
  rintro ⟨c, -, hNone⟩
  cases hNone

theorem mem_language_choice {es : List Expr} :
    run ∈ (choice es).language ↔ ∃ e ∈ es, run ∈ e.language := by
  induction es with
  | nil => simp [not_mem_language_choice_nil]
  | cons e es ih =>
      rw [List.exists_mem_cons_iff, ← ih]
      cases es with
      | nil => exact (or_iff_left not_mem_language_choice_nil).symm
      | cons f es => exact Iff.rfl

theorem mem_language_single {c : Char} : run ∈ (single c).language ↔ run = [c] := by
  simp [single, mem_language_chars, CharClass.contains_single_iff]

/-- Characters one after the other are a word. -/
theorem mem_language_word {word : List Char} :
    run ∈ (sequence (word.map single)).language ↔ run = word := by
  rw [language_sequence]
  induction word generalizing run with
  | nil => exact Iff.rfl
  | cons c word ih =>
      rw [List.map_cons, List.map_cons, List.prod_cons, Language.mem_mul]
      simp only [mem_language_single, ih, exists_eq_left]
      exact eq_comm

end Languages

/-- Expressions without conditions and then the end take the rest of a text. -/
theorem exists_matches_to_end {es : List Expr} (h : ∀ e ∈ es, e.isUnconditional = true)
    {before rest : List Char} :
    (∃ j, (sequence (es ++ [.look .textEnd])).Matches (before ++ rest) before.length j) ↔
      rest ∈ (es.map language).prod := by
  induction es generalizing before rest with
  | nil =>
      have hHead : (before ++ rest)[before.length]? = rest.head? := by
        rw [List.getElem?_append_right le_rfl, Nat.sub_self, List.head?_eq_getElem?]
      simp [sequence, Matches, Look.holds, hHead]
  | cons e es ih =>
      rw [List.forall_mem_cons] at h
      rw [List.cons_append, sequence_cons _ (by simp), List.map_cons, List.prod_cons,
        Language.mem_mul]
      have hFirst := takes_language e h.1 before rest
      constructor
      · rintro ⟨j, k, hHead, hMore⟩
        obtain ⟨run, hRun, after, rfl, rfl⟩ := (hFirst k).mp hHead
        rw [← List.append_assoc, ← List.length_append] at hMore
        exact ⟨run, hRun, after, (ih h.2).mp ⟨j, hMore⟩, rfl⟩
      · rintro ⟨run, hRun, after, hAfter, rfl⟩
        obtain ⟨j, hMore⟩ := (@ih h.2 (before ++ run) after).mpr hAfter
        rw [List.append_assoc, List.length_append] at hMore
        exact ⟨j, _, (hFirst _).mpr ⟨run, hRun, after, rfl, rfl⟩, hMore⟩

/-- An expression from the start of the text to its end is found in the texts of its
language. -/
theorem occursIn_iff_mem_language {es : List Expr} (h : ∀ e ∈ es, e.isUnconditional = true)
    {text : String} :
    (sequence (.look .textStart :: (es ++ [.look .textEnd]))).OccursIn text ↔
      text.toList ∈ (es.map language).prod := by
  rw [OccursIn, sequence_cons _ (by simp), ← @exists_matches_to_end es h []]
  constructor
  · rintro ⟨i, j, hi, k, hStart, hMore⟩
    obtain ⟨-, rfl⟩ := (matches_textStart_iff hi).mp hStart
    exact ⟨j, hMore⟩
  · rintro ⟨j, hMore⟩
    exact ⟨0, j, Nat.zero_le _, 0, (matches_textStart_iff (Nat.zero_le _)).mpr ⟨rfl, rfl⟩, hMore⟩

end Expr
end Pattern
end DataContract
