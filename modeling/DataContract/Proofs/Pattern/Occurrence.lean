import DataContract.Readers.Standard
import Mathlib.Data.List.Basic
import Mathlib.Order.MinMax
/-!
# Occurrences of patterns

Matching follows sets of positions through an expression.  What it looks for can be said
without them: the expression matches the characters between two positions of the text.
Every operation on sets is the image under a relation between positions, and the relation of
an expression is put together as the expression is.

A repetition without a bound is followed for one step more than there are characters.  No
match goes back, so that steps beyond those can be left out.

Other readers may search as they like.  They are lawful if an expression is found in a text
exactly where it has a match; of addresses and timestamps nothing is asked.

**Results.**
* `sends_reach`: from a set of positions, the ends of the matches that begin in it.
* `Expr.occursIn_iff`: an expression is found in the texts where it has a match.
* `Readers.standard_lawful`: so it is with the standard readers.
-/

namespace DataContract

theorem CharClass.contains_single_iff {c d : Char} : (single c).contains d = true ↔ d = c := by
  rw [single, contains, Unicode.inRanges, ← Char.toNat_inj]
  simp only [List.any_cons, List.any_nil, Bool.or_false, Bool.and_eq_true, decide_eq_true_eq]
  omega

namespace Pattern

/-- The character before a position. -/
def charBefore (text : List Char) : Nat → Option Char
  | 0 => none
  | i + 1 => text[i]?

/-- A number of steps along a relation. -/
def Times (R : Nat → Nat → Prop) : Nat → Nat → Nat → Prop
  | 0, i, j => i = j
  | count + 1, i, j => ∃ k, R i k ∧ Times R count k j

/-- An expression matches the characters of a text from one position to another.  A
repetition takes its expression at least `least` times, and no more often than `most` unless
that is less. -/
def Expr.Matches (text : List Char) : Expr → Nat → Nat → Prop
  | .empty, i, j => i = j
  | .chars set, i, j => j = i + 1 ∧ ∃ c, text[i]? = some c ∧ set.contains c = true
  | .look condition, i, j => i = j ∧ condition.holds (charBefore text i) text[i]? = true
  | .concat e f, i, j => ∃ k, e.Matches text i k ∧ f.Matches text k j
  | .either e f, i, j => e.Matches text i j ∨ f.Matches text i j
  | .repeated least most e, i, j =>
      ∃ count, least ≤ count ∧ (∀ m, most = some m → count ≤ max least m) ∧
        Times (e.Matches text) count i j

/-- There is a match of the expression in the text. -/
def Expr.OccursIn (e : Expr) (text : String) : Prop :=
  ∃ i j, i ≤ text.toList.length ∧ e.Matches text.toList i j

namespace Times

variable {R : Nat → Nat → Prop} {i j : Nat}

theorem add_iff {first second : Nat} :
    Times R (first + second) i j ↔ ∃ k, Times R first i k ∧ Times R second k j := by
  induction first generalizing i with
  | zero => simp [Times]
  | succ first ih =>
      rw [Nat.succ_add]
      simp only [Times, ih]
      constructor
      · rintro ⟨k, hHead, l, hFirst, hSecond⟩
        exact ⟨l, ⟨k, hHead, hFirst⟩, hSecond⟩
      · rintro ⟨l, ⟨k, hHead, hFirst⟩, hSecond⟩
        exact ⟨k, hHead, l, hFirst, hSecond⟩

/-- What every step keeps is kept by a number of them. -/
theorem preserves {P : Nat → Prop} (hStep : ∀ i j, R i j → P i → P j) {count : Nat}
    (h : Times R count i j) (hi : P i) :
    P j := by
  induction count generalizing i with
  | zero => exact h ▸ hi
  | succ count ih =>
      obtain ⟨k, hHead, hTail⟩ := h
      exact ih hTail (hStep i k hHead hi)

theorem le (hForward : ∀ i j, R i j → i ≤ j) {count : Nat} (h : Times R count i j) : i ≤ j :=
  h.preserves (fun k l hStep hk => Nat.le_trans hk (hForward k l hStep)) (Nat.le_refl i)

/-- Steps that stay where they are can be left out. -/
theorem exists_le_sub (hForward : ∀ i j, R i j → i ≤ j) {count : Nat} (h : Times R count i j) :
    ∃ count' ≤ count, count' ≤ j - i ∧ Times R count' i j := by
  induction count generalizing i with
  | zero => exact ⟨0, Nat.le_refl 0, Nat.zero_le _, h⟩
  | succ count ih =>
      obtain ⟨k, hHead, hTail⟩ := h
      obtain ⟨count', hCount, hLength, hShort⟩ := ih hTail
      have hStep := hForward i k hHead
      have hRest := hShort.le hForward
      by_cases hStays : i = k
      · subst hStays
        exact ⟨count', by omega, hLength, hShort⟩
      · exact ⟨count' + 1, by omega, by omega, k, hHead, hShort⟩

end Times

namespace Expr

variable {text : List Char} {e : Expr}

theorem matches_single_iff {c : Char} {i j : Nat} :
    (single c).Matches text i j ↔ j = i + 1 ∧ text[i]? = some c := by
  simp [single, Matches, CharClass.contains_single_iff]

theorem matches_textStart_iff {i j : Nat} (hi : i ≤ text.length) :
    (Expr.look .textStart).Matches text i j ↔ i = 0 ∧ j = 0 := by
  cases i with
  | zero => simp [Matches, Look.holds, charBefore, eq_comm]
  | succ i =>
      have hi' : i < text.length := hi
      simp [Matches, Look.holds, charBefore, hi']

/-- No match goes back. -/
theorem Matches.le : ∀ {i j : Nat}, e.Matches text i j → i ≤ j := by
  induction e with
  | empty => exact fun h => Nat.le_of_eq h
  | chars set =>
      rintro i j ⟨rfl, _⟩
      exact Nat.le_succ i
  | look condition => exact fun h => Nat.le_of_eq h.1
  | concat e f ihe ihf =>
      rintro i j ⟨k, he, hf⟩
      exact Nat.le_trans (ihe he) (ihf hf)
  | either e f ihe ihf => exact fun h => h.elim ihe ihf
  | repeated least most e ih =>
      rintro i j ⟨count, _, _, hTimes⟩
      exact hTimes.le fun _ _ => ih

/-- No match goes beyond the end. -/
theorem Matches.le_length :
    ∀ {i j : Nat}, e.Matches text i j → i ≤ text.length → j ≤ text.length := by
  induction e with
  | empty => exact fun h hi => h ▸ hi
  | chars set =>
      rintro i j ⟨rfl, c, hc, _⟩ _
      exact (List.getElem?_eq_some_iff.mp hc).1
  | look condition => exact fun h hi => h.1 ▸ hi
  | concat e f ihe ihf =>
      rintro i j ⟨k, he, hf⟩ hi
      exact ihf hf (ihe he hi)
  | either e f ihe ihf => exact fun h hi => h.elim (ihe · hi) (ihf · hi)
  | repeated least most e ih =>
      rintro i j ⟨count, _, _, hTimes⟩ hi
      exact hTimes.preserves (P := (· ≤ text.length)) (fun _ _ => ih) hi

end Expr

namespace Marks

/-- A position is in the set. -/
def Has (a : Marks) (i : Nat) : Prop := a[i]? = some true

/-- The positions of a set that are not known yet. -/
def unseen (a known : Marks) : Marks := List.zipWith (fun mark seen => mark && !seen) a known

variable {a b : Marks} {i : Nat}

theorem Has.lt_length (h : a.Has i) : i < a.length :=
  (List.getElem?_eq_some_iff.mp h).1

theorem any_iff : a.any = true ↔ ∃ i, a.Has i := by
  rw [any, List.any_eq_true]
  simp only [id_eq, exists_eq_right, Has]
  exact List.mem_iff_getElem?

theorem has_replicate_iff {n : Nat} : Has (List.replicate n true) i ↔ i < n := by
  simp [Has, List.getElem?_replicate]

theorem has_zipWith_iff {α β : Type} {f : α → β → Bool} {as : List α} {bs : List β} :
    Has (List.zipWith f as bs) i ↔
      ∃ x y, as[i]? = some x ∧ bs[i]? = some y ∧ f x y = true := by
  rw [Has, List.getElem?_zipWith_eq_some]

theorem has_union_iff (h : a.length = b.length) : (a.union b).Has i ↔ a.Has i ∨ b.Has i := by
  rw [union, has_zipWith_iff]
  simp only [Bool.or_eq_true]
  constructor
  · rintro ⟨x, y, hx, hy, rfl | rfl⟩
    · exact .inl hx
    · exact .inr hy
  · rintro (hi | hi)
    · have hLess : i < b.length := h ▸ hi.lt_length
      exact ⟨true, b[i], hi, List.getElem?_eq_getElem hLess, .inl rfl⟩
    · have hLess : i < a.length := h ▸ hi.lt_length
      exact ⟨a[i], true, List.getElem?_eq_getElem hLess, hi, .inr rfl⟩

theorem has_unseen_iff (h : a.length = b.length) :
    (a.unseen b).Has i ↔ a.Has i ∧ ¬ b.Has i := by
  rw [unseen, has_zipWith_iff]
  simp only [Bool.and_eq_true, Bool.not_eq_true']
  constructor
  · rintro ⟨x, y, hx, hy, rfl, rfl⟩
    refine ⟨hx, ?_⟩
    rw [Has, hy]
    simp
  · rintro ⟨ha, hb⟩
    have hLess : i < b.length := h ▸ ha.lt_length
    have hGet := List.getElem?_eq_getElem hLess
    refine ⟨true, b[i], ha, hGet, rfl, ?_⟩
    rw [Has, hGet, Option.some.injEq, Bool.not_eq_true] at hb
    exact hb

theorem length_neighbours {text : List Char} {before : Option Char} :
    (neighbours before text).length = text.length + 1 := by
  induction text generalizing before with
  | nil => rfl
  | cons c cs ih => rw [neighbours, List.length_cons, ih, List.length_cons]

theorem getElem?_neighbours {text : List Char} {before : Option Char} (h : i ≤ text.length) :
    (neighbours before text)[i]? =
      some (if i = 0 then before else charBefore text i, text[i]?) := by
  induction text generalizing before i with
  | nil =>
      obtain rfl := Nat.le_zero.mp h
      rfl
  | cons c cs ih =>
      cases i with
      | zero => rfl
      | succ i =>
          rw [neighbours, List.getElem?_cons_succ, ih (Nat.le_of_succ_le_succ h)]
          cases i <;> rfl

end Marks

/-- A step sends every set of positions to its image under a relation. -/
structure Sends (positions : Nat) (step : Marks → Marks) (R : Nat → Nat → Prop) : Prop where
  length_eq : ∀ a : Marks, a.length = positions → (step a).length = positions
  has_iff : ∀ a : Marks, a.length = positions → ∀ j, (step a).Has j ↔ ∃ i, a.Has i ∧ R i j

/-- A step from a known position leads to a known one, unless the position is fresh. -/
structure ClosedExcept (R : Nat → Nat → Prop) (known fresh : Marks) : Prop where
  fresh_known : ∀ i, fresh.Has i → known.Has i
  closed : ∀ i j, known.Has i → ¬ fresh.Has i → R i j → known.Has j

namespace Sends

variable {positions : Nat} {step step' : Marks → Marks} {R R' : Nat → Nat → Prop}

theorem refl : Sends positions (fun a => a) Eq where
  length_eq := fun _ h => h
  has_iff := by simp

theorem comp (h : Sends positions step R) (h' : Sends positions step' R') :
    Sends positions (fun a => step' (step a)) fun i j => ∃ k, R i k ∧ R' k j where
  length_eq := fun a ha => h'.length_eq _ (h.length_eq a ha)
  has_iff := by
    intro a ha j
    rw [h'.has_iff _ (h.length_eq a ha)]
    simp only [h.has_iff a ha]
    constructor
    · rintro ⟨k, ⟨i, hi, hFirst⟩, hSecond⟩
      exact ⟨i, hi, k, hFirst, hSecond⟩
    · rintro ⟨i, hi, k, hFirst, hSecond⟩
      exact ⟨k, ⟨i, hi, hFirst⟩, hSecond⟩

theorem union (h : Sends positions step R) (h' : Sends positions step' R') :
    Sends positions (fun a => (step a).union (step' a)) fun i j => R i j ∨ R' i j where
  length_eq := by
    intro a ha
    rw [Marks.union, List.length_zipWith, h.length_eq a ha, h'.length_eq a ha, min_self]
  has_iff := by
    intro a ha j
    rw [Marks.has_union_iff ((h.length_eq a ha).trans (h'.length_eq a ha).symm), h.has_iff a ha,
      h'.has_iff a ha]
    simp only [and_or_left, exists_or]

theorem advance {test : Char → Bool} {text : List Char} :
    Sends (text.length + 1) (Marks.advance test text)
      fun i j => j = i + 1 ∧ ∃ c, text[i]? = some c ∧ test c = true where
  length_eq := by
    intro a ha
    simp [Marks.advance, ha]
  has_iff := by
    intro a ha j
    cases j with
    | zero => simp [Marks.advance, Marks.Has]
    | succ j =>
        have hTail : (Marks.advance test text a).Has (j + 1) ↔
            Marks.Has (List.zipWith (fun c mark => mark && test c) text a) j := Iff.rfl
        rw [hTail, Marks.has_zipWith_iff]
        simp only [Bool.and_eq_true]
        constructor
        · rintro ⟨c, mark, hc, hMark, rfl, hTest⟩
          exact ⟨j, hMark, rfl, c, hc, hTest⟩
        · rintro ⟨i, hi, hEq, c, hc, hTest⟩
          obtain rfl : j = i := Nat.succ.inj hEq
          exact ⟨c, true, hc, hi, rfl, hTest⟩

theorem restrict {condition : Look} {text : List Char} :
    Sends (text.length + 1) (Marks.restrict condition text)
      fun i j => i = j ∧ condition.holds (charBefore text i) text[i]? = true where
  length_eq := by
    intro a ha
    rw [Marks.restrict, List.length_zipWith, Marks.length_neighbours, ha, min_self]
  has_iff := by
    intro a ha j
    have hSide (hj : j ≤ text.length) :
        (Marks.neighbours none text)[j]? = some (charBefore text j, text[j]?) := by
      rw [Marks.getElem?_neighbours hj]
      cases j <;> rfl
    rw [Marks.restrict, Marks.has_zipWith_iff]
    simp only [Bool.and_eq_true]
    constructor
    · rintro ⟨side, mark, hNeighbours, hMark, rfl, hHolds⟩
      have hLess := Marks.Has.lt_length hMark
      rw [hSide (by omega), Option.some.injEq] at hNeighbours
      subst hNeighbours
      exact ⟨j, hMark, rfl, hHolds⟩
    · rintro ⟨i, hi, rfl, hHolds⟩
      have hLess := hi.lt_length
      exact ⟨_, true, hSide (by omega), hi, rfl, hHolds⟩

theorem iterate (h : Sends positions step R) (count : Nat) :
    Sends positions (Marks.iterate step count) (Times R count) := by
  induction count with
  | zero => exact refl
  | succ count ih =>
      have hComp := h.comp ih
      refine ⟨fun a ha => ?_, fun a ha j => ?_⟩
      · rw [Marks.iterate]
        split
        · exact hComp.length_eq a ha
        · exact ha
      · rw [Marks.iterate]
        split
        · exact hComp.has_iff a ha j
        · rename_i hNone
          rw [Marks.any_iff, not_exists] at hNone
          simp [hNone]

section Collecting

variable {known fresh : Marks} {i j : Nat}

theorem length_union_unseen (h : Sends positions step R) (hKnown : known.length = positions)
    (hFresh : fresh.length = positions) :
    ((step fresh).unseen known).length = positions ∧
      (known.union ((step fresh).unseen known)).length = positions := by
  simp [Marks.union, Marks.unseen, h.length_eq fresh hFresh, hKnown]

/-- A round adds to the known positions those that a step leads to. -/
theorem has_union_unseen_iff (h : Sends positions step R) (hKnown : known.length = positions)
    (hFresh : fresh.length = positions) (hClosed : ClosedExcept R known fresh) :
    (known.union ((step fresh).unseen known)).Has j ↔
      known.Has j ∨ ∃ i, known.Has i ∧ R i j := by
  have hNext := (h.length_union_unseen hKnown hFresh).1
  rw [Marks.has_union_iff (hKnown.trans hNext.symm),
    Marks.has_unseen_iff ((h.length_eq fresh hFresh).trans hKnown.symm), h.has_iff fresh hFresh]
  constructor
  · rintro (hj | ⟨⟨i, hi, hStep⟩, _⟩)
    · exact .inl hj
    · exact .inr ⟨i, hClosed.fresh_known i hi, hStep⟩
  · rintro (hj | ⟨i, hi, hStep⟩)
    · exact .inl hj
    · by_cases hj : known.Has j
      · exact .inl hj
      · refine .inr ⟨⟨i, ?_, hStep⟩, hj⟩
        by_contra hOld
        exact hj (hClosed.closed i j hi hOld hStep)

/-- After a round the positions that it added are the fresh ones. -/
theorem closedExcept_union_unseen (h : Sends positions step R)
    (hKnown : known.length = positions) (hFresh : fresh.length = positions)
    (hClosed : ClosedExcept R known fresh) :
    ClosedExcept R (known.union ((step fresh).unseen known)) ((step fresh).unseen known) := by
  have hNext := (h.length_union_unseen hKnown hFresh).1
  have hUnion {i} := Marks.has_union_iff (i := i) (hKnown.trans hNext.symm)
  refine ⟨fun i hi => hUnion.mpr (.inr hi), fun i j hi hOld hStep => ?_⟩
  rw [h.has_union_unseen_iff hKnown hFresh hClosed]
  exact .inr ⟨i, (hUnion.mp hi).resolve_right hOld, hStep⟩

/-- A step less from what a round knows is a step more from what was known. -/
theorem exists_times_iff_of_round {round : Marks}
    (hRound : ∀ j, round.Has j ↔ known.Has j ∨ ∃ i, known.Has i ∧ R i j) (count : Nat) :
    (∃ i, round.Has i ∧ ∃ steps ≤ count, Times R steps i j) ↔
      ∃ i, known.Has i ∧ ∃ steps ≤ count + 1, Times R steps i j := by
  constructor
  · rintro ⟨k, hk, steps, hSteps, hTimes⟩
    rcases (hRound k).mp hk with hk | ⟨i, hi, hHead⟩
    · exact ⟨k, hk, steps, by omega, hTimes⟩
    · exact ⟨i, hi, steps + 1, by omega, k, hHead, hTimes⟩
  · rintro ⟨i, hi, steps, hSteps, hTimes⟩
    cases steps with
    | zero => exact ⟨i, (hRound i).mpr (.inl hi), 0, Nat.zero_le _, hTimes⟩
    | succ steps =>
        obtain ⟨k, hHead, hTail⟩ := hTimes
        exact ⟨k, (hRound k).mpr (.inr ⟨i, hi, hHead⟩), steps, by omega, hTail⟩

/-- The known positions are collected, and those that some steps from there lead to. -/
theorem collect_of_closedExcept (h : Sends positions step R) (count : Nat) :
    ∀ {known fresh : Marks}, known.length = positions → fresh.length = positions →
      ClosedExcept R known fresh →
        (Marks.collect step count known fresh).length = positions ∧
          ∀ j, (Marks.collect step count known fresh).Has j ↔
            ∃ i, known.Has i ∧ ∃ steps ≤ count, Times R steps i j := by
  induction count with
  | zero =>
      intro known fresh hKnown _ _
      refine ⟨hKnown, fun j => ?_⟩
      simp [Marks.collect, Times]
  | succ count ih =>
      intro known fresh hKnown hFresh hClosed
      have hRound (j) := h.has_union_unseen_iff (j := j) hKnown hFresh hClosed
      obtain ⟨hNext, hUnion⟩ := h.length_union_unseen hKnown hFresh
      have hCollect : Marks.collect step (count + 1) known fresh =
          if ((step fresh).unseen known).any then
            Marks.collect step count (known.union ((step fresh).unseen known))
              ((step fresh).unseen known)
          else known := rfl
      rw [hCollect]
      split
      · obtain ⟨hLength, hHas⟩ :=
          ih hUnion hNext (h.closedExcept_union_unseen hKnown hFresh hClosed)
        exact ⟨hLength, fun j => (hHas j).trans (exists_times_iff_of_round hRound count)⟩
      · -- No step leads out of the known positions.
        rename_i hNone
        rw [Marks.any_iff, not_exists] at hNone
        have hStays (i) (j) (hStep : R i j) (hi : known.Has i) : known.Has j := by
          have hj := (hRound j).mpr (.inr ⟨i, hi, hStep⟩)
          rw [Marks.has_union_iff (hKnown.trans hNext.symm)] at hj
          exact hj.resolve_right (hNone j)
        refine ⟨hKnown, fun j => ⟨fun hj => ⟨j, hj, 0, Nat.zero_le _, rfl⟩, ?_⟩⟩
        rintro ⟨i, hi, steps, _, hTimes⟩
        exact hTimes.preserves hStays hi

/-- What up to a number of steps lead to is collected. -/
theorem collect (h : Sends positions step R) (count : Nat) :
    Sends positions (fun a => Marks.collect step count a a)
      fun i j => ∃ steps ≤ count, Times R steps i j := by
  have hAll (a : Marks) : ClosedExcept R a a :=
    ⟨fun _ hi => hi, fun _ _ hi hOld _ => (hOld hi).elim⟩
  exact ⟨fun a ha => (h.collect_of_closedExcept count ha ha (hAll a)).1,
    fun a ha => (h.collect_of_closedExcept count ha ha (hAll a)).2⟩

end Collecting

end Sends

namespace Expr

variable {text : List Char} {i j : Nat}

/-- Repetitions are followed far enough. -/
theorem matches_repeated_iff {least : Nat} {most : Option Nat} {e : Expr} (hi : i ≤ text.length) :
    (Expr.repeated least most e).Matches text i j ↔
      ∃ k, Times (e.Matches text) least i k ∧
        ∃ steps ≤ min ((most.map (· - least)).getD (text.length + 1)) (text.length + 1),
          Times (e.Matches text) steps k j := by
  constructor
  · rintro ⟨count, hLeast, hMost, hTimes⟩
    rw [← Nat.add_sub_cancel' hLeast, Times.add_iff] at hTimes
    obtain ⟨k, hFirst, hRest⟩ := hTimes
    have hWithin {count i j} (h : Times (e.Matches text) count i j) :
        i ≤ text.length → j ≤ text.length :=
      h.preserves (P := (· ≤ text.length)) fun _ _ => Matches.le_length
    have hj : j ≤ text.length := hWithin hRest (hWithin hFirst hi)
    obtain ⟨steps, hSteps, hLength, hShort⟩ := hRest.exists_le_sub fun _ _ => Matches.le
    refine ⟨k, hFirst, steps, le_min ?_ (by omega), hShort⟩
    cases most with
    | none =>
        rw [Option.map_none, Option.getD_none]
        omega
    | some m =>
        have hCount := hMost m rfl
        rw [Option.map_some, Option.getD_some]
        omega
  · rintro ⟨k, hFirst, steps, hSteps, hRest⟩
    refine ⟨least + steps, Nat.le_add_right _ _, ?_, Times.add_iff.mpr ⟨k, hFirst, hRest⟩⟩
    rintro m rfl
    rw [Option.map_some, Option.getD_some] at hSteps
    omega

/-- From a set of positions, an expression reaches the ends of its matches. -/
theorem sends_reach (text : List Char) (e : Expr) :
    Sends (text.length + 1) (e.reach text) (e.Matches text) := by
  induction e with
  | empty => exact .refl
  | chars set => exact .advance
  | look condition => exact .restrict
  | concat e f ihe ihf => exact ihe.comp ihf
  | either e f ihe ihf => exact ihe.union ihf
  | repeated least most e ih =>
      have hSteps := (ih.iterate least).comp
        (ih.collect (min ((most.map (· - least)).getD (text.length + 1)) (text.length + 1)))
      refine ⟨hSteps.length_eq, fun a ha j => (hSteps.has_iff a ha j).trans ?_⟩
      refine exists_congr fun i => and_congr_right fun hi => ?_
      have hLess := hi.lt_length
      exact (matches_repeated_iff (by omega)).symm

/-- An expression is found in the texts that it has a match in. -/
theorem occursIn_iff {e : Expr} {text : String} :
    e.occursIn text.toList = true ↔ e.OccursIn text := by
  have hSends := e.sends_reach text.toList
  rw [occursIn, Marks.any_iff]
  simp only [hSends.has_iff _ List.length_replicate, Marks.has_replicate_iff, Nat.lt_succ_iff]
  constructor
  · rintro ⟨j, i, hi, hMatch⟩
    exact ⟨i, j, hi, hMatch⟩
  · rintro ⟨i, j, hi, hMatch⟩
    exact ⟨j, i, hi, hMatch⟩

/-- One character at the start is found in the texts that begin with it. -/
theorem occursIn_iff_head?_eq {c : Char} {text : String} :
    (concat (.look .textStart) (single c)).OccursIn text ↔ text.toList.head? = some c := by
  rw [OccursIn, List.head?_eq_getElem?]
  constructor
  · rintro ⟨i, j, hi, k, hStart, hChar⟩
    obtain ⟨_, rfl⟩ := (matches_textStart_iff hi).mp hStart
    exact (matches_single_iff.mp hChar).2
  · intro hChar
    have hStart : (look .textStart).Matches text.toList 0 0 :=
      (matches_textStart_iff (Nat.zero_le _)).mpr ⟨rfl, rfl⟩
    exact ⟨0, 1, Nat.zero_le _, 0, hStart, matches_single_iff.mpr ⟨rfl, hChar⟩⟩

end Expr
end Pattern

/-- An expression is found in the texts that it has a match in. -/
structure Readers.Lawful (R : Readers) : Prop where
  finds_iff : ∀ (e : Pattern.Expr) (text : String), R.finds e text = true ↔ e.OccursIn text

theorem Readers.standard_lawful : Readers.standard.Lawful where
  finds_iff _ _ := Pattern.Expr.occursIn_iff

variable {R : Readers}

/-- There is a match of the pattern in the text. -/
def Pattern.OccursIn (p : Pattern R) (text : String) : Prop := p.expr.OccursIn text

theorem Readers.Lawful.isMatch_iff (h : R.Lawful) {p : Pattern R} {text : String} :
    p.isMatch text = true ↔ p.OccursIn text :=
  h.finds_iff p.expr text

end DataContract
