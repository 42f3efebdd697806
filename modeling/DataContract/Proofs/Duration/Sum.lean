import DataContract.Proofs.Duration.Reading
/-!
# The sum of a duration

The amounts of a text are added in 64-bit integers, and a step whose exact result is no
64-bit integer ends the sum.  As nothing is ever taken away, the exact sums grow from step to
step, so that the sum fails somewhere exactly when the exact sum of all groups is no 64-bit
integer.  What is left is far below that bound when it is a duration.

**Results.**
* `foldlM_eq_some_iff`: growing exact sums are followed step by step, or left for good.
* `sum?_eq_some_iff`: the sum of the amounts of groups is the exact one.
* `read_outcome`: the outcome for every text.
-/

namespace DataContract
namespace Duration

theorem exists_toInt_eq {n : Nat} (h : n < 0x8000000000000000) : ∃ s : Int64, s.toInt = n :=
  ⟨.ofNat n, Int64.toInt_ofNat_of_lt h⟩

section Folds

variable {α : Type} {step : Int64 → α → Option Int64} {exact : Nat → α → Nat}

theorem le_foldl {as : List α} (h : ∀ a ∈ as, ∀ n, n ≤ exact n a) :
    ∀ n, n ≤ as.foldl exact n := by
  induction as with
  | nil => exact fun n => Nat.le_refl n
  | cons a as ih =>
      intro n
      rw [List.forall_mem_cons] at h
      exact Nat.le_trans (h.1 n) (ih h.2 (exact n a))

/-- Steps that have the exact result, or none where that is no 64-bit integer, have the exact
result together when it grows from step to step. -/
theorem foldlM_eq_some_iff {as : List α} (hMono : ∀ a ∈ as, ∀ n, n ≤ exact n a)
    (hStep : ∀ a ∈ as, ∀ (s t : Int64) (n : Nat), s.toInt = n →
      (step s a = some t ↔ t.toInt = exact n a)) :
    ∀ (s t : Int64) (n : Nat), s.toInt = n →
      (as.foldlM step s = some t ↔ t.toInt = as.foldl exact n) := by
  induction as with
  | nil =>
      intro s t n hn
      rw [List.foldlM_nil, List.foldl_nil, ← hn, Option.pure_def, Option.some.injEq,
        ← Int64.toInt_inj]
      exact eq_comm
  | cons a as ih =>
      intro s t n hn
      rw [List.forall_mem_cons] at hMono hStep
      rw [List.foldlM_cons, List.foldl_cons]
      cases hFirst : step s a with
      | some s' => exact ih hMono.2 hStep.2 s' t _ ((hStep.1 s s' n hn).mp hFirst)
      | none =>
          -- The first exact result is out of range, and so is the last.
          have hOut : ¬ exact n a < 0x8000000000000000 := by
            intro h
            obtain ⟨s', hs'⟩ := exists_toInt_eq h
            rw [(hStep.1 s s' n hn).mpr hs'] at hFirst
            cases hFirst
          have hGrow := le_foldl hMono.2 (exact n a)
          have hUpper := t.toInt_lt
          refine iff_of_false (by simp) fun h => ?_
          omega

end Folds

/-- Digits are read as their number, where that is a 64-bit integer. -/
theorem number?_eq_some_iff {digits : List Char} {t : Int64} :
    number? digits = some t ↔ t.toInt = value digits := by
  rw [number?, value]
  refine foldlM_eq_some_iff ?_ ?_ 0 t 0 rfl
  · intro c _ n
    omega
  · intro c _ s t n hn
    have hTen : (10 : Int64).toInt = 10 := rfl
    simp only [Option.bind_eq_bind, Option.bind_eq_some_iff, checkedMul_eq_some_iff,
      checkedAdd_eq_some_iff, toInt_ofNat_digitValue, hn, hTen]
    constructor
    · rintro ⟨product, hProduct, hSum⟩
      omega
    · intro hSum
      have hUpper := t.toInt_lt
      obtain ⟨product, hProduct⟩ := exists_toInt_eq (n := n * 10) (by omega)
      exact ⟨product, by omega, by omega⟩

/-- The seconds of a unit are those of the table. -/
theorem unitSeconds_eq {unit : List Char}
    (h : String.ofList (unit.map Char.toLower) ∈ unitTable.map Prod.fst) :
    0 < (unitTable.lookup (String.ofList (unit.map Char.toLower))).getD 0 ∧
      (unitSeconds unit).toInt =
        (unitTable.lookup (String.ofList (unit.map Char.toLower))).getD 0 := by
  rw [unitSeconds]
  generalize String.ofList (unit.map Char.toLower) = word at h ⊢
  revert word
  decide

/-- To add the amount of a group adds its seconds, where the sum is a 64-bit integer. -/
theorem addAmount_eq_some_iff {g : Group} (h : g.Spelled Char.toLower) {s t : Int64} {n : Nat}
    (hn : s.toInt = n) :
    addAmount s g.amount = some t ↔ t.toInt = (n + g.seconds : Nat) := by
  obtain ⟨hPos, hFactor⟩ := unitSeconds_eq h.unit_mem
  rw [Group.seconds]
  generalize (unitTable.lookup (String.ofList (g.unit.map Char.toLower))).getD 0 = factor at *
  have hNumber : value g.digits ≤ value g.digits * factor := Nat.le_mul_of_pos_right _ hPos
  simp only [addAmount, Group.amount, Option.bind_eq_bind, Option.bind_eq_some_iff,
    number?_eq_some_iff, checkedMul_eq_some_iff, checkedAdd_eq_some_iff, hn, hFactor]
  constructor
  · rintro ⟨number, hn', product, hProduct, hSum⟩
    rw [hn', ← Int.natCast_mul] at hProduct
    omega
  · intro hSum
    have hUpper := t.toInt_lt
    obtain ⟨number, hn'⟩ := exists_toInt_eq (n := value g.digits) (by omega)
    obtain ⟨product, hProduct⟩ := exists_toInt_eq (n := value g.digits * factor) (by omega)
    refine ⟨number, hn', product, ?_, by omega⟩
    rw [hn', hProduct, Int.natCast_mul]

section Groups

variable {groups : List Group} {text : String} {sign : Option Char}

theorem foldl_seconds_eq (groups : List Group) :
    ∀ n, groups.foldl (fun n g => n + g.seconds) n = n + total groups := by
  induction groups with
  | nil => exact fun n => rfl
  | cons g groups ih =>
      intro n
      rw [List.foldl_cons, ih, total, Nat.add_assoc]

/-- The sum of the amounts of groups is the exact one, where that is a 64-bit integer. -/
theorem sum?_eq_some_iff (h : ∀ g ∈ groups, g.Spelled Char.toLower) {t : Int64} :
    sum? (groups.map Group.amount) = some t ↔ t.toInt = total groups := by
  have hFold : groups.foldlM (fun s g => addAmount s g.amount) 0 = some t ↔
      t.toInt = (groups.foldl (fun n g => n + g.seconds) 0 : Nat) :=
    foldlM_eq_some_iff (fun g _ n => Nat.le_add_right n g.seconds)
      (fun g hg s t n hn => addAmount_eq_some_iff (h g hg) hn) 0 t 0 rfl
  rw [foldl_seconds_eq, Nat.zero_add] at hFold
  rw [sum?, List.foldlM_map]
  exact hFold

theorem resolve_of_not_written (h : ¬ ∃ sign groups, Written foldLetter text.toList sign groups) :
    resolve text = .error .malformed := by
  rw [resolve, first?_shape_eq_none_iff.mpr h]

theorem resolve_of_sum_eq_none (h : Written foldLetter text.toList sign groups)
    (hSum : sum? (groups.map Group.amount) = none) :
    resolve text = .error .outOfRange := by
  have hShape := first?_shape_eq_some_iff.mpr ⟨rfl, groups, h⟩
  simp only [resolve, hShape, amounts_eq_map_amount h, hSum]

theorem resolve_of_sum_eq_some (h : Written foldLetter text.toList sign groups) {t : Int64}
    (hSum : sum? (groups.map Group.amount) = some t) :
    resolve text = if (maxSeconds : Int) < t.toInt then .error .outOfRange
      else .ok (if sign = some '-' then -t else t) := by
  have hShape := first?_shape_eq_some_iff.mpr ⟨rfl, groups, h⟩
  simp only [resolve, hShape, amounts_eq_map_amount h, hSum]

theorem resolve_of_lt (h : Written Char.toLower text.toList sign groups)
    (hTotal : maxSeconds < total groups) :
    resolve text = .error .outOfRange := by
  cases hSum : sum? (groups.map Group.amount) with
  | none => exact resolve_of_sum_eq_none h.of_toLower hSum
  | some t =>
      rw [resolve_of_sum_eq_some h.of_toLower hSum]
      rw [sum?_eq_some_iff h.spelled_of_mem] at hSum
      exact if_pos (by omega)

/-- A total that is no greater than the bound can be given a sign within 64 bits. -/
theorem exists_resolve_of_le (h : Written Char.toLower text.toList sign groups)
    (hTotal : total groups ≤ maxSeconds) :
    ∃ n, resolve text = .ok n ∧ n.toInt = signed sign (total groups) := by
  have hMax : maxSeconds < 0x8000000000000000 := by decide
  obtain ⟨t, ht⟩ := exists_toInt_eq (Nat.lt_of_le_of_lt hTotal hMax)
  have hIn : ¬ (maxSeconds : Int) < t.toInt := by omega
  rw [resolve_of_sum_eq_some h.of_toLower ((sum?_eq_some_iff h.spelled_of_mem).mpr ht)]
  refine ⟨_, if_neg hIn, ?_⟩
  rw [signed]
  split
  · rw [Int64.toInt_neg, ht, Int.bmod_eq_of_le]
    · omega
    · omega
  · exact ht

theorem natAbs_signed (sign : Option Char) (n : Nat) : (signed sign n).natAbs = n := by
  rw [signed]
  split <;> omega

/-- A text that is not written by the grammar is malformed.  Any other has one sign and one
list of groups.  It is out of range exactly when the exact total of the groups is; else it
stands for the total with the sign.  The amounts are those of the groups, and from the first
to the last of them a sum in 64-bit integers is the exact one or does not exist.  What is
made a duration is the signed total, and never out of range. -/
theorem read_outcome {text : String} (hText : 'ſ' ∉ text.toList) :
    ((¬ ∃ sign groups, Written Char.toLower text.toList sign groups) →
      read text = .error .malformed) ∧
    ∀ sign groups, Written Char.toLower text.toList sign groups →
      (∀ sign' groups', Written Char.toLower text.toList sign' groups' →
        sign' = sign ∧ groups' = groups) ∧
      (read text = .error .outOfRange ↔ maxSeconds < total groups) ∧
      (total groups ≤ maxSeconds →
        ∃ d, read text = .ok d ∧ d.seconds = signed sign (total groups)) ∧
      amounts text = groups.map Group.amount ∧
      (∀ front, front <+: groups → ∀ n : Int64,
        sum? (front.map Group.amount) = some n ↔ n.toInt = total front) ∧
      ∀ n, resolve text = .ok n →
        n.toInt = signed sign (total groups) ∧ n.toInt.natAbs ≤ maxSeconds := by
  constructor
  · intro h
    refine read_of_resolve_eq_error (resolve_of_not_written ?_)
    rintro ⟨sign, groups, hWritten⟩
    exact h ⟨sign, groups, hWritten.toLower hText⟩
  · intro sign groups h
    have hOk : total groups ≤ maxSeconds →
        ∃ d, read text = .ok d ∧ d.seconds = signed sign (total groups) := by
      intro hTotal
      obtain ⟨n, hResolve, hn⟩ := exists_resolve_of_le h hTotal
      exact ⟨_, read_of_resolve_eq_ok hResolve, hn⟩
    refine ⟨?_, ?_, hOk, amounts_eq_map_amount h.of_toLower, ?_, ?_⟩
    · intro sign' groups' h'
      exact h'.of_toLower.eq_of_written h.of_toLower
    · constructor
      · intro hRead
        refine Nat.lt_of_not_le fun hTotal => ?_
        obtain ⟨d, hOk, -⟩ := hOk hTotal
        rw [hRead] at hOk
        cases hOk
      · exact fun hTotal => read_of_resolve_eq_error (resolve_of_lt h hTotal)
    · intro front hFront n
      exact sum?_eq_some_iff fun g hg => h.spelled_of_mem g (hFront.subset hg)
    · intro n hResolve
      rcases Nat.lt_or_ge maxSeconds (total groups) with hTotal | hTotal
      · rw [resolve_of_lt h hTotal] at hResolve
        cases hResolve
      · obtain ⟨n', hResolve', hn⟩ := exists_resolve_of_le h hTotal
        rw [hResolve] at hResolve'
        cases hResolve'
        refine ⟨hn, ?_⟩
        rw [hn, natAbs_signed]
        exact hTotal

/-- `- 1 Day 02h3MIN` as it is written. -/
theorem written_backwards :
    Written Char.toLower "- 1 Day 02h3MIN".toList (some '-')
      [⟨['1'], [' '], ['D', 'a', 'y'], [' ']⟩, ⟨['0', '2'], [], ['h'], []⟩,
        ⟨['3'], [], ['M', 'I', 'N'], []⟩] where
  isSign_of_mem := fun _ hc => Or.inr (Option.some.inj hc).symm
  spelled_of_mem := by decide
  text_eq := ⟨[], [' '], List.forall_mem_nil _, List.forall_mem_singleton.mpr rfl, rfl⟩

/-- `- 1 Day 02h3MIN` is a day, two hours and three minutes back. -/
theorem read_backwards :
    'ſ' ∉ "- 1 Day 02h3MIN".toList ∧
      ∃ d, read "- 1 Day 02h3MIN" = .ok d ∧ d.seconds = -93780 := by
  have hText : 'ſ' ∉ "- 1 Day 02h3MIN".toList := by decide
  obtain ⟨-, -, hOk, -⟩ := (read_outcome hText).2 _ _ written_backwards
  exact ⟨hText, hOk (by decide)⟩

end Groups

end Duration
end DataContract
