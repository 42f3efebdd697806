/-!
# Ways to read

The beginning of a text can often be read in several ways: a run of digits may end after
any of them, and `d`, `day` and `days` all begin a text that begins with `days`.  A reader
lists the ways, the preferred one first.  What is read next restricts the choice, since a
way that cannot go on is dropped.
-/

namespace DataContract

/-- The ways to read the beginning of a text: what is read and what is left of the text, in
the order of preference. -/
def Ways (α : Type) : Type := List Char → List (α × List Char)

namespace Ways

variable {α β : Type}

/-- A way of the first reader comes before another with all that the second makes of it. -/
instance : Monad Ways where
  pure a := fun cs => [(a, cs)]
  bind p q := fun cs => (p cs).flatMap fun way => q way.1 way.2

/-- One character that passes a test. -/
def one (test : Char → Bool) : Ways Char
  | [] => []
  | c :: cs => if test c then [(c, cs)] else []

/-- Characters that pass a test, as many as possible. -/
def many (test : Char → Bool) : Ways (List Char)
  | [] => [([], [])]
  | c :: cs =>
      (if test c then (many test cs).map fun way => (c :: way.1, way.2) else []) ++ [([], c :: cs)]

/-- Characters that pass a test, at least one and as many as possible. -/
def atLeastOne (test : Char → Bool) : Ways (List Char) := do
  let c ← one test
  let cs ← many test
  return c :: cs

/-- The characters of a word, where letters are compared after a change. -/
def word (change : Char → Char) (w : List Char) : Ways (List Char) := fun cs =>
  let front := cs.take w.length
  if front.map change = w then [(front, cs.drop w.length)] else []

/-- What one of several readers reads, the first preferred. -/
def choice (ps : List (Ways α)) : Ways α := fun cs => ps.flatMap fun p => p cs

/-- What a reader reads, or else nothing. -/
def optional (p : Ways α) : Ways (Option α) := fun cs =>
  (p cs).map (fun way => (some way.1, way.2)) ++ [(none, cs)]

/-- What a reader of at least one character reads time after time, as often as possible. -/
def star (p : Ways α) : Ways (List α) := fun cs =>
  ((p cs).flatMap fun way =>
    if way.2.length < cs.length then
      (star p way.2).map fun more => (way.1 :: more.1, more.2)
    else []) ++ [([], cs)]
  termination_by cs => cs.length

/-- The end of the text. -/
def ending : Ways Unit := fun cs => if cs.isEmpty then [((), [])] else []

/-- The preferred way. -/
def first? (p : Ways α) (cs : List Char) : Option (α × List Char) := (p cs).head?

/-- What a reader of at least one character finds in a text: every search begins where the
reading before has ended, and the first place where the reader has a way is taken. -/
def occurrences (p : Ways α) : List Char → List α
  | [] => []
  | c :: cs =>
      match p.first? (c :: cs) with
      | none => occurrences p cs
      | some (a, rest) =>
          if rest.length ≤ cs.length then a :: occurrences p rest else occurrences p cs
  termination_by cs => cs.length

section Membership

variable {cs rest : List Char}

theorem pure_apply (a : α) : (pure a : Ways α) cs = [(a, cs)] := rfl

theorem bind_apply (p : Ways α) (q : α → Ways β) :
    (p >>= q) cs = (p cs).flatMap fun way => q way.1 way.2 := rfl

theorem mem_pure_iff {a b : α} :
    (b, rest) ∈ (pure a : Ways α) cs ↔ b = a ∧ rest = cs := by
  rw [pure_apply, List.mem_singleton, Prod.mk.injEq]

theorem mem_bind_iff {p : Ways α} {q : α → Ways β} {b : β} :
    (b, rest) ∈ (p >>= q) cs ↔ ∃ a mid, (a, mid) ∈ p cs ∧ (b, rest) ∈ q a mid := by
  simp only [bind_apply, List.mem_flatMap, Prod.exists]

theorem mem_one_iff {test : Char → Bool} {c : Char} :
    (c, rest) ∈ one test cs ↔ cs = c :: rest ∧ test c = true := by
  cases cs with
  | nil => simp [one]
  | cons d ds =>
      by_cases h : test d = true
      · rw [one, if_pos h, List.mem_singleton, Prod.mk.injEq, List.cons.injEq]
        constructor
        · rintro ⟨rfl, rfl⟩
          exact ⟨⟨rfl, rfl⟩, h⟩
        · rintro ⟨⟨rfl, rfl⟩, -⟩
          exact ⟨rfl, rfl⟩
      · rw [one, if_neg h]
        refine iff_of_false List.not_mem_nil ?_
        rintro ⟨hcs, hc⟩
        cases hcs
        exact h hc

theorem mem_many_iff {test : Char → Bool} :
    ∀ {cs run rest : List Char},
      (run, rest) ∈ many test cs ↔ cs = run ++ rest ∧ ∀ c ∈ run, test c = true
  | [], run, rest => by
      rw [many, List.mem_singleton, Prod.mk.injEq, eq_comm (a := []), List.append_eq_nil_iff]
      constructor
      · rintro ⟨rfl, rfl⟩
        exact ⟨⟨rfl, rfl⟩, fun c hc => absurd hc List.not_mem_nil⟩
      · rintro ⟨h, -⟩
        exact h
  | c :: cs, run, rest => by
      rw [many, List.mem_append, List.mem_singleton, Prod.mk.injEq]
      constructor
      · rintro (h | ⟨rfl, rfl⟩)
        · by_cases hc : test c = true
          · rw [if_pos hc, List.mem_map] at h
            obtain ⟨⟨run', rest'⟩, hMem, hEq⟩ := h
            cases hEq
            obtain ⟨rfl, hRun⟩ := mem_many_iff.mp hMem
            exact ⟨rfl, List.forall_mem_cons.mpr ⟨hc, hRun⟩⟩
          · rw [if_neg hc] at h
            exact absurd h List.not_mem_nil
        · exact ⟨rfl, fun c hc => absurd hc List.not_mem_nil⟩
      · rintro ⟨h, hRun⟩
        cases run with
        | nil => exact Or.inr ⟨rfl, h.symm⟩
        | cons d run =>
            cases h
            rw [List.forall_mem_cons] at hRun
            refine Or.inl ?_
            rw [if_pos hRun.1]
            exact List.mem_map_of_mem (mem_many_iff.mpr ⟨rfl, hRun.2⟩)

theorem mem_atLeastOne_iff {test : Char → Bool} {run : List Char} :
    (run, rest) ∈ atLeastOne test cs ↔
      cs = run ++ rest ∧ run ≠ [] ∧ ∀ c ∈ run, test c = true := by
  simp only [atLeastOne, mem_bind_iff, mem_one_iff, mem_many_iff, mem_pure_iff]
  constructor
  · rintro ⟨c, mid, ⟨rfl, hc⟩, run', mid', ⟨rfl, hRun⟩, rfl, rfl⟩
    exact ⟨rfl, List.cons_ne_nil _ _, List.forall_mem_cons.mpr ⟨hc, hRun⟩⟩
  · rintro ⟨rfl, hNonempty, hRun⟩
    cases run with
    | nil => exact absurd rfl hNonempty
    | cons c run =>
        rw [List.forall_mem_cons] at hRun
        exact ⟨c, run ++ rest, ⟨rfl, hRun.1⟩, run, rest, ⟨rfl, hRun.2⟩, rfl, rfl⟩

theorem mem_word_iff {change : Char → Char} {w front : List Char} :
    (front, rest) ∈ word change w cs ↔ cs = front ++ rest ∧ front.map change = w := by
  simp only [word]
  constructor
  · intro h
    split at h
    · rename_i hw
      cases List.mem_singleton.mp h
      exact ⟨(List.take_append_drop _ _).symm, hw⟩
    · exact absurd h List.not_mem_nil
  · rintro ⟨rfl, rfl⟩
    rw [List.length_map, List.take_left, List.drop_left, if_pos rfl]
    exact List.mem_singleton_self _

theorem mem_choice_iff {ps : List (Ways α)} {a : α} :
    (a, rest) ∈ choice ps cs ↔ ∃ p ∈ ps, (a, rest) ∈ p cs :=
  List.mem_flatMap

theorem mem_optional_iff {p : Ways α} {a : Option α} :
    (a, rest) ∈ optional p cs ↔
      (∃ b, a = some b ∧ (b, rest) ∈ p cs) ∨ a = none ∧ rest = cs := by
  simp only [optional, List.mem_append, List.mem_map, Prod.exists, Prod.mk.injEq,
    List.mem_singleton]
  constructor
  · rintro (⟨b, mid, hMem, rfl, rfl⟩ | h)
    · exact Or.inl ⟨b, rfl, hMem⟩
    · exact Or.inr h
  · rintro (⟨b, rfl, hMem⟩ | h)
    · exact Or.inl ⟨b, rest, hMem, rfl, rfl⟩
    · exact Or.inr h

theorem mem_star_iff {p : Ways α} {as : List α} :
    (as, rest) ∈ star p cs ↔
      (∃ a mid more, (a, mid) ∈ p cs ∧ mid.length < cs.length ∧ (more, rest) ∈ star p mid ∧
        as = a :: more) ∨ as = [] ∧ rest = cs := by
  rw [star, List.mem_append, List.mem_singleton, Prod.mk.injEq, List.mem_flatMap]
  refine or_congr_left ?_
  constructor
  · rintro ⟨⟨a, mid⟩, hMem, h⟩
    split at h
    · rename_i hLength
      obtain ⟨⟨more, rest'⟩, hMore, hEq⟩ := List.mem_map.mp h
      cases hEq
      exact ⟨a, mid, more, hMem, hLength, hMore, rfl⟩
    · exact absurd h List.not_mem_nil
  · rintro ⟨a, mid, more, hMem, hLength, hMore, rfl⟩
    refine ⟨(a, mid), hMem, ?_⟩
    rw [if_pos hLength]
    exact List.mem_map_of_mem hMore

theorem mem_ending_iff {u : Unit} : (u, rest) ∈ ending cs ↔ cs = [] ∧ rest = [] := by
  cases cs <;> simp [ending]

end Membership

section Occurrences

variable {p : Ways α}

/-- Where the reader has no way, the search goes on behind the first character. -/
theorem occurrences_cons_of_nil {c : Char} {cs : List Char} (h : p (c :: cs) = []) :
    occurrences p (c :: cs) = occurrences p cs := by
  rw [occurrences, first?, h, List.head?_nil]

/-- A reading of at least one character counts, and the search goes on behind it. -/
theorem occurrences_of_first? {cs rest : List Char} {a : α} (h : p.first? cs = some (a, rest))
    (hLength : rest.length < cs.length) :
    occurrences p cs = a :: occurrences p rest := by
  cases cs with
  | nil => exact absurd hLength (Nat.not_lt_zero _)
  | cons c cs =>
      have hBehind : rest.length ≤ cs.length := Nat.le_of_lt_succ hLength
      rw [occurrences, h]
      exact if_pos hBehind

end Occurrences

end Ways
end DataContract
