import DataContract.Proofs.Duration.Grammar
/-!
# What is read of a duration

A text is looked at twice.  The reader of the whole text decides whether it is written by
the grammar and finds its sign.  The search for amounts starts anew and knows nothing of
the groups: it takes the first place where an amount can be read, in the preferred way, and
goes on behind it.  In a written text the places are the beginnings of the groups, since
blanks and signs begin no amount, and the preferred way reads all digits and the whole word,
since no word for a unit is the beginning of one that is tried later.

**Results.**
* `first?_shape_eq_some_iff`: the shape has a sign exactly where the grammar has it.
* `amounts_eq_map_amount`: the amounts of a written text are those of its groups, in order.
-/

namespace DataContract

namespace Ways

variable {change : Char → Char} {ws : List (List Char)} {word rest : List Char}

/-- A reader that tries no beginning of a word before the word reads the whole word, unless
the text behind goes on as a longer word does. -/
theorem first?_choice_word {isLetter : Char → Bool}
    (hOrder : ws.Pairwise fun v w => ¬ v <+: w)
    (hLetters : ∀ w ∈ ws, ∀ c ∈ w, isLetter c = true) (hWord : word.map change ∈ ws)
    (hRest : StartsOutside (fun c => isLetter (change c)) rest) :
    first? (choice (ws.map (Ways.word change))) (word ++ rest) = some (word, rest) := by
  induction ws with
  | nil => cases hWord
  | cons v ws ih =>
      rw [List.pairwise_cons] at hOrder
      rw [List.forall_mem_cons] at hLetters
      rw [first?, choice, List.map_cons, List.flatMap_cons]
      by_cases hv : word.map change = v
      · subst hv
        simp [Ways.word]
      · have hMem : word.map change ∈ ws := (List.mem_cons.mp hWord).resolve_left hv
        have hNone : Ways.word change v (word ++ rest) = [] := by
          refine List.eq_nil_iff_forall_not_mem.mpr ?_
          rintro ⟨front, back⟩ h
          obtain ⟨hEq, hFront⟩ := mem_word_iff.mp h
          rcases List.append_eq_append_iff.mp hEq with ⟨more, rfl, rfl⟩ | ⟨more, rfl, rfl⟩
          · -- The word tried goes on behind `word`, but no letter stands there.
            cases more with
            | nil => exact hv (by rw [← hFront, List.append_nil])
            | cons c more =>
                rw [List.cons_append, StartsOutside.cons_iff] at hRest
                rw [hLetters.1 (change c) (by simp [← hFront])] at hRest
                cases hRest
          · refine hOrder.1 _ hMem ?_
            rw [← hFront, List.map_append]
            exact List.prefix_append _ _
        rw [hNone, List.nil_append]
        exact ih hOrder.2 hLetters.2 hMem

/-- To change what is read changes nothing about the preference. -/
theorem first?_bind_pure_of_eq {α β : Type} {p : Ways α} {cs rest : List Char} {a : α} {f : α → β}
    (h : p.first? cs = some (a, rest)) :
    (p >>= fun a => pure (f a)).first? cs = some (f a, rest) := by
  rw [first?, List.head?_eq_some_iff] at h
  obtain ⟨ways, hWays⟩ := h
  rw [first?, bind_apply, hWays, List.flatMap_cons]
  rfl

end Ways

namespace Duration

theorem mem_unitWords_iff {word : String} :
    word ∈ unitWords ↔ word ∈ unitTable.map Prod.fst := by
  constructor
  · revert word
    decide
  · revert word
    decide

theorem pairwise_unitWords :
    (unitWords.map String.toList).Pairwise fun v w => ¬ v <+: w := by
  decide

theorem unit_eq :
    unit = Ways.choice ((unitWords.map String.toList).map (Ways.word foldLetter)) := by
  rw [unit, List.map_map]
  rfl

section Membership

variable {cs rest : List Char}

theorem mem_unit_iff {word : List Char} :
    (word, rest) ∈ unit cs ↔
      cs = word ++ rest ∧ String.ofList (word.map foldLetter) ∈ unitTable.map Prod.fst := by
  rw [unit, Ways.mem_choice_iff, ← mem_unitWords_iff]
  constructor
  · rintro ⟨p, hp, hMem⟩
    obtain ⟨w, hw, rfl⟩ := List.mem_map.mp hp
    obtain ⟨hText, hWord⟩ := Ways.mem_word_iff.mp hMem
    refine ⟨hText, ?_⟩
    rw [hWord, String.ofList_toList]
    exact hw
  · rintro ⟨hText, hWord⟩
    refine ⟨_, List.mem_map_of_mem hWord, ?_⟩
    exact Ways.mem_word_iff.mpr ⟨hText, String.toList_ofList.symm⟩

/-- An amount with the blanks behind it is a group. -/
theorem mem_amount_bind_blanks_iff {after : List Char} :
    (after, rest) ∈ (amount >>= fun _ => Ways.many isBlank) cs ↔
      ∃ g : Group, g.Spelled foldLetter ∧ g.after = after ∧ cs = g.text ++ rest := by
  simp only [amount, Ways.mem_bind_iff, Ways.mem_atLeastOne_iff, Ways.mem_many_iff, mem_unit_iff,
    Ways.mem_pure_iff]
  constructor
  · rintro ⟨_, _, ⟨digits, _, ⟨rfl, hNonempty, hDigits⟩, gap, _, ⟨rfl, hGap⟩, word, _,
      ⟨rfl, hWord⟩, rfl, rfl⟩, rfl, hAfter⟩
    refine ⟨⟨digits, gap, word, after⟩, ⟨hNonempty, hDigits, hGap, hWord, hAfter⟩, rfl, ?_⟩
    simp only [Group.text, List.append_assoc]
  · rintro ⟨⟨digits, gap, word, after⟩, h, rfl, rfl⟩
    refine ⟨⟨digits, word⟩, after ++ rest, ⟨digits, gap ++ (word ++ (after ++ rest)),
      ⟨?_, h.digits_ne_nil, h.isDigit_of_mem⟩, gap, _, ⟨rfl, h.isBlank_of_mem_gap⟩, word, _,
      ⟨rfl, h.unit_mem⟩, rfl, rfl⟩, rfl, h.isBlank_of_mem_after⟩
    simp only [Group.text, List.append_assoc]

/-- Amounts with blanks behind them, time after time, are groups. -/
theorem exists_mem_star_iff :
    (∃ blanks, (blanks, rest) ∈ Ways.star (amount >>= fun _ => Ways.many isBlank) cs) ↔
      ∃ groups : List Group, (∀ g ∈ groups, g.Spelled foldLetter) ∧
        cs = groups.flatMap Group.text ++ rest := by
  constructor
  · rintro ⟨blanks, h⟩
    induction blanks generalizing cs with
    | nil =>
        rcases Ways.mem_star_iff.mp h with ⟨_, _, _, -, -, -, hEq⟩ | ⟨-, rfl⟩
        · cases hEq
        · exact ⟨[], fun g hg => absurd hg List.not_mem_nil, rfl⟩
    | cons after blanks ih =>
        rcases Ways.mem_star_iff.mp h with ⟨after', mid, more, hFirst, -, hMore, hEq⟩ | ⟨hEq, -⟩
        · cases hEq
          obtain ⟨g, hg, -, rfl⟩ := mem_amount_bind_blanks_iff.mp hFirst
          obtain ⟨groups, hGroups, rfl⟩ := ih hMore
          refine ⟨g :: groups, List.forall_mem_cons.mpr ⟨hg, hGroups⟩, ?_⟩
          rw [List.flatMap_cons, List.append_assoc]
        · cases hEq
  · rintro ⟨groups, hGroups, rfl⟩
    induction groups with
    | nil => exact ⟨[], Ways.mem_star_iff.mpr (Or.inr ⟨rfl, rfl⟩)⟩
    | cons g groups ih =>
        rw [List.forall_mem_cons] at hGroups
        obtain ⟨blanks, hBlanks⟩ := ih hGroups.2
        have hLength := List.length_pos_iff.mpr hGroups.1.digits_ne_nil
        refine ⟨g.after :: blanks, Ways.mem_star_iff.mpr (Or.inl
          ⟨g.after, groups.flatMap Group.text ++ rest, blanks, ?_, ?_, hBlanks, rfl⟩)⟩
        · rw [List.flatMap_cons, List.append_assoc]
          exact mem_amount_bind_blanks_iff.mpr ⟨g, hGroups.1, rfl, rfl⟩
        · simp only [List.flatMap_cons, Group.text, List.length_append]
          omega

theorem mem_sign_iff {sign : Option Char} :
    (sign, rest) ∈ Duration.sign cs ↔
      cs = sign.toList ++ rest ∧ ∀ c ∈ sign, c = '+' ∨ c = '-' := by
  rw [Duration.sign, Ways.mem_optional_iff]
  cases sign with
  | none => simp [eq_comm]
  | some c => simp [Ways.mem_one_iff]

/-- The shape of a whole text is the grammar. -/
theorem mem_shape_iff {sign : Option Char} :
    (sign, rest) ∈ shape cs ↔ rest = [] ∧ ∃ groups, Written foldLetter cs sign groups := by
  simp only [shape, Ways.mem_bind_iff, Ways.mem_many_iff, mem_sign_iff, Ways.mem_ending_iff,
    Ways.mem_pure_iff]
  constructor
  · rintro ⟨before, _, ⟨rfl, hBefore⟩, sign', _, ⟨rfl, hSign⟩, between, _, ⟨rfl, hBetween⟩, blanks,
      _, hStar, _, _, ⟨rfl, rfl⟩, rfl, rfl⟩
    obtain ⟨groups, hGroups, rfl⟩ := exists_mem_star_iff.mp ⟨blanks, hStar⟩
    rw [List.append_nil]
    exact ⟨rfl, groups, hSign, hGroups, before, between, hBefore, hBetween, rfl⟩
  · rintro ⟨rfl, groups, hSign, hGroups, before, between, hBefore, hBetween, rfl⟩
    obtain ⟨blanks, hStar⟩ := exists_mem_star_iff.mpr ⟨groups, hGroups, rfl⟩
    rw [List.append_nil] at hStar
    exact ⟨before, _, ⟨rfl, hBefore⟩, sign, _, ⟨rfl, hSign⟩, between, _, ⟨rfl, hBetween⟩, blanks,
      [], hStar, (), [], ⟨rfl, rfl⟩, rfl, rfl⟩

end Membership

/-- The preferred way to read a whole text has the sign of the text, as has every way. -/
theorem first?_shape_eq_some_iff {cs rest : List Char} {sign : Option Char} :
    shape.first? cs = some (sign, rest) ↔
      rest = [] ∧ ∃ groups, Written foldLetter cs sign groups := by
  constructor
  · intro h
    exact mem_shape_iff.mp (List.mem_of_head? h)
  · rintro ⟨rfl, groups, hWritten⟩
    have hMem : (sign, []) ∈ shape cs := mem_shape_iff.mpr ⟨rfl, groups, hWritten⟩
    cases hFirst : shape.first? cs with
    | none =>
        rw [Ways.first?, List.head?_eq_none_iff] at hFirst
        exact absurd hFirst (List.ne_nil_of_mem hMem)
    | some way =>
        obtain ⟨sign', rest'⟩ := way
        obtain ⟨rfl, groups', hWritten'⟩ := mem_shape_iff.mp (List.mem_of_head? hFirst)
        rw [(hWritten.eq_of_written hWritten').1]

theorem first?_shape_eq_none_iff {cs : List Char} :
    shape.first? cs = none ↔ ¬ ∃ sign groups, Written foldLetter cs sign groups := by
  rw [Option.eq_none_iff_forall_ne_some]
  constructor
  · rintro h ⟨sign, groups, hWritten⟩
    exact h _ (first?_shape_eq_some_iff.mpr ⟨rfl, groups, hWritten⟩)
  · rintro h ⟨sign, rest⟩ hFirst
    obtain ⟨-, groups, hWritten⟩ := first?_shape_eq_some_iff.mp hFirst
    exact h ⟨sign, groups, hWritten⟩

section Amounts

variable {cs rest : List Char} {g : Group} {groups : List Group}

theorem unit_cons_eq_nil {c : Char} (hc : isUnitLetter c = false) : unit (c :: cs) = [] := by
  refine List.eq_nil_iff_forall_not_mem.mpr ?_
  rintro ⟨word, rest⟩ hMem
  obtain ⟨hText, hWord⟩ := mem_unit_iff.mp hMem
  obtain ⟨hNonempty, hLower⟩ := isLower_of_mem_unitTable _ hWord
  rw [String.toList_ofList] at hNonempty hLower
  rw [List.all_eq_true] at hLower
  cases word with
  | nil => exact hNonempty rfl
  | cons d word =>
      cases hText
      have hLetter := isUnitLetter_of_isLower_foldLetter
        (hLower (foldLetter c) (List.mem_map_of_mem List.mem_cons_self))
      rw [hLetter] at hc
      cases hc

/-- The whole word of a group is preferred to its beginnings. -/
theorem first?_unit (h : g.Spelled foldLetter) (hRest : StartsOutside isUnitLetter rest) :
    unit.first? (g.unit ++ rest) = some (g.unit, rest) := by
  have hWord : String.ofList (g.unit.map foldLetter) ∈ unitWords := mem_unitWords_iff.mpr h.unit_mem
  have hLetters : ∀ w ∈ unitWords.map String.toList, ∀ c ∈ w, c.isLower = true := by
    intro w hw
    obtain ⟨word, hMem, rfl⟩ := List.mem_map.mp hw
    exact List.all_eq_true.mp (isLower_of_mem_unitTable word (mem_unitWords_iff.mp hMem)).2
  have hEnd : StartsOutside (fun c => (foldLetter c).isLower) rest := by
    intro c hc
    rw [← Bool.not_eq_true]
    intro hLower
    have hOutside := hRest c hc
    rw [isUnitLetter_of_isLower_foldLetter hLower] at hOutside
    cases hOutside
  rw [unit_eq]
  exact Ways.first?_choice_word pairwise_unitWords hLetters
    (List.mem_map.mpr ⟨_, hWord, String.toList_ofList⟩) hEnd

theorem amount_cons_eq_nil {c : Char} (hc : c.isDigit = false) : amount (c :: cs) = [] := by
  rw [amount, Ways.bind_apply, Ways.atLeastOne, Ways.bind_apply, Ways.one, hc]
  rfl

/-- Blanks before a unit are read to their end, as no unit begins with a blank. -/
theorem blanks_bind_unit_eq {gap : List Char} (hGap : ∀ c ∈ gap, isBlank c = true)
    (hRest : StartsOutside isBlank rest) (q : List Char → Ways Amount) :
    (Ways.many isBlank >>= fun _ => unit >>= q) (gap ++ rest) = (unit >>= q) rest := by
  refine Ways.many_bind_of_run hGap hRest fun _ c cs hc => ?_
  rw [Ways.bind_apply, unit_cons_eq_nil (not_isUnitLetter_of_isBlank hc), List.flatMap_nil]

/-- All digits of a group and its whole word are preferred. -/
theorem first?_amount (h : g.Spelled foldLetter) (hRest : AtGroup rest) :
    amount.first? (g.text ++ rest) = some (g.amount, g.after ++ rest) := by
  have hUnit : StartsOutside isBlank (g.unit ++ (g.after ++ rest)) :=
    h.startsOutside_unit fun _ => not_isBlank_of_isUnitLetter
  have hDigits : ∀ (digits : List Char) (c : Char) (cs : List Char), c.isDigit = true →
      (Ways.many isBlank >>= fun _ => unit >>= fun word => pure ⟨digits, word⟩ : Ways Amount)
        (c :: cs) = [] := by
    intro digits c cs hc
    have hBlank : StartsOutside isBlank (c :: cs) :=
      StartsOutside.cons_iff.mpr (not_isBlank_of_isDigit hc)
    have hNone := blanks_bind_unit_eq (List.forall_mem_nil _) hBlank fun word =>
      pure ⟨digits, word⟩
    rw [List.nil_append] at hNone
    rw [hNone, Ways.bind_apply, unit_cons_eq_nil (not_isUnitLetter_of_isDigit hc),
      List.flatMap_nil]
  simp only [Group.text, List.append_assoc]
  rw [Ways.first?, amount, Ways.atLeastOne_bind_of_run h.digits_ne_nil h.isDigit_of_mem
    h.startsOutside_gap hDigits, blanks_bind_unit_eq h.isBlank_of_mem_gap hUnit]
  exact Ways.first?_bind_pure_of_eq (first?_unit h (h.startsOutside_after hRest))

/-- No amount is found among blanks and signs. -/
theorem occurrences_amount_append {front : List Char} (h : ∀ c ∈ front, c.isDigit = false) :
    Ways.occurrences amount (front ++ cs) = Ways.occurrences amount cs := by
  induction front with
  | nil => rfl
  | cons c front ih =>
      rw [List.forall_mem_cons] at h
      rw [List.cons_append, Ways.occurrences_cons_of_nil (amount_cons_eq_nil h.1), ih h.2]

theorem occurrences_amount_flatMap_text (h : ∀ g ∈ groups, g.Spelled foldLetter) :
    Ways.occurrences amount (groups.flatMap Group.text) = groups.map Group.amount := by
  induction groups with
  | nil => rw [List.flatMap_nil, Ways.occurrences, List.map_nil]
  | cons g groups ih =>
      rw [List.forall_mem_cons] at h
      have hFirst := first?_amount h.1 (atGroup_flatMap_text h.2)
      have hNonempty := List.length_pos_iff.mpr h.1.digits_ne_nil
      have hLength : (g.after ++ groups.flatMap Group.text).length <
          (g.text ++ groups.flatMap Group.text).length := by
        simp only [Group.text, List.length_append]
        omega
      rw [List.flatMap_cons, Ways.occurrences_of_first? hFirst hLength,
        occurrences_amount_append fun c hc =>
          not_isDigit_of_isBlank (h.1.isBlank_of_mem_after c hc),
        ih h.2, List.map_cons]

/-- The amounts of a written text are those of its groups, in order. -/
theorem amounts_eq_map_amount {text : String} {sign : Option Char}
    (h : Written foldLetter text.toList sign groups) :
    amounts text = groups.map Group.amount := by
  obtain ⟨before, between, hBefore, hBetween, hText⟩ := h.text_eq
  have hSign : ∀ c ∈ sign.toList, c.isDigit = false := by
    intro c hc
    rcases h.isSign_of_mem c (Option.mem_toList.mp hc) with rfl | rfl <;> rfl
  rw [amounts, hText,
    occurrences_amount_append fun c hc => not_isDigit_of_isBlank (hBefore c hc),
    occurrences_amount_append hSign,
    occurrences_amount_append fun c hc => not_isDigit_of_isBlank (hBetween c hc),
    occurrences_amount_flatMap_text h.spelled_of_mem]

end Amounts

end Duration
end DataContract
