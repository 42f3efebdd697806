import DataContract.Proofs.Value.Exact
import DataContract.Value
/-!
# Sameness of content

Values have the same content exactly when they say the same, so that sameness is an
equivalence on well-formed values.  A comparison of objects only looks from one side; as
many names on both sides make up for the other.

**Results.**
* `Number.sameValue_iff`: numbers are the same when their exact values are equal.
* `same_object_iff_of_sorted`: objects in order are compared name by name.
* `same_iff_toExact_eq`: values are the same when they say the same.
* `same_decides_toExact`: sameness decides equality of exact values, and is an equivalence.
-/

namespace DataContract

namespace Number

/-- The exact integer of a number is its value, if that is small. -/
theorem exactInteger?_eq_some_iff {m : Number} {n : Int} :
    m.exactInteger? = some n ↔ m.value = n ∧ n.natAbs < 2 ^ 127 := by
  cases m with
  | whole k inRange =>
      have hValue : (whole k inRange).value = k := rfl
      rw [hValue, Int.cast_inj]
      constructor
      · intro h
        obtain rfl : k = n := Option.some.inj h
        exact ⟨rfl, by omega⟩
      · rintro ⟨rfl, -⟩
        rfl
  | real x =>
      rw [exactInteger?, Option.filter_eq_some_iff, FiniteDouble.whole?_eq_some_iff,
        decide_eq_true_eq]
      exact Iff.rfl

theorem exactInteger?_congr {a b : Number} (h : a.value = b.value) :
    a.exactInteger? = b.exactInteger? := by
  ext n
  rw [exactInteger?_eq_some_iff, exactInteger?_eq_some_iff, h]

/-- Numbers are the same when their exact values are equal. -/
theorem sameValue_iff {a b : Number} : a.sameValue b = true ↔ a.value = b.value := by
  rw [sameValue]
  cases hA : a.exactInteger? with
  | some m =>
      cases hB : b.exactInteger? with
      | some n =>
          have hValueA := (exactInteger?_eq_some_iff.mp hA).1
          have hValueB := (exactInteger?_eq_some_iff.mp hB).1
          rw [beq_iff_eq, hValueA, hValueB, Int.cast_inj]
      | none =>
          refine iff_of_false Bool.false_ne_true fun h => ?_
          rw [exactInteger?_congr h, hB] at hA
          cases hA
  | none =>
      cases hB : b.exactInteger? with
      | some n =>
          refine iff_of_false Bool.false_ne_true fun h => ?_
          rw [exactInteger?_congr h, hB] at hA
          cases hA
      | none =>
          -- Only doubles have no exact integer.
          cases a with
          | whole k inRange => cases hA
          | real x =>
              cases b with
              | whole k inRange => cases hB
              | real y => exact FiniteDouble.sameValue_iff

/-- A number is the same as the literal of the integer that is read off it. -/
theorem sameValue_whole {m : Number} {n : Int}
    (inRange : -0x8000000000000000 ≤ n ∧ n < 0x10000000000000000)
    (h : m.integral? = some n) :
    (whole n inRange).sameValue m = true := by
  obtain ⟨k, hValue, hClamp⟩ := integral?_eq_some_iff.mp h
  have hMem := (@clamp_mem_iff k n n (by omega) (by omega)).mp ⟨hClamp.ge, hClamp.le⟩
  obtain rfl : k = n := le_antisymm hMem.2 hMem.1
  exact sameValue_iff.mpr hValue.symm

end Number

namespace Value

theorem sameItems_eq_true_iff {xs ys : List Value} :
    sameItems xs ys = true ↔ List.Forall₂ (fun x y => x.same y = true) xs ys := by
  induction xs generalizing ys with
  | nil => cases ys <;> simp [sameItems]
  | cons x xs ih =>
      cases ys with
      | nil => simp [sameItems]
      | cons y ys => rw [sameItems, Bool.and_eq_true, ih, List.forall₂_cons]

theorem sameEntries_eq_true_iff {xs ys : List (String × Value)} :
    sameEntries xs ys = true ↔
      ∀ entry ∈ xs, ∃ y, Entries.get? ys entry.1 = some y ∧ entry.2.same y = true := by
  induction xs with
  | nil => simp [sameEntries]
  | cons entry xs ih =>
      obtain ⟨name, x⟩ := entry
      rw [sameEntries, Bool.and_eq_true, ih, List.forall_mem_cons]
      cases Entries.get? ys name <;> simp

/-- Objects in order have the same content when they have the same names, and the same
content under each name. -/
theorem same_object_of_sorted {xs ys : Entries Value} (hx : xs.Sorted) (hy : ys.Sorted)
    (hNames : ∀ name, name ∈ xs.names ↔ name ∈ ys.names)
    (hSame : ∀ name x y, xs.get? name = some x → ys.get? name = some y → x.same y = true) :
    (object xs).same (object ys) = true := by
  have hLength : xs.length = ys.length := by
    have hEq := congrArg List.length (hx.names_eq hy hNames)
    simpa [Entries.names] using hEq
  rw [same, Bool.and_eq_true, sameEntries_eq_true_iff]
  refine ⟨by rw [hLength, beq_self_eq_true], fun entry hEntry => ?_⟩
  have hx' := hx.get?_of_mem hEntry
  obtain ⟨y, hy'⟩ := Entries.exists_get?_of_mem_names
    ((hNames entry.1).mp (Entries.mem_names_of_mem hEntry))
  exact ⟨y, hy', hSame entry.1 entry.2 y hx' hy'⟩

/-- Names of one list that all occur in another, which is no longer, are those of the
other. -/
theorem mem_names_iff_of_length_eq {xs ys : Entries Value} (hx : xs.Sorted)
    (hLength : xs.length = ys.length)
    (hNames : ∀ name ∈ xs.names, name ∈ ys.names) {name : String} :
    name ∈ xs.names ↔ name ∈ ys.names := by
  have hNoLonger : ys.names.length ≤ xs.names.length := by
    simp [Entries.names, hLength]
  exact ((hx.nodup_names.subperm hNames).perm_of_length_le hNoLonger).mem_iff

/-- Objects in order are compared name by name. -/
theorem same_object_iff_of_sorted {xs ys : Entries Value} (hx : xs.Sorted) (hy : ys.Sorted) :
    (object xs).same (object ys) = true ↔
      ∀ name, Option.Rel (fun x y => x.same y = true) (xs.get? name) (ys.get? name) := by
  constructor
  · intro h name
    rw [same, Bool.and_eq_true, beq_iff_eq, sameEntries_eq_true_iff] at h
    obtain ⟨hLength, hEntries⟩ := h
    have hNames : ∀ name ∈ xs.names, name ∈ ys.names := by
      intro name hName
      obtain ⟨x, hX⟩ := Entries.exists_get?_of_mem_names hName
      obtain ⟨y, hY, -⟩ := hEntries (name, x) (Entries.mem_of_get? hX)
      exact Entries.mem_names_of_mem (Entries.mem_of_get? hY)
    cases hX : xs.get? name with
    | none =>
        rw [Entries.get?_eq_none_iff, mem_names_iff_of_length_eq hx hLength hNames,
          ← Entries.get?_eq_none_iff] at hX
        rw [hX]
        exact .none
    | some x =>
        obtain ⟨y, hY, hSame⟩ := hEntries (name, x) (Entries.mem_of_get? hX)
        rw [hY]
        exact .some hSame
  · intro h
    refine same_object_of_sorted hx hy (fun name => ?_) fun name x y hX hY => ?_
    · rw [hx.names_eq_of_rel hy h]
    · have hName := h name
      rw [hX, hY] at hName
      cases hName with
      | some hSame => exact hSame

/-- Values are the same when they say the same. -/
theorem same_iff_toExact_eq (a : Value) :
    ∀ b, a.WellFormed → b.WellFormed → (a.same b = true ↔ a.toExact = b.toExact) := by
  induction a using inductionOnParts with
  | null => intro b _ _; cases b <;> simp [same, toExact]
  | bool c => intro b _ _; cases b <;> simp [same, toExact]
  | number m => intro b _ _; cases b <;> simp [same, toExact, Number.sameValue_iff]
  | string s => intro b _ _; cases b <;> simp [same, toExact]
  | array xs ih =>
      intro b ha hb
      cases b with
      | array ys =>
          rw [wellFormed_array_iff] at ha hb
          rw [same, sameItems_eq_true_iff, toExact_array_eq_iff]
          induction xs generalizing ys with
          | nil => cases ys <;> simp
          | cons x xs ihItems =>
              cases ys with
              | nil => simp
              | cons y ys =>
                  rw [List.forall_mem_cons] at ha hb ih
                  rw [List.forall₂_cons, List.forall₂_cons, ih.1 y ha.1 hb.1,
                    ihItems ih.2 ha.2 ys hb.2]
      | _ => simp [same, toExact]
  | object xs ih =>
      intro b ha hb
      cases b with
      | object ys =>
          rw [wellFormed_object_iff] at ha hb
          rw [same_object_iff_of_sorted ha.1 hb.1, toExact_object_eq_iff]
          refine forall_congr' fun name => ?_
          cases hX : Entries.get? xs name with
          | none => cases Entries.get? ys name <;> simp
          | some x =>
              cases hY : Entries.get? ys name with
              | none => simp
              | some y =>
                  have hMemX := Entries.mem_of_get? hX
                  have hMemY := Entries.mem_of_get? hY
                  simp only [Option.rel_some_some]
                  exact ih (name, x) hMemX y (ha.2 _ hMemX) (hb.2 _ hMemY)
      | _ => simp [same, toExact]

/-- A well-formed value has its own content. -/
theorem same_self (v : Value) (h : v.WellFormed) : v.same v = true :=
  (same_iff_toExact_eq v v h h).mpr rfl

/-- Sameness of well-formed values decides equality of what they say, and so it is an
equivalence. -/
theorem same_decides_toExact :
    (∀ a b : Value, a.WellFormed → b.WellFormed → (a.same b = true ↔ a.toExact = b.toExact)) ∧
      Equivalence fun a b : { v : Value // v.WellFormed } => a.val.same b.val = true := by
  have hIff (a b : { v : Value // v.WellFormed }) :
      a.val.same b.val = true ↔ a.val.toExact = b.val.toExact :=
    same_iff_toExact_eq a.val b.val a.property b.property
  refine ⟨same_iff_toExact_eq, ?_⟩
  simp only [hIff]
  exact ⟨fun a => rfl, fun h => h.symm, fun h₁ h₂ => h₁.trans h₂⟩

/-- A reading with a signed zero, an integer beyond the signed ones and a double beyond the
exact integers. -/
def reading : Value :=
  .object [("drift", .number (.real (.zero true))),
    ("ticks", .array [.number (.whole 0x8000000000000000 (by decide)),
      .number (.real ⟨false, 0x10000000000000, 75, by decide⟩)])]

/-- The reading with its zero as an integer and its integer as a double. -/
def rewrittenReading : Value :=
  .object [("drift", .number (.whole 0 (by decide))),
    ("ticks", .array [.number (.real ⟨false, 0x10000000000000, 11, by decide⟩),
      .number (.real ⟨false, 0x10000000000000, 75, by decide⟩)])]

theorem wellFormed_reading : reading.WellFormed ∧ rewrittenReading.WellFormed := by
  have hNames : List.Pairwise (· < ·) ["drift", "ticks"] := by decide
  exact ⟨⟨Entries.sorted_iff_pairwise_names.mpr hNames, trivial, ⟨trivial, trivial, trivial⟩,
      trivial⟩,
    Entries.sorted_iff_pairwise_names.mpr hNames, trivial, ⟨trivial, trivial, trivial⟩, trivial⟩

theorem same_reading : reading.same rewrittenReading = true := by
  decide +kernel

/-- Both readings say the same; an odd integer past the exact doubles is not the double
next to it. -/
theorem toExact_reading_eq :
    (reading.WellFormed ∧ rewrittenReading.WellFormed ∧
        reading.toExact = rewrittenReading.toExact) ∧
      (number (.whole 0x20000000000001 (by decide))).toExact ≠
        (number (.real ⟨false, 0x10000000000000, 1, by decide⟩)).toExact := by
  obtain ⟨hReading, hRewritten⟩ := wellFormed_reading
  refine ⟨⟨hReading, hRewritten, ?_⟩, fun h => ?_⟩
  · exact (same_decides_toExact.1 reading rewrittenReading hReading hRewritten).mp same_reading
  · have hSame := (same_decides_toExact.1 (number _) (number _) trivial trivial).mpr h
    revert hSame
    decide +kernel

end Value
end DataContract
