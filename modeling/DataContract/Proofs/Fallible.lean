import Mathlib.Data.List.Forall2
/-!
# Steps that may fail

One step after another succeeds when both do, and fails with the fault of the first that
fails.  So does a step for every item of a list.

**Results.**
* `bind_eq_ok_iff`, `bind_eq_error_iff`: one step after another.
* `mapM_eq_ok_iff`: a step for every item succeeds when it does item by item.
* `exists_mapM_eq_ok`, `exists_of_mapM_eq_error`: whether it succeeds, and for what it fails.
-/

namespace DataContract

section Steps

variable {ε α β : Type} {x : Except ε α} {e : ε}

theorem bind_eq_ok_iff {f : α → Except ε β} {b : β} :
    (x >>= f) = .ok b ↔ ∃ a, x = .ok a ∧ f a = .ok b := by
  cases x <;> simp [bind, Except.bind]

theorem bind_eq_error_iff {f : α → Except ε β} :
    (x >>= f) = .error e ↔ x = .error e ∨ ∃ a, x = .ok a ∧ f a = .error e := by
  cases x <;> simp [bind, Except.bind]

end Steps

section Lists

variable {ε α β : Type} {f : α → Except ε β} {l : List α}

/-- A step for every item succeeds when it does item by item. -/
theorem mapM_eq_ok_iff {bs : List β} :
    l.mapM f = .ok bs ↔ List.Forall₂ (fun a b => f a = .ok b) l bs := by
  induction l generalizing bs with
  | nil => cases bs <;> simp [pure, Except.pure]
  | cons a l ih =>
      rw [List.mapM_cons, bind_eq_ok_iff]
      constructor
      · rintro ⟨b, hHead, h⟩
        obtain ⟨rest, hTail, hEq⟩ := bind_eq_ok_iff.mp h
        obtain rfl : b :: rest = bs := Except.ok.inj hEq
        exact .cons hHead (ih.mp hTail)
      · rintro (_ | ⟨hHead, hTail⟩)
        exact ⟨_, hHead, bind_eq_ok_iff.mpr ⟨_, ih.mpr hTail, rfl⟩⟩

/-- Where each step succeeds, all do. -/
theorem exists_mapM_eq_ok (h : ∀ a ∈ l, ∃ b, f a = .ok b) : ∃ bs, l.mapM f = .ok bs := by
  induction l with
  | nil => exact ⟨[], rfl⟩
  | cons a l ih =>
      rw [List.forall_mem_cons] at h
      obtain ⟨⟨b, hHead⟩, hTail⟩ := h
      obtain ⟨bs, hRest⟩ := ih hTail
      exact ⟨b :: bs, mapM_eq_ok_iff.mpr (.cons hHead (mapM_eq_ok_iff.mp hRest))⟩

/-- What fails is a step for some item. -/
theorem exists_of_mapM_eq_error {e : ε} (h : l.mapM f = .error e) :
    ∃ a ∈ l, f a = .error e := by
  induction l with
  | nil => cases h
  | cons a l ih =>
      rw [List.mapM_cons] at h
      rcases bind_eq_error_iff.mp h with hHead | ⟨b, _, h⟩
      · exact ⟨a, List.mem_cons_self, hHead⟩
      rcases bind_eq_error_iff.mp h with hTail | ⟨rest, _, h⟩
      · obtain ⟨a', hMem, hFails⟩ := ih hTail
        exact ⟨a', List.mem_cons_of_mem _ hMem, hFails⟩
      · cases h

end Lists

end DataContract
