import DataContract.Issue
import DataContract.Proofs.Text
/-!
# Texts of paths

A step begins with a dot or a bracket, and neither stands in an identifier.  A bracket is
followed by a quote, which a written string ends with, or by digits, which end at a bracket.
Hence a text begins with one step only, and step by step a path is known from its text.

**Results.**
* `render_inj`: different paths have different texts.
* `atOrBelow_iff`: the text of a path is that of another or goes on behind it with a step when
  the path begins with the other.
-/

namespace DataContract

namespace Segment

/-- The characters of identifiers. -/
def isNameChar (c : Char) : Bool := isInitial c || c.isDigit

theorem isNameChar_of_isIdentifier {name : List Char} (h : isIdentifier name = true) :
    ∀ c ∈ name, isNameChar c = true := by
  cases name with
  | nil => cases h
  | cons c cs =>
      rw [isIdentifier, Bool.and_eq_true, List.all_eq_true] at h
      rw [List.forall_mem_cons]
      exact ⟨Bool.or_eq_true_iff.mpr (Or.inl h.1), h.2⟩

/-- The three ways to write a step. -/
theorem toList_render_cases (segment : Segment) :
    (∃ name, segment = .key name ∧ isIdentifier name.toList = true ∧
        segment.render.toList = '.' :: name.toList) ∨
      (∃ name, segment = .key name ∧
        segment.render.toList = '[' :: '"' :: (Quoted.escapeAll name.toList ++ ['"', ']'])) ∨
      ∃ place, segment = .index place ∧
        segment.render.toList = '[' :: (Nat.toDigits 10 place ++ [']']) := by
  cases segment with
  | key name =>
      by_cases hName : isIdentifier name.toList = true
      · refine Or.inl ⟨name, rfl, hName, ?_⟩
        rw [render, if_pos hName, String.toList_append]
        rfl
      · refine Or.inr (Or.inl ⟨name, rfl, ?_⟩)
        rw [render, if_neg hName, Quoted.encode]
        simp
  | index place =>
      refine Or.inr (Or.inr ⟨place, rfl, ?_⟩)
      simp [render, Nat.toList_repr]

theorem toDigits_inj {m n : Nat} (h : Nat.toDigits 10 m = Nat.toDigits 10 n) : m = n := by
  rw [← Nat.ofDigitChars_ten_toDigits (n := m), h, Nat.ofDigitChars_ten_toDigits]

theorem isDigit_of_mem_toDigits {n : Nat} : ∀ c ∈ Nat.toDigits 10 n, c.isDigit = true :=
  fun _ hc => Nat.isDigit_of_mem_toDigits (by decide) (by decide) hc

/-- Digits do not begin with a quote. -/
theorem toDigits_append_ne {n : Nat} {x y : List Char} : Nat.toDigits 10 n ++ x ≠ '"' :: y := by
  intro h
  cases hDigits : Nat.toDigits 10 n with
  | nil => exact Nat.toDigits_ne_nil hDigits
  | cons c cs =>
      have hDigit := isDigit_of_mem_toDigits c (hDigits ▸ List.mem_cons_self)
      rw [hDigits, List.cons_append, List.cons.injEq] at h
      rw [h.1] at hDigit
      cases hDigit

/-- A text begins with one step only, when no identifier goes on in the rest. -/
theorem render_append_inj {a b : Segment} {x y : List Char} (hx : StartsOutside isNameChar x)
    (hy : StartsOutside isNameChar y) (h : a.render.toList ++ x = b.render.toList ++ y) :
    a = b ∧ x = y := by
  rcases toList_render_cases a with
    ⟨name, rfl, hName, hText⟩ | ⟨name, rfl, hText⟩ | ⟨place, rfl, hText⟩
  all_goals
    rcases toList_render_cases b with
      ⟨name', rfl, hName', hText'⟩ | ⟨name', rfl, hText'⟩ | ⟨place', rfl, hText'⟩
    all_goals rw [hText, hText'] at h
  · obtain ⟨hNames, rfl⟩ := eq_of_append_eq_append (isNameChar_of_isIdentifier hName)
      (isNameChar_of_isIdentifier hName') hx hy (List.cons.inj h).2
    rw [String.toList_inj.mp hNames]
    exact ⟨rfl, rfl⟩
  · cases h
  · cases h
  · cases h
  · simp only [List.cons_append, List.append_assoc, List.cons.injEq, true_and] at h
    obtain ⟨hNames, hRest⟩ := Quoted.escapeAll_append_inj h
    rw [String.toList_inj.mp hNames]
    exact ⟨rfl, (List.cons.inj hRest).2⟩
  · exact absurd (List.cons.inj h).2.symm (by simpa using toDigits_append_ne)
  · cases h
  · exact absurd (List.cons.inj h).2 (by simpa using toDigits_append_ne)
  · simp only [List.cons_append, List.append_assoc, List.cons.injEq, true_and] at h
    have hEnd (z : List Char) : StartsOutside Char.isDigit (']' :: z) :=
      StartsOutside.cons_iff.mpr rfl
    obtain ⟨hDigits, hRest⟩ := eq_of_append_eq_append isDigit_of_mem_toDigits
      isDigit_of_mem_toDigits (hEnd _) (hEnd _) h
    rw [toDigits_inj hDigits]
    exact ⟨rfl, (List.cons.inj hRest).2⟩

/-- No step goes on an identifier. -/
theorem startsOutside_render_append (segment : Segment) (x : List Char) :
    StartsOutside isNameChar (segment.render.toList ++ x) := by
  rcases toList_render_cases segment with
    ⟨name, rfl, -, hText⟩ | ⟨name, rfl, hText⟩ | ⟨place, rfl, hText⟩
  all_goals
    rw [hText, List.cons_append, StartsOutside.cons_iff]
    rfl

theorem toList_render_ne_nil (segment : Segment) : segment.render.toList ≠ [] := by
  rcases toList_render_cases segment with
    ⟨name, rfl, -, hText⟩ | ⟨name, rfl, hText⟩ | ⟨place, rfl, hText⟩
  all_goals
    rw [hText]
    exact List.cons_ne_nil _ _

end Segment

namespace Path

open Segment

variable {p q : Path}

@[simp] theorem render_cons (segment : Segment) (p : Path) :
    render (segment :: p) = segment.render ++ p.render := by
  rw [render, List.map_cons, String.join_cons]
  rfl

/-- The text of a path that goes on behind another is put behind the text of the other. -/
theorem render_append (p q : Path) : render (p ++ q) = p.render ++ q.render := by
  rw [render, List.map_append, String.join_append]
  rfl

/-- A path does not go on an identifier, and what does not goes on behind it. -/
theorem startsOutside_render_append (p : Path) {x : List Char} (hx : StartsOutside isNameChar x) :
    StartsOutside isNameChar (p.render.toList ++ x) := by
  cases p with
  | nil => exact hx
  | cons segment p =>
      rw [render_cons, String.toList_append, List.append_assoc]
      exact segment.startsOutside_render_append _

theorem render_cons_append_ne_nil (segment : Segment) (p : Path) (x : List Char) :
    (render (segment :: p)).toList ++ x ≠ [] := by
  intro h
  rw [render_cons, String.toList_append, List.append_assoc] at h
  exact segment.toList_render_ne_nil (List.append_eq_nil_iff.mp h).1

/-- What goes on behind the text of a path without going on an identifier goes on with steps. -/
theorem exists_eq_append_of_toList_render {x : List Char} (hx : StartsOutside isNameChar x)
    (h : q.render.toList = p.render.toList ++ x) :
    ∃ r, q = p ++ r ∧ x = r.render.toList := by
  induction p generalizing q with
  | nil => exact ⟨q, rfl, h.symm⟩
  | cons a p ih =>
      cases q with
      | nil => exact absurd h.symm (render_cons_append_ne_nil a p x)
      | cons b q =>
          rw [render_cons, render_cons, String.toList_append, String.toList_append,
            List.append_assoc] at h
          have hq := startsOutside_render_append q StartsOutside.nil
          rw [List.append_nil] at hq
          obtain ⟨rfl, hRest⟩ := render_append_inj hq (startsOutside_render_append p hx) h
          obtain ⟨r, rfl, rfl⟩ := ih hRest
          exact ⟨r, rfl, rfl⟩

/-- Different paths have different texts. -/
theorem render_inj (p q : Path) : p.render = q.render ↔ p = q := by
  constructor
  · intro h
    have hText : q.render.toList = p.render.toList ++ [] := by rw [List.append_nil, h]
    obtain ⟨r, rfl, hr⟩ := exists_eq_append_of_toList_render StartsOutside.nil hText
    cases r with
    | nil => rw [List.append_nil]
    | cons segment r =>
        refine absurd ?_ (render_cons_append_ne_nil segment r [])
        rw [List.append_nil, hr]
  · exact congrArg render

/-- A name reads neither like two names nor like a place. -/
example : render [.key "a", .key "b"] = ".a.b" ∧ render [.key "a.b"] = "[\"a.b\"]" ∧
    render [.index 1] = "[1]" ∧ render [.key "1"] = "[\"1\"]" := by
  decide

/-- The text of a place is that of another, or goes on behind it with a further step. -/
def AtOrBelow (place q : Path) : Prop :=
  q.render = place.render ∨
    ∃ (segment : Segment) (rest : String), q.render = place.render ++ segment.render ++ rest

/-- Places at or below another are those whose paths begin with its path. -/
theorem atOrBelow_iff : AtOrBelow p q ↔ p <+: q := by
  constructor
  · intro h
    have hText : ∃ x, StartsOutside isNameChar x ∧ q.render.toList = p.render.toList ++ x := by
      rcases h with h | ⟨segment, rest, h⟩
      · exact ⟨[], StartsOutside.nil, by rw [h, List.append_nil]⟩
      · refine ⟨_, segment.startsOutside_render_append rest.toList, ?_⟩
        rw [h, String.toList_append, String.toList_append, List.append_assoc]
    obtain ⟨x, hx, hText⟩ := hText
    obtain ⟨r, rfl, -⟩ := exists_eq_append_of_toList_render hx hText
    exact List.prefix_append p r
  · rintro ⟨r, rfl⟩
    cases r with
    | nil => exact Or.inl (by rw [List.append_nil])
    | cons segment r =>
        refine Or.inr ⟨segment, render r, ?_⟩
        rw [render_append, render_cons, String.append_assoc]

instance : Decidable (AtOrBelow p q) := decidable_of_iff _ atOrBelow_iff.symm

end Path
end DataContract
