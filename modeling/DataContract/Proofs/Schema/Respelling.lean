import DataContract.Proofs.Number.Monotone
import DataContract.Proofs.Schema.Locating
import DataContract.Proofs.Schema.Rewriting
/-!
# Descriptors written in another way

Two descriptors of the same content are read side by side.  What is no number is the same
text, truth value or kind in both, and bounds are read off the values of numbers.  A length is
read off a literal, though, and a double is none, whatever its value.  So the two readings
agree step by step, until one of them comes to a length that is a double for it and a literal
for the other.

**Results.**
* `parallel_leaf`, `parallel_node`: nodes are read in parallel.
* `agree_ofDescriptor_iff`: the results agree exactly when no reading stops at a length that
  is a literal for the other.
* `not_agree_boundedString`: `4` is a length, and `4.0` is none.
-/

namespace DataContract

variable {R : Readers}

namespace Value

section Readers

variable {v w : Value}

theorem integral?_congr (h : v.same w = true) : v.integral? = w.integral? := by
  rcases kind_cases_of_same h with
    rfl | ⟨m, n, rfl, rfl, hValue⟩ | ⟨xs, ys, rfl, rfl⟩ | ⟨xs, ys, rfl, rfl⟩
  · rfl
  · exact Number.integral?_congr hValue
  · rfl
  · rfl

theorem kind_congr (h : v.same w = true) : v.kind = w.kind := by
  rcases kind_cases_of_same h with
    rfl | ⟨m, n, rfl, rfl, -⟩ | ⟨xs, ys, rfl, rfl⟩ | ⟨xs, ys, rfl, rfl⟩ <;> rfl

theorem string?_congr (h : v.same w = true) : v.string? = w.string? := by
  rcases kind_cases_of_same h with
    rfl | ⟨m, n, rfl, rfl, -⟩ | ⟨xs, ys, rfl, rfl⟩ | ⟨xs, ys, rfl, rfl⟩ <;> rfl

/-- Doubles of numbers of the same value are equal as numbers. -/
theorem rel_double?_of_same (h : v.same w = true) :
    Option.Rel (fun x y => x.numEq y = true) v.double? w.double? := by
  cases v with
  | number m =>
      cases w with
      | number n =>
          rw [same, Number.sameValue_iff] at h
          refine .some (Double.numEq_iff.mpr ⟨?_, Number.extended?_toDouble_congr h⟩)
          exact m.extended?_toDouble_ne_none
      | _ => cases h
  | _ => cases w <;> first | exact .none | cases h

/-- Only doubles and literals are told apart by whether they are a natural. -/
theorem natural?_cases_of_same (h : v.same w = true) :
    v.natural? = w.natural? ∨
      (∃ x n inRange, v = .number (.real x) ∧ w = .number (.whole n inRange) ∧ 0 ≤ n) ∨
      ∃ x n inRange, w = .number (.real x) ∧ v = .number (.whole n inRange) ∧ 0 ≤ n := by
  rcases kind_cases_of_same h with
    rfl | ⟨m, n, rfl, rfl, hValue⟩ | ⟨xs, ys, rfl, rfl⟩ | ⟨xs, ys, rfl, rfl⟩
  · exact Or.inl rfl
  · cases m with
    | whole a ha =>
        cases n with
        | whole b hb =>
            obtain rfl : a = b := Int.cast_inj.mp hValue
            exact Or.inl rfl
        | real y =>
            by_cases hSign : 0 ≤ a
            · exact Or.inr (Or.inr ⟨y, a, ha, rfl, rfl, hSign⟩)
            · exact Or.inl (if_neg hSign)
    | real x =>
        cases n with
        | whole b hb =>
            by_cases hSign : 0 ≤ b
            · exact Or.inr (Or.inl ⟨x, b, hb, rfl, rfl, hSign⟩)
            · exact Or.inl (if_neg hSign).symm
        | real y => exact Or.inl rfl
  · exact Or.inl rfl
  · exact Or.inl rfl

end Readers

end Value

namespace Schema
namespace Loading

open Value

theorem strings?_congr {v w : Value} (h : v.same w = true) : strings? v = strings? w := by
  rcases kind_cases_of_same h with
    rfl | ⟨m, n, rfl, rfl, -⟩ | ⟨xs, ys, rfl, rfl⟩ | ⟨xs, ys, rfl, rfl⟩
  · rfl
  · rfl
  · rw [same, sameItems_eq_true_iff] at h
    show xs.mapM string? = ys.mapM string?
    induction h with
    | nil => rfl
    | cons hHead _ ih => rw [List.mapM_cons, List.mapM_cons, string?_congr hHead, ih]
  · rfl

theorem isDurationType_congr {xs ys : List Value} (h : (Value.array xs).same (.array ys) = true) :
    isDurationType xs = isDurationType ys := by
  rw [Bool.eq_iff_iff, isDurationType_iff, isDurationType_iff]
  simp only [← strings?_eq_some_iff, strings?_congr h]

/-- Faults that are the same, or quote a type that has the same content. -/
inductive FaultsAlike : LoadFault → LoadFault → Prop
  | refl (fault : LoadFault) : FaultsAlike fault fault
  | unsupportedType (place : Pointer) {v w : Value} (h : v.same w = true) :
      FaultsAlike (.node place (.unsupportedType v)) (.node place (.unsupportedType w))

/-- Results that are related, or faults that are alike. -/
inductive Agree {α β : Type} (P : α → β → Prop) : Result α → Result β → Prop
  | ok {a : α} {b : β} (h : P a b) : Agree P (.ok a) (.ok b)
  | error {f g : LoadFault} (h : FaultsAlike f g) : Agree P (.error f) (.error g)

/-- A place where a length is a double in one value and a literal in the other. -/
def Respells (v w : Value) (p : Pointer) : Prop :=
  ∃ q name x n inRange, p = q ++ [.name name] ∧ (name = "minLength" ∨ name = "maxLength") ∧
    v.node? p = some (.number (.real x)) ∧ w.node? p = some (.number (.whole n inRange)) ∧ 0 ≤ n

section Parallel

variable {α β γ δ : Type} {place : Pointer} {v w v' w' : Value} {token : Pointer.Token}
  {P : α → β → Prop} {Q : γ → δ → Prop} {r : Result α} {t : Result β}

/-- The reading of a value stops at a length that is a literal in the other. -/
def Stumbles (place : Pointer) (v w : Value) (r : Result α) : Prop :=
  ∃ p, r = .error (.node (place ++ p) .notNatural) ∧ Respells v w p

/-- Readings of two values that agree as far as neither stumbles. -/
def Parallel (place : Pointer) (v w : Value) (P : α → β → Prop) (r : Result α) (t : Result β) :
    Prop :=
  Agree P r t ∨ Stumbles place v w r ∨ Stumbles place w v t

theorem parallel_ok {a : α} {b : β} (h : P a b) : Parallel place v w P (.ok a) (.ok b) :=
  Or.inl (.ok h)

theorem parallel_of_eq {r t : Result α} (h : r = t) : Parallel place v w (· = ·) r t := by
  subst h
  cases r with
  | ok a => exact Or.inl (.ok rfl)
  | error fault => exact Or.inl (.error (.refl fault))

theorem parallel_fail (place' : Pointer) (fault : NodeFault) :
    Parallel place v w P (fail place' fault) (fail place' fault) :=
  Or.inl (.error (.refl _))

theorem Parallel.bind {f : α → Result γ} {g : β → Result δ} (h : Parallel place v w P r t)
    (hNext : ∀ a b, P a b → Parallel place v w Q (f a) (g b)) :
    Parallel place v w Q (r >>= f) (t >>= g) := by
  rcases h with hAgree | ⟨p, rfl, hRespells⟩ | ⟨p, rfl, hRespells⟩
  · cases hAgree with
    | ok h => exact hNext _ _ h
    | error h => exact Or.inl (.error h)
  · exact Or.inr (Or.inl ⟨p, rfl, hRespells⟩)
  · exact Or.inr (Or.inr ⟨p, rfl, hRespells⟩)

theorem Parallel.bind_pure {f : α → γ} {g : β → δ} (h : Parallel place v w P r t)
    (hNext : ∀ a b, P a b → Q (f a) (g b)) :
    Parallel place v w Q (r >>= fun a => pure (f a)) (t >>= fun b => pure (g b)) :=
  h.bind fun a b hab => parallel_ok (hNext a b hab)

theorem Respells.of_part? {p : Pointer} (hv : v.part? token = some v')
    (hw : w.part? token = some w') (h : Respells v' w' p) :
    Respells v w (token :: p) := by
  obtain ⟨q, name, x, n, inRange, rfl, hName, hReal, hWhole, hSign⟩ := h
  refine ⟨token :: q, name, x, n, inRange, rfl, hName, ?_, ?_, hSign⟩
  · rw [node?_cons_of_part? hv, hReal]
  · rw [node?_cons_of_part? hw, hWhole]

theorem Stumbles.of_part? (hv : v.part? token = some v') (hw : w.part? token = some w')
    (h : Stumbles (place ++ [token]) v' w' r) :
    Stumbles place v w r := by
  obtain ⟨p, rfl, hRespells⟩ := h
  exact ⟨token :: p, by rw [List.append_assoc]; rfl, hRespells.of_part? hv hw⟩

/-- Parts that stand in one place are read in parallel, and so are the wholes. -/
theorem Parallel.of_part? (hv : v.part? token = some v') (hw : w.part? token = some w')
    (h : Parallel (place ++ [token]) v' w' P r t) :
    Parallel place v w P r t :=
  h.imp_right (Or.imp (Stumbles.of_part? hv hw) (Stumbles.of_part? hw hv))

end Parallel

/-- The fields of two documents have the same content, name by name. -/
def SameFields (doc doc' : Entries Value) : Prop :=
  ∀ name, Option.Rel (fun x y => x.WellFormed ∧ y.WellFormed ∧ x.same y = true)
    (doc.get? name) (doc'.get? name)

section Fields

variable {doc doc' : Entries Value} {place : Pointer} {name : String}

theorem SameFields.cases (h : SameFields doc doc') (name : String) :
    (doc.get? name = none ∧ doc'.get? name = none) ∨
      ∃ x y, doc.get? name = some x ∧ doc'.get? name = some y ∧ x.WellFormed ∧ y.WellFormed ∧
        x.same y = true := by
  have hName := h name
  cases hX : doc.get? name <;> cases hY : doc'.get? name <;> simp_all

theorem text?_eq (h : SameFields doc doc') : text? doc place name = text? doc' place name := by
  rcases h.cases name with ⟨hX, hY⟩ | ⟨x, y, hX, hY, -, -, hSame⟩
  · rw [text?, text?, hX, hY]
  · rcases kind_cases_of_same hSame with
      rfl | ⟨m, n, rfl, rfl, -⟩ | ⟨xs, ys, rfl, rfl⟩ | ⟨xs, ys, rfl, rfl⟩
    · rw [text?, text?, hX, hY]
    all_goals
      rw [text?, text?, hX, hY]
      rfl

theorem noteOf_eq (h : SameFields doc doc') : noteOf doc place = noteOf doc' place := by
  rw [noteOf, noteOf, text?_eq h, text?_eq h]

theorem boolean?_eq (h : SameFields doc doc') :
    boolean? doc place name = boolean? doc' place name := by
  rcases h.cases name with ⟨hX, hY⟩ | ⟨x, y, hX, hY, -, -, hSame⟩
  · rw [boolean?, boolean?, hX, hY]
  · rcases kind_cases_of_same hSame with
      rfl | ⟨m, n, rfl, rfl, -⟩ | ⟨xs, ys, rfl, rfl⟩ | ⟨xs, ys, rfl, rfl⟩
    all_goals simp only [boolean?, hX, hY]

theorem integerBound_eq (h : SameFields doc doc') {default : Int64} :
    integerBound doc place name default = integerBound doc' place name default := by
  rcases h.cases name with ⟨hX, hY⟩ | ⟨x, y, hX, hY, -, -, hSame⟩
  · rw [integerBound, integerBound, hX, hY]
  · have hRead : int64? x = int64? y := by rw [int64?, int64?, integral?_congr hSame]
    simp only [integerBound, hX, hY, hRead]

theorem required_eq (h : SameFields doc doc') : required doc place = required doc' place := by
  rcases h.cases "required" with ⟨hX, hY⟩ | ⟨x, y, hX, hY, -, -, hSame⟩
  · rw [required, required, hX, hY]
  · simp only [required, hX, hY, strings?_congr hSame]

theorem parallel_numberBound (h : SameFields doc doc') {default : Double}
    (hDefault : default.numEq default = true) :
    Parallel place (.object doc) (.object doc') (fun x y => x.numEq y = true)
      (numberBound doc place name default) (numberBound doc' place name default) := by
  rcases h.cases name with ⟨hX, hY⟩ | ⟨x, y, hX, hY, -, -, hSame⟩
  · rw [numberBound, numberBound, hX, hY]
    exact parallel_ok hDefault
  · have hRel := rel_double?_of_same hSame
    rw [numberBound, numberBound, hX, hY]
    dsimp only
    generalize x.double? = a at hRel ⊢
    generalize y.double? = b at hRel ⊢
    cases hRel with
    | none => exact parallel_fail _ _
    | some hEq => exact parallel_ok hEq

theorem stumbles_lengthBound {x : FiniteDouble} {n : Int}
    {inRange : -0x8000000000000000 ≤ n ∧ n < 0x10000000000000000}
    (hName : name = "minLength" ∨ name = "maxLength")
    (hReal : doc.get? name = some (.number (.real x)))
    (hWhole : doc'.get? name = some (.number (.whole n inRange))) (hSign : 0 ≤ n) :
    Stumbles place (.object doc) (.object doc') (lengthBound doc place name) := by
  refine ⟨[.name name], ?_, [], name, x, n, inRange, rfl, hName, ?_, ?_, hSign⟩
  · rw [lengthBound, hReal]
    rfl
  · rw [node?_cons_of_part? (part?_name hReal), node?_nil]
  · rw [node?_cons_of_part? (part?_name hWhole), node?_nil]

/-- A length is where one reading may stumble. -/
theorem parallel_lengthBound (h : SameFields doc doc')
    (hName : name = "minLength" ∨ name = "maxLength") :
    Parallel place (.object doc) (.object doc') (· = ·)
      (lengthBound doc place name) (lengthBound doc' place name) := by
  rcases h.cases name with ⟨hX, hY⟩ | ⟨x, y, hX, hY, -, -, hSame⟩
  · exact parallel_of_eq (by rw [lengthBound, lengthBound, hX, hY])
  · rcases natural?_cases_of_same hSame with
      hEq | ⟨z, n, inRange, rfl, rfl, hSign⟩ | ⟨z, n, inRange, rfl, rfl, hSign⟩
    · exact parallel_of_eq (by simp only [lengthBound, hX, hY, hEq])
    · exact Or.inr (Or.inl (stumbles_lengthBound hName hX hY hSign))
    · exact Or.inr (Or.inr (stumbles_lengthBound hName hY hX hSign))

end Fields

section Leaves

variable {doc doc' : Entries Value} {place : Pointer} {note : Annotation}

/-- The schemas of two nodes are read in parallel. -/
def ReadAlike (place : Pointer) (v w : Value) (r t : Result (Schema R)) : Prop :=
  Parallel place v w (fun s t => s.equal t = true) r t

theorem parallel_integer (h : SameFields doc doc') :
    ReadAlike place (.object doc) (.object doc') (Loading.integer R doc place note)
      (Loading.integer R doc' place note) := by
  refine (parallel_of_eq (integerBound_eq h)).bind ?_
  rintro a _ rfl
  refine (parallel_of_eq (integerBound_eq h)).bind_pure ?_
  rintro b _ rfl
  simp [equal]

theorem parallel_number (h : SameFields doc doc') :
    ReadAlike place (.object doc) (.object doc') (Loading.number R doc place note)
      (Loading.number R doc' place note) := by
  refine (parallel_numberBound h (by decide +kernel)).bind fun a b hLow => ?_
  refine (parallel_numberBound h (by decide +kernel)).bind_pure fun c d hHigh => ?_
  simp [equal, hLow, hHigh]

theorem parallel_enumeration {v w x y : Value} (h : x.same y = true) :
    ReadAlike place v w (Loading.enumeration R x place note)
      (Loading.enumeration R y place note) := by
  simp only [Loading.enumeration, strings?_congr h]
  split
  · exact parallel_fail _ _
  · split
    · rename_i s hSchema
      refine parallel_ok ?_
      rw [enumeration?] at hSchema
      split at hSchema
      · cases hSchema
        simp [equal]
      · cases hSchema
    · exact Or.inl (.error (.refl _))

theorem parallel_bareString (h : SameFields doc doc') :
    ReadAlike place (.object doc) (.object doc') (bareString R doc place note)
      (bareString R doc' place note) := by
  refine (parallel_of_eq (text?_eq h)).bind ?_
  rintro source _ rfl
  refine (parallel_of_eq rfl).bind ?_
  rintro p _ rfl
  refine (parallel_lengthBound h (Or.inl rfl)).bind ?_
  rintro low _ rfl
  refine (parallel_lengthBound h (Or.inr rfl)).bind_pure ?_
  rintro high _ rfl
  simp [equal, equalPatterns]

theorem parallel_string (h : SameFields doc doc') :
    ReadAlike place (.object doc) (.object doc') (Loading.string R doc place note)
      (Loading.string R doc' place note) := by
  refine (parallel_of_eq (text?_eq h)).bind ?_
  rintro format _ rfl
  split
  · exact parallel_ok (by simp [equal])
  · exact parallel_ok (by simp [equal])
  · exact parallel_fail _ _
  · rcases h.cases "enum" with ⟨hX, hY⟩ | ⟨x, y, hX, hY, -, -, hSame⟩
    · rw [hX, hY]
      exact parallel_bareString h
    · rw [hX, hY]
      exact parallel_enumeration hSame

theorem parallel_leaf (h : SameFields doc doc') :
    ReadAlike place (.object doc) (.object doc') (leaf R doc place note)
      (leaf R doc' place note) := by
  rw [leaf, leaf]
  rcases h.cases "type" with ⟨hX, hY⟩ | ⟨x, y, hX, hY, -, -, hSame⟩
  · rw [hX, hY]
    exact parallel_fail _ _
  · rw [hX, hY]
    rcases kind_cases_of_same hSame with
      rfl | ⟨m, n, rfl, rfl, hValue⟩ | ⟨xs, ys, rfl, rfl⟩ | ⟨xs, ys, rfl, rfl⟩
    · split
      · exact parallel_integer h
      · exact parallel_number h
      · exact parallel_ok (by simp [equal])
      · exact parallel_string h
      · exact parallel_fail _ _
      · split
        · exact parallel_ok (by simp [equal])
        · exact parallel_fail _ _
      · exact parallel_fail _ _
      · exact parallel_fail _ _
    · exact Or.inl (.error (.unsupportedType _ hSame))
    · simp only [isDurationType_congr hSame]
      split
      · exact parallel_ok (by simp [equal])
      · exact Or.inl (.error (.unsupportedType _ hSame))
    · exact Or.inl (.error (.unsupportedType _ hSame))

end Leaves

section Parts

variable {α β : Type} {doc doc' : Entries Value} {place : Pointer} {note : Annotation}

theorem Parallel.of_get? {P : α → β → Prop} {r : Result α} {t : Result β} {name : String}
    {x y : Value} (hX : doc.get? name = some x) (hY : doc'.get? name = some y)
    (h : Parallel (under place name) x y P r t) :
    Parallel place (.object doc) (.object doc') P r t :=
  h.of_part? (part?_name hX) (part?_name hY)

/-- A value is read in parallel with every other of the same content, wherever they stand. -/
def Paralleled (R : Readers) (v : Value) : Prop :=
  ∀ w, v.WellFormed → w.WellFormed → v.same w = true →
    ∀ place, ReadAlike place v w (node R place v) (node R place w)

theorem parallel_branches {items items' rest rest' : List Value} {i : Nat}
    (hRest : items.drop i = rest) (hRest' : items'.drop i = rest')
    (h : List.Forall₂ (fun x y => ∀ place, ReadAlike place x y (node R place x) (node R place y))
      rest rest') :
    Parallel place (.array items) (.array items') (fun ss ts => equalBranches ss ts = true)
      (branches R place i rest) (branches R place i rest') := by
  induction h generalizing i with
  | nil =>
      rw [branches]
      exact parallel_ok rfl
  | @cons x y rest rest' hHead hTail ih =>
      have hItem {vs tail : List Value} {v : Value} (hDrop : vs.drop i = v :: tail) :
          vs[i]? = some v ∧ vs.drop (i + 1) = tail := by
        constructor
        · rw [← List.head?_drop, hDrop, List.head?_cons]
        · rw [← List.tail_drop, hDrop, List.tail_cons]
      obtain ⟨hX, hRest⟩ := hItem hRest
      obtain ⟨hY, hRest'⟩ := hItem hRest'
      rw [branches, branches]
      refine ((hHead _).of_part? (part?_place hX) (part?_place hY)).bind fun s t hst => ?_
      refine (ih hRest hRest').bind_pure fun ss ts hTails => ?_
      rw [equalBranches, hst, hTails]
      rfl

theorem parallel_properties {entries entries' : Entries Value}
    {nodes nodes' : List (String × Value)}
    (hNodes : ∀ node ∈ nodes, entries.get? node.1 = some node.2)
    (hNodes' : ∀ node ∈ nodes', entries'.get? node.1 = some node.2)
    (h : List.Forall₂ (fun x y : String × Value => x.1 = y.1 ∧
      ∀ place, ReadAlike place x.2 y.2 (node R place x.2) (node R place y.2)) nodes nodes') :
    Parallel place (.object entries) (.object entries')
      (fun ps qs => equalProperties ps qs = true)
      (properties R place nodes) (properties R place nodes') := by
  induction h with
  | nil =>
      rw [properties]
      exact parallel_ok rfl
  | @cons x y nodes nodes' hHead hTail ih =>
      obtain ⟨name, v⟩ := x
      obtain ⟨name', w⟩ := y
      obtain ⟨rfl, hNode⟩ := hHead
      rw [List.forall_mem_cons] at hNodes hNodes'
      rw [properties, properties]
      refine ((hNode _).of_get? hNodes.1 hNodes'.1).bind fun s t hst => ?_
      refine (ih hNodes.2 hNodes'.2).bind_pure fun ps qs hTails => ?_
      rw [equalProperties, hst, hTails, beq_self_eq_true]
      rfl

/-- Items of the same content are read in parallel, if those on one side are. -/
theorem forall₂_readAlike_items {xs ys : List Value} (hx : (Value.array xs).WellFormed)
    (hy : (Value.array ys).WellFormed) (hSame : (Value.array xs).same (.array ys) = true)
    (h : ∀ x ∈ xs, Paralleled R x) :
    List.Forall₂ (fun x y => ∀ place, ReadAlike place x y (node R place x) (node R place y))
      xs ys := by
  rw [same, sameItems_eq_true_iff] at hSame
  rw [wellFormed_array_iff] at hx hy
  rw [List.forall₂_iff_get] at hSame ⊢
  refine ⟨hSame.1, fun i hi hj => ?_⟩
  have hMem := List.get_mem xs ⟨i, hi⟩
  exact h _ hMem _ (hx _ hMem) (hy _ (List.get_mem ys _)) (hSame.2 i hi hj)

/-- So are entries. -/
theorem forall₂_readAlike_entries {xs ys : Entries Value} (hx : (Value.object xs).WellFormed)
    (hy : (Value.object ys).WellFormed) (hSame : (Value.object xs).same (.object ys) = true)
    (h : ∀ x ∈ xs, Paralleled R x.2) :
    List.Forall₂ (fun x y : String × Value => x.1 = y.1 ∧
      ∀ place, ReadAlike place x.2 y.2 (node R place x.2) (node R place y.2)) xs ys := by
  have hPairs := (wellFormed_object_iff.mp hx).1.forall₂_of_rel (wellFormed_object_iff.mp hy).1
    (rel_get?_of_same hx hy hSame)
  rw [List.forall₂_iff_get] at hPairs ⊢
  refine ⟨hPairs.1, fun i hi hj => ?_⟩
  obtain ⟨hName, hxPart, hyPart, hPart⟩ := hPairs.2 i hi hj
  exact ⟨hName, h _ (List.get_mem xs _) _ hxPart hyPart hPart⟩

theorem parallel_object {additional : Bool} (h : SameFields doc doc')
    (hNodes : ∀ nodes, doc.get? "properties" = some (.object nodes) →
      ∀ node ∈ nodes, Paralleled R node.2) :
    ReadAlike place (.object doc) (.object doc') (Loading.object R doc place note additional)
      (Loading.object R doc' place note additional) := by
  rw [object_eq, object_eq]
  rcases h.cases "properties" with ⟨hX, hY⟩ | ⟨x, y, hX, hY, hx, hy, hSame⟩
  · rw [hX, hY]
    refine (parallel_of_eq (required_eq h)).bind_pure ?_
    rintro names _ rfl
    simp [equal, equalProperties]
  · rw [hX, hY]
    cases x with
    | object xs =>
        cases y with
        | object ys =>
            have hSortedX := (wellFormed_object_iff.mp hx).1
            have hSortedY := (wellFormed_object_iff.mp hy).1
            have hParts := forall₂_readAlike_entries hx hy hSame (hNodes xs hX)
            refine ((parallel_properties (fun _ hNode => hSortedX.get?_of_mem hNode)
              (fun _ hNode => hSortedY.get?_of_mem hNode) hParts).of_get? hX hY).bind ?_
            intro ps qs hProperties
            refine (parallel_of_eq (required_eq h)).bind_pure ?_
            rintro names _ rfl
            simp [equal, hProperties]
        | _ => cases hSame
    | _ =>
        cases y with
        | object ys => cases hSame
        | _ => exact parallel_fail _ _

/-- The combinators of two documents of the same content are the same. -/
theorem combination?_cases (h : SameFields doc doc') :
    (combination? doc = none ∧ combination? doc' = none) ∨
      ∃ c x y, combination? doc = some (c, x) ∧ combination? doc' = some (c, y) ∧
        x.WellFormed ∧ y.WellFormed ∧ x.same y = true := by
  simp only [combination?, List.findSome?_cons, List.findSome?_nil, Combinator.keyword]
  rcases h.cases "anyOf" with ⟨hX, hY⟩ | ⟨x, y, hX, hY, hPart⟩
  · rcases h.cases "oneOf" with ⟨hX', hY'⟩ | ⟨x, y, hX', hY', hPart⟩
    · rcases h.cases "allOf" with ⟨hX'', hY''⟩ | ⟨x, y, hX'', hY'', hPart⟩
      · exact Or.inl (by simp [hX, hY, hX', hY', hX'', hY''])
      · exact Or.inr ⟨.allOf, x, y, by simp [hX, hX', hX''], by simp [hY, hY', hY''], hPart⟩
    · exact Or.inr ⟨.oneOf, x, y, by simp [hX, hX'], by simp [hY, hY'], hPart⟩
  · exact Or.inr ⟨.anyOf, x, y, by simp [hX], by simp [hY], hPart⟩

theorem parallel_node_of_combination?_eq_some {c : Combinator} {x y : Value}
    (hX : combination? doc = some (c, x)) (hY : combination? doc' = some (c, y))
    (hx : x.WellFormed) (hy : y.WellFormed) (hSame : x.same y = true)
    (h : ∀ xs, x = .array xs → ∀ v ∈ xs, Paralleled R v) :
    ReadAlike place (.object doc) (.object doc') (node R place (.object doc))
      (node R place (.object doc')) := by
  have hFieldX := get?_keyword (combination?_eq_some_iff.mp hX)
  have hFieldY := get?_keyword (combination?_eq_some_iff.mp hY)
  rw [node_of_combination?_eq_some hX, node_of_combination?_eq_some hY]
  cases x with
  | array xs =>
      cases y with
      | array ys =>
          have hParts := forall₂_readAlike_items hx hy hSame (h xs rfl)
          refine ((parallel_branches List.drop_zero List.drop_zero hParts).of_get? hFieldX
            hFieldY).bind_pure fun ss ts hBranches => ?_
          simp [equal, hBranches]
      | _ => cases hSame
  | _ =>
      cases y with
      | array ys => cases hSame
      | _ => exact parallel_fail _ _

/-- The types of two documents of the same content select the same form. -/
theorem parallel_node_of_combination?_eq_none (h : SameFields doc doc')
    (hX : combination? doc = none) (hY : combination? doc' = none)
    (hItems : ∀ v, doc.get? "items" = some v → Paralleled R v)
    (hValues : ∀ v, doc.get? "additionalProperties" = some v → Paralleled R v)
    (hNodes : ∀ nodes, doc.get? "properties" = some (.object nodes) →
      ∀ node ∈ nodes, Paralleled R node.2) :
    ReadAlike place (.object doc) (.object doc') (node R place (.object doc))
      (node R place (.object doc')) := by
  rw [node_of_combination?_eq_none hX, node_of_combination?_eq_none hY]
  refine (parallel_of_eq (noteOf_eq h)).bind ?_
  rintro note _ rfl
  rcases h.cases "type" with ⟨hX, hY⟩ | ⟨x, y, hX, hY, -, -, hSame⟩
  · rw [hX, hY]
    exact parallel_leaf h
  · rw [hX, hY]
    rcases kind_cases_of_same hSame with
      rfl | ⟨m, n, rfl, rfl, hValue⟩ | ⟨xs, ys, rfl, rfl⟩ | ⟨xs, ys, rfl, rfl⟩
    · split
      · rcases h.cases "items" with ⟨hX, hY⟩ | ⟨x, y, hX, hY, hx, hy, hSame⟩
        · rw [hX, hY]
          exact parallel_fail _ _
        · rw [hX, hY]
          refine (parallel_of_eq (boolean?_eq h)).bind ?_
          rintro unique _ rfl
          refine ((hItems x hX y hx hy hSame _).of_get? hX hY).bind_pure fun s t hst => ?_
          simp [equal, hst]
      · rcases h.cases "additionalProperties" with ⟨hX, hY⟩ | ⟨x, y, hX, hY, hx, hy, hSame⟩
        · rw [hX, hY]
          exact parallel_object h hNodes
        · have hMap : ReadAlike place (.object doc) (.object doc')
              (do return Schema.map note (← node R (under place "additionalProperties") x))
              (do return Schema.map note (← node R (under place "additionalProperties") y)) := by
            refine ((hValues x hX y hx hy hSame _).of_get? hX hY).bind_pure fun s t hst => ?_
            simp [equal, hst]
          rw [hX, hY]
          -- A truth value is no schema: it says whether other names are allowed.
          rcases kind_cases_of_same hSame with
            rfl | ⟨m, n, rfl, rfl, -⟩ | ⟨xs, ys, rfl, rfl⟩ | ⟨xs, ys, rfl, rfl⟩
          · cases x with
            | bool additional => exact parallel_object h hNodes
            | _ => exact hMap
          all_goals exact hMap
      · exact parallel_leaf h
    · exact parallel_leaf h
    · exact parallel_leaf h
    · exact parallel_leaf h

theorem parallel_node_of_entries?_eq_none {v w : Value} (hv : v.entries? = none)
    (hw : w.entries? = none) (hSame : v.same w = true) :
    ReadAlike place v w (node R place v) (node R place w) := by
  rw [node_of_entries?_eq_none hv, node_of_entries?_eq_none hw, kind_congr hSame]
  exact parallel_fail _ _

/-- Values of the same content are read in parallel. -/
theorem parallel_node (v : Value) : Paralleled R v := by
  intro w hv hw hSame place
  cases v with
  | object doc =>
      cases w with
      | object doc' =>
          have h : SameFields doc doc' := rel_get?_of_same hv hw hSame
          rcases combination?_cases h with ⟨hX, hY⟩ | ⟨c, x, y, hX, hY, hx, hy, hPart⟩
          · exact parallel_node_of_combination?_eq_none h hX hY
              (fun items hItems => parallel_node items)
              (fun values hValues => parallel_node values)
              fun nodes hNodes node hNode => parallel_node node.2
          · refine parallel_node_of_combination?_eq_some hX hY hx hy hPart ?_
            rintro xs rfl item hItem
            exact parallel_node item
      | _ => cases hSame
  | _ =>
      cases w with
      | object doc' => cases hSame
      | _ => exact parallel_node_of_entries?_eq_none rfl rfl hSame
termination_by sizeOf v
decreasing_by
  all_goals subst_vars
  · exact sizeOf_lt_of_get? hItems
  · exact sizeOf_lt_of_get? hValues
  · exact sizeOf_lt_of_mem_object hNodes hNode
  · exact sizeOf_lt_of_mem_array (get?_keyword (combination?_eq_some_iff.mp hX)) hItem

end Parts

section Faults

variable {α β : Type} {P : α → β → Prop} {p : Pointer}

/-- A fault that quotes nothing agrees with itself only. -/
theorem Agree.eq_error_of_left {t : Result β} (h : Agree P (.error (.node p .notNatural)) t) :
    t = .error (.node p .notNatural) := by
  cases h with
  | error hAlike => cases hAlike; rfl

theorem Agree.eq_error_of_right {r : Result α} (h : Agree P r (.error (.node p .notNatural))) :
    r = .error (.node p .notNatural) := by
  cases h with
  | error hAlike => cases hAlike; rfl

/-- No reading stops at a length that is a literal. -/
theorem ofDescriptor_ne_of_respells {v w : Value} (hw : w.WellFormed) (h : Respells v w p) :
    ofDescriptor R w ≠ .error (.node p .notNatural) := by
  obtain ⟨q, name, x, n, inRange, -, -, -, hWhole, hSign⟩ := h
  intro hFault
  obtain ⟨p', u, hPlace, hNode, hBlames⟩ := locates_node w hw [] _ _ hFault
  obtain rfl : p = p' := hPlace
  rw [hWhole, Option.some.injEq] at hNode
  exact hBlames ⟨n, inRange, hNode.symm, hSign⟩

end Faults

end Loading

open Loading

/-- Descriptors of the same content give equal schemas or the same fault, except where a
reading stops at a length that is a double in this descriptor and a literal in the other. -/
theorem agree_ofDescriptor_iff {d e : Value} (hd : d.WellFormed) (he : e.WellFormed)
    (hSame : d.same e = true) :
    Agree (fun s t => s.equal t = true) (ofDescriptor R d) (ofDescriptor R e) ↔
      ∀ p, ¬ (ofDescriptor R d = .error (.node p .notNatural) ∧ Respells d e p) ∧
        ¬ (ofDescriptor R e = .error (.node p .notNatural) ∧ Respells e d p) := by
  constructor
  · intro hAgree p
    constructor
    · rintro ⟨hFault, hRespells⟩
      rw [hFault] at hAgree
      exact ofDescriptor_ne_of_respells he hRespells hAgree.eq_error_of_left
    · rintro ⟨hFault, hRespells⟩
      rw [hFault] at hAgree
      exact ofDescriptor_ne_of_respells hd hRespells hAgree.eq_error_of_right
  · intro hNone
    rcases parallel_node d e hd he hSame [] with hAgree | ⟨p, hStumbles⟩ | ⟨p, hStumbles⟩
    · exact hAgree
    · exact absurd hStumbles (hNone p).1
    · exact absurd hStumbles (hNone p).2

/-- The double four. -/
def four : FiniteDouble := ⟨false, 2 ^ 52, -50, by decide⟩

/-- A number with a bound. -/
def boundedNumber (bound : Number) : Value :=
  .object [("minimum", .number bound), ("type", .string "number")]

/-- A string with a length. -/
def boundedString (length : Number) : Value :=
  .object [("minLength", .number length), ("type", .string "string")]

theorem wellFormed_bounded (bound : Number) :
    (boundedNumber bound).WellFormed ∧ (boundedString bound).WellFormed := by
  have hNumber : List.Pairwise (· < ·) ["minimum", "type"] := by decide
  have hString : List.Pairwise (· < ·) ["minLength", "type"] := by decide
  exact ⟨⟨Entries.sorted_iff_pairwise_names.mpr hNumber, trivial, trivial, trivial⟩,
    Entries.sorted_iff_pairwise_names.mpr hString, trivial, trivial, trivial⟩

/-- A bound of a number may be written either way. -/
theorem agree_boundedNumber :
    ((boundedNumber (.whole 4 (by decide))).WellFormed ∧ (boundedNumber (.real four)).WellFormed ∧
        (boundedNumber (.whole 4 (by decide))).same (boundedNumber (.real four)) = true) ∧
      Agree (fun s t => s.equal t = true)
        (ofDescriptor .standard (boundedNumber (.whole 4 (by decide))))
        (ofDescriptor .standard (boundedNumber (.real four))) := by
  have hWellFormed (bound : Number) := (wellFormed_bounded bound).1
  have hSame : (boundedNumber (.whole 4 (by decide))).same (boundedNumber (.real four)) = true := by
    decide +kernel
  have hNoFault (bound : Number) (fault : LoadFault) :
      ofDescriptor .standard (boundedNumber bound) ≠ .error fault := by
    intro hFault
    rw [ofDescriptor, boundedNumber, node_of_combination?_eq_none rfl] at hFault
    cases hFault
  refine ⟨⟨hWellFormed _, hWellFormed _, hSame⟩, ?_⟩
  refine (agree_ofDescriptor_iff (hWellFormed _) (hWellFormed _) hSame).mpr fun p => ?_
  exact ⟨fun h => hNoFault _ _ h.1, fun h => hNoFault _ _ h.1⟩

/-- A length may not: `4` is a length, and `4.0` is none. -/
theorem not_agree_boundedString :
    (boundedString (.whole 4 (by decide))).WellFormed ∧ (boundedString (.real four)).WellFormed ∧
      (boundedString (.whole 4 (by decide))).same (boundedString (.real four)) = true ∧
      ofDescriptor .standard (boundedString (.whole 4 (by decide))) = .ok (.string {} 4 0 none) ∧
      ofDescriptor .standard (boundedString (.real four)) =
        .error (.node [.name "minLength"] .notNatural) := by
  refine ⟨(wellFormed_bounded _).2, (wellFormed_bounded _).2, by decide +kernel, ?_, ?_⟩
  · rw [ofDescriptor, boundedString, node_of_combination?_eq_none rfl]
    rfl
  · rw [ofDescriptor, boundedString, node_of_combination?_eq_none rfl]
    rfl

end Schema
end DataContract
