import DataContract.Proofs.Entries
import DataContract.Proofs.Number.Exact
/-!
# Exact values

What a value says, whatever the way in which it is written: every number is replaced by
the rational number that it stands for, an array is the list of its items, and an object
is a finite map from names.  Two maps are equal when they agree at every name.

**Results.**
* `inductionOnParts`: induction on items and entries.
* `toExact_array_eq_iff`: arrays say the same when their items do, one by one.
* `toExact_object_eq_iff`: objects say the same when they do at every name.
-/

namespace DataContract

/-- A value without the ways of writing it. -/
inductive ExactValue where
  | null
  | bool (b : Bool)
  | number (q : ℚ)
  | string (s : String)
  | array (items : List ExactValue)
  | object (entries : String → Option ExactValue)

namespace Value

mutual

/-- What a value says. -/
def toExact : Value → ExactValue
  | .null => .null
  | .bool b => .bool b
  | .number n => .number n.value
  | .string s => .string s
  | .array items => .array (exactItems items)
  | .object entries => .object (exactEntries entries)

/-- What the items say, in order. -/
def exactItems : List Value → List ExactValue
  | [] => []
  | item :: items => item.toExact :: exactItems items

/-- What is said under each name. -/
def exactEntries : List (String × Value) → String → Option ExactValue
  | [], _ => none
  | (other, v) :: entries, name =>
      if name = other then some v.toExact else exactEntries entries name

end

theorem sizeOf_lt_of_mem_items {items : List Value} {item : Value} (h : item ∈ items) :
    sizeOf item < sizeOf (array items) := by
  have hItem : sizeOf item < sizeOf items := List.sizeOf_lt_of_mem h
  simp only [array.sizeOf_spec]
  omega

theorem sizeOf_lt_of_mem_entries {entries : List (String × Value)} {entry : String × Value}
    (h : entry ∈ entries) :
    sizeOf entry.2 < sizeOf (object entries) := by
  have hEntry : sizeOf entry < sizeOf entries := List.sizeOf_lt_of_mem h
  have hPair : sizeOf entry = 1 + sizeOf entry.1 + sizeOf entry.2 := rfl
  simp only [object.sizeOf_spec]
  omega

/-- Induction on values, with a hypothesis for every item and every entry. -/
@[elab_as_elim]
theorem inductionOnParts {motive : Value → Prop}
    (null : motive .null)
    (bool : ∀ b, motive (.bool b))
    (number : ∀ n, motive (.number n))
    (string : ∀ s, motive (.string s))
    (array : ∀ items, (∀ item ∈ items, motive item) → motive (.array items))
    (object : ∀ entries, (∀ entry ∈ entries, motive entry.2) → motive (.object entries)) :
    ∀ v, motive v
  | .null => null
  | .bool b => bool b
  | .number n => number n
  | .string s => string s
  | .array items =>
      array items fun item _hItem =>
        inductionOnParts null bool number string array object item
  | .object entries =>
      object entries fun entry _hEntry =>
        inductionOnParts null bool number string array object entry.2
  termination_by v => sizeOf v
  decreasing_by
    · exact sizeOf_lt_of_mem_items _hItem
    · exact sizeOf_lt_of_mem_entries _hEntry

theorem itemsWellFormed_iff {vs : List Value} : itemsWellFormed vs ↔ ∀ w ∈ vs, w.WellFormed := by
  induction vs with
  | nil => simp [itemsWellFormed]
  | cons v vs ih => rw [itemsWellFormed, ih, List.forall_mem_cons]

theorem entriesWellFormed_iff {entries : List (String × Value)} :
    entriesWellFormed entries ↔ ∀ entry ∈ entries, entry.2.WellFormed := by
  induction entries with
  | nil => simp [entriesWellFormed]
  | cons entry entries ih => rw [entriesWellFormed, ih, List.forall_mem_cons]

theorem wellFormed_array_iff {items : List Value} :
    (array items).WellFormed ↔ ∀ item ∈ items, item.WellFormed := by
  rw [WellFormed, itemsWellFormed_iff]

theorem wellFormed_object_iff {entries : Entries Value} :
    (object entries).WellFormed ↔
      entries.Sorted ∧ ∀ entry ∈ entries, entry.2.WellFormed := by
  rw [WellFormed, entriesWellFormed_iff]

theorem wellFormed_ofStrings (ss : List String) : (ofStrings ss).WellFormed := by
  rw [ofStrings, wellFormed_array_iff]
  simp [Value.WellFormed]

theorem wellFormed_ofDouble (x : Double) : (ofDouble x).WellFormed := by
  cases x <;> trivial

theorem exactItems_eq_map {items : List Value} : exactItems items = items.map toExact := by
  induction items with
  | nil => rfl
  | cons item items ih => rw [exactItems, ih, List.map_cons]

theorem exactEntries_eq_map {entries : Entries Value} {name : String} :
    exactEntries entries name = (entries.get? name).map toExact := by
  induction entries with
  | nil => rfl
  | cons entry entries ih =>
      obtain ⟨other, v⟩ := entry
      rw [exactEntries, Entries.get?_cons]
      by_cases h : name = other
      · rw [if_pos h, if_pos h, Option.map_some]
      · rw [if_neg h, if_neg h, ih]

theorem toExact_array_eq_iff {xs ys : List Value} :
    (array xs).toExact = (array ys).toExact ↔
      List.Forall₂ (fun x y => x.toExact = y.toExact) xs ys := by
  rw [toExact, toExact, ExactValue.array.injEq, exactItems_eq_map, exactItems_eq_map]
  induction xs generalizing ys with
  | nil => cases ys <;> simp
  | cons x xs ih =>
      cases ys with
      | nil => simp
      | cons y ys => rw [List.map_cons, List.map_cons, List.cons.injEq, List.forall₂_cons, ih]

theorem toExact_object_eq_iff {xs ys : Entries Value} :
    (object xs).toExact = (object ys).toExact ↔
      ∀ name, Option.Rel (fun x y => x.toExact = y.toExact) (xs.get? name) (ys.get? name) := by
  rw [toExact, toExact, ExactValue.object.injEq, funext_iff]
  refine forall_congr' fun name => ?_
  rw [exactEntries_eq_map, exactEntries_eq_map]
  cases xs.get? name <;> cases ys.get? name <;> simp

end Value
end DataContract
