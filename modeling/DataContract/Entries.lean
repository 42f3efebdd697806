/-!
# Entries

Named values are kept in a list ordered by name.  The order of names is that of
their code points, so the list of a set of names is unique.
-/

namespace DataContract

/-- Named values, in the order of their names. -/
abbrev Entries (α : Type) := List (String × α)

namespace Entries

variable {α β : Type}

/-- The names occur in strictly ascending order. -/
def Sorted (entries : Entries α) : Prop :=
  entries.Pairwise fun a b => a.1 < b.1

/-- The names. -/
def names (entries : Entries α) : List String := entries.map Prod.fst

/-- The value under a name. -/
def get? (entries : Entries α) (name : String) : Option α := entries.lookup name

/-- Whether a name occurs. -/
def has (entries : Entries α) (name : String) : Bool := (entries.get? name).isSome

/-- Put a value under a name; a value that was there is replaced. -/
def insert (name : String) (value : α) : Entries α → Entries α
  | [] => [(name, value)]
  | (other, v) :: rest =>
      if name = other then (name, value) :: rest
      else if name < other then (name, value) :: (other, v) :: rest
      else (other, v) :: insert name value rest

/-- The entries of a list of pairs; the last value of a name counts. -/
def ofList (pairs : List (String × α)) : Entries α :=
  pairs.foldl (fun entries pair => entries.insert pair.1 pair.2) []

/-- Apply a function to every value. -/
def mapValues (f : α → β) (entries : Entries α) : Entries β :=
  entries.map fun (name, value) => (name, f value)

/-- The fields that have a value, in the order in which they are listed. -/
def present (fields : List (String × Option α)) : Entries α :=
  fields.filterMap fun (name, value) => value.map (name, ·)

@[simp] theorem get?_nil (name : String) :
    Entries.get? ([] : Entries α) name = none := rfl

theorem get?_cons (name other : String) (value : α) (rest : Entries α) :
    Entries.get? ((other, value) :: rest) name =
      if name = other then some value else rest.get? name := by
  by_cases h : name = other
  · rw [if_pos h, get?, List.lookup_cons, h, beq_self_eq_true]
  · rw [if_neg h, get?, List.lookup_cons, beq_false_of_ne h]
    rfl

theorem get?_insert_self (name : String) (value : α) (entries : Entries α) :
    (entries.insert name value).get? name = some value := by
  induction entries with
  | nil => simp [insert, get?_cons]
  | cons entry rest ih =>
      obtain ⟨other, v⟩ := entry
      rw [insert]
      split
      · simp [get?_cons]
      · rename_i h
        split
        · simp [get?_cons]
        · rw [get?_cons, if_neg h, ih]

theorem get?_insert_of_ne {name other : String} (value : α) (entries : Entries α)
    (h : name ≠ other) :
    (entries.insert other value).get? name = entries.get? name := by
  induction entries with
  | nil => simp [insert, get?_cons, h]
  | cons entry rest ih =>
      obtain ⟨first, v⟩ := entry
      rw [insert]
      split
      · rename_i hEq
        subst hEq
        simp [get?_cons, h]
      · split
        · simp [get?_cons, h]
        · rw [get?_cons, get?_cons, ih]

end Entries

end DataContract
