import DataContract.Entries
import Mathlib.Data.List.Forall2
import Mathlib.Data.List.Sort
import Mathlib.Data.String.Basic
import Mathlib.Tactic.Tauto
/-!
# Ordered entries

Entries whose names ascend have every name once, so that a lookup finds every entry, and
an insertion puts the entry in its only place.

**Results.**
* `get?_eq_some_iff`: a lookup finds exactly the entries of the list.
* `Sorted.insert`: an insertion keeps the names ascending.
* `Sorted.insert_of_get?`: to insert what is there changes nothing.
* `Sorted.names_eq`: ascending entries with the same names have them in the same order.
* `Sorted.forall₂_of_rel`: what holds at every name holds of the entries one by one.
* `Sorted.ext`: ascending entries with the same value under every name are the same.
-/

namespace DataContract
namespace Entries

variable {α β : Type}

@[simp] theorem names_cons (name : String) (value : α) (rest : Entries α) :
    names ((name, value) :: rest) = name :: names rest := rfl

theorem mem_names_of_mem {name : String} {value : α} {entries : Entries α}
    (h : (name, value) ∈ entries) :
    name ∈ entries.names :=
  List.mem_map_of_mem h

/-- A lookup finds only what is there. -/
theorem mem_of_get? {name : String} {value : α} {entries : Entries α}
    (h : entries.get? name = some value) :
    (name, value) ∈ entries := by
  induction entries with
  | nil => simp at h
  | cons entry rest ih =>
      obtain ⟨other, v⟩ := entry
      rw [get?_cons] at h
      split at h
      · rename_i hName
        cases h
        simp [hName]
      · exact List.mem_cons_of_mem _ (ih h)

/-- A lookup fails exactly at names that do not occur. -/
theorem get?_eq_none_iff {name : String} {entries : Entries α} :
    entries.get? name = none ↔ name ∉ entries.names := by
  induction entries with
  | nil => simp [names]
  | cons entry rest ih =>
      obtain ⟨other, v⟩ := entry
      rw [get?_cons]
      by_cases h : name = other
      · simp [h]
      · simp [h, ih]

theorem has_eq_true_iff {name : String} {entries : Entries α} :
    entries.has name = true ↔ name ∈ entries.names := by
  rw [has, Option.isSome_iff_ne_none, ne_eq, get?_eq_none_iff, not_not]

/-- A name that occurs has a value. -/
theorem exists_get?_of_mem_names {name : String} {entries : Entries α}
    (h : name ∈ entries.names) :
    ∃ value, entries.get? name = some value := by
  rw [← Option.isSome_iff_exists]
  exact has_eq_true_iff.mpr h

theorem Sorted.tail {entry : String × α} {rest : Entries α}
    (h : Sorted (entry :: rest)) :
    Sorted rest :=
  (List.pairwise_cons.mp h).2

theorem Sorted.head_lt {name : String} {value : α} {rest : Entries α}
    (h : Sorted ((name, value) :: rest)) {other : String}
    (hOther : other ∈ names rest) :
    name < other := by
  obtain ⟨entry, hEntry, rfl⟩ := List.mem_map.mp hOther
  exact (List.pairwise_cons.mp h).1 entry hEntry

theorem Sorted.pairwise_names {entries : Entries α} (h : Sorted entries) :
    entries.names.Pairwise (· < ·) :=
  List.pairwise_map.mpr h

theorem sorted_iff_pairwise_names {entries : Entries α} :
    Sorted entries ↔ entries.names.Pairwise (· < ·) :=
  List.pairwise_map.symm

theorem Sorted.of_names_eq {xs : Entries α} {ys : Entries β} (hy : Sorted ys)
    (h : xs.names = ys.names) :
    Sorted xs := by
  rw [sorted_iff_pairwise_names, h]
  exact hy.pairwise_names

/-- No name occurs twice. -/
theorem Sorted.nodup_names {entries : Entries α} (h : Sorted entries) :
    entries.names.Nodup :=
  h.pairwise_names.imp fun hlt => ne_of_lt hlt

/-- The first name does not occur again. -/
theorem Sorted.head_not_mem {name : String} {value : α} {rest : Entries α}
    (h : Sorted ((name, value) :: rest)) :
    name ∉ names rest :=
  (List.nodup_cons.mp h.nodup_names).1

/-- A lookup finds every entry, as no other has its name. -/
theorem Sorted.get?_of_mem {name : String} {value : α} {entries : Entries α}
    (h : Sorted entries) (hMem : (name, value) ∈ entries) :
    entries.get? name = some value := by
  induction entries with
  | nil => simp at hMem
  | cons entry rest ih =>
      obtain ⟨other, v⟩ := entry
      rw [get?_cons]
      rcases List.mem_cons.mp hMem with hHead | hRest
      · cases hHead
        simp
      · have hne : name ≠ other := by
          rintro rfl
          exact h.head_not_mem (mem_names_of_mem hRest)
        rw [if_neg hne]
        exact ih h.tail hRest

theorem Sorted.get?_eq_some_iff {name : String} {value : α} {entries : Entries α}
    (h : Sorted entries) :
    entries.get? name = some value ↔ (name, value) ∈ entries :=
  ⟨mem_of_get?, h.get?_of_mem⟩

/-- Ascending entries with the same names have them in the same order. -/
theorem Sorted.names_eq {xs : Entries α} {ys : Entries β} (hx : Sorted xs) (hy : Sorted ys)
    (h : ∀ name, name ∈ xs.names ↔ name ∈ ys.names) :
    xs.names = ys.names := by
  have hPerm : xs.names.Perm ys.names :=
    (List.perm_ext_iff_of_nodup hx.nodup_names hy.nodup_names).mpr h
  exact hPerm.eq_of_pairwise'
    (hx.pairwise_names.imp fun hlt => le_of_lt hlt)
    (hy.pairwise_names.imp fun hlt => le_of_lt hlt)

section Pairs

variable {R : α → β → Prop} {xs : Entries α} {ys : Entries β}

/-- Ascending entries that are related at every name have the same names. -/
theorem Sorted.names_eq_of_rel (hx : Sorted xs) (hy : Sorted ys)
    (h : ∀ name, Option.Rel R (xs.get? name) (ys.get? name)) :
    xs.names = ys.names := by
  refine hx.names_eq hy fun name => ?_
  rw [← not_iff_not, ← get?_eq_none_iff, ← get?_eq_none_iff]
  have hName := h name
  cases hX : xs.get? name <;> cases hY : ys.get? name <;> simp_all

/-- Ascending entries that are related at every name are related one by one. -/
theorem Sorted.forall₂_of_rel (hx : Sorted xs) (hy : Sorted ys)
    (h : ∀ name, Option.Rel R (xs.get? name) (ys.get? name)) :
    List.Forall₂ (fun x y => x.1 = y.1 ∧ R x.2 y.2) xs ys := by
  have hNames : xs.names = ys.names := hx.names_eq_of_rel hy h
  have hLength : xs.length = ys.length := by
    simpa [names] using congrArg List.length hNames
  refine List.forall₂_iff_get.mpr ⟨hLength, fun i hi hj => ?_⟩
  have hName : xs[i].1 = ys[i].1 := by
    have hGet := congrArg (fun names : List String => names[i]?) hNames
    simpa [names, hi, hj] using hGet
  have hX : xs.get? xs[i].1 = some xs[i].2 := hx.get?_of_mem (List.getElem_mem hi)
  have hY : ys.get? ys[i].1 = some ys[i].2 := hy.get?_of_mem (List.getElem_mem hj)
  have hRel := h xs[i].1
  rw [hX, hName, hY] at hRel
  exact ⟨hName, Option.rel_some_some.mp hRel⟩

/-- Entries that are related one by one are related at every name. -/
theorem rel_of_forall₂ (h : List.Forall₂ (fun x y => x.1 = y.1 ∧ R x.2 y.2) xs ys)
    (name : String) :
    Option.Rel R (xs.get? name) (ys.get? name) := by
  induction h with
  | nil => exact .none
  | @cons x y xs ys hHead hTail ih =>
      obtain ⟨xName, x⟩ := x
      obtain ⟨yName, y⟩ := y
      obtain ⟨rfl, hValues⟩ := hHead
      rw [get?_cons, get?_cons]
      by_cases hName : name = xName
      · rw [if_pos hName, if_pos hName]
        exact .some hValues
      · rw [if_neg hName, if_neg hName]
        exact ih

/-- Ascending entries are compared name by name, or one by one. -/
theorem Sorted.rel_iff_forall₂ (hx : Sorted xs) (hy : Sorted ys) :
    (∀ name, Option.Rel R (xs.get? name) (ys.get? name)) ↔
      List.Forall₂ (fun x y => x.1 = y.1 ∧ R x.2 y.2) xs ys :=
  ⟨hx.forall₂_of_rel hy, rel_of_forall₂⟩

end Pairs

/-- Ascending entries with the same value under every name are the same. -/
theorem Sorted.ext {xs ys : Entries α} (hx : Sorted xs) (hy : Sorted ys)
    (h : ∀ name, xs.get? name = ys.get? name) :
    xs = ys := by
  have hPairs : List.Forall₂ (fun x y => x.1 = y.1 ∧ x.2 = y.2) xs ys := by
    refine hx.forall₂_of_rel hy fun name => ?_
    rw [h]
    cases ys.get? name <;> simp
  rw [← List.forall₂_eq_eq_eq]
  exact hPairs.imp fun x y hxy => Prod.ext hxy.1 hxy.2

theorem get?_insert (name other : String) (value : α) (entries : Entries α) :
    (entries.insert other value).get? name =
      if name = other then some value else entries.get? name := by
  by_cases h : name = other
  · rw [h, get?_insert_self, if_pos rfl]
  · rw [get?_insert_of_ne value entries h, if_neg h]

theorem mem_names_insert {name other : String} {value : α} {entries : Entries α} :
    name ∈ (entries.insert other value).names ↔ name = other ∨ name ∈ entries.names := by
  rw [← not_iff_not, ← get?_eq_none_iff, get?_insert, not_or, ← get?_eq_none_iff]
  by_cases h : name = other <;> simp [h]

/-- An insertion keeps the names ascending. -/
theorem Sorted.insert {entries : Entries α} (h : Sorted entries) (name : String) (value : α) :
    Sorted (entries.insert name value) := by
  induction entries with
  | nil => exact List.pairwise_singleton _ _
  | cons entry rest ih =>
      obtain ⟨other, v⟩ := entry
      rw [Entries.insert]
      have hRest : ∀ e ∈ rest, other < e.1 := (List.pairwise_cons.mp h).1
      split
      · rename_i hEq
        subst hEq
        exact List.pairwise_cons.mpr ⟨hRest, h.tail⟩
      · rename_i hne
        split
        · rename_i hlt
          refine List.pairwise_cons.mpr ⟨?_, h⟩
          intro e he
          rcases List.mem_cons.mp he with rfl | he
          · exact hlt
          · exact lt_trans hlt (hRest e he)
        · rename_i hnlt
          refine List.pairwise_cons.mpr ⟨?_, ih h.tail⟩
          intro e he
          have hName : e.1 ∈ names (Entries.insert name value rest) := List.mem_map_of_mem he
          rcases mem_names_insert.mp hName with hEq | hOld
          · rw [hEq]
            exact lt_of_le_of_ne (le_of_not_gt hnlt) (Ne.symm hne)
          · exact h.head_lt hOld

/-- To insert what is there changes nothing. -/
theorem Sorted.insert_of_get? {entries : Entries α} (h : Sorted entries) {name : String}
    {value : α} (hGet : entries.get? name = some value) :
    entries.insert name value = entries := by
  induction entries with
  | nil => simp at hGet
  | cons entry rest ih =>
      obtain ⟨other, v⟩ := entry
      rw [Entries.insert]
      rw [get?_cons] at hGet
      by_cases hEq : name = other
      · rw [if_pos hEq] at hGet ⊢
        cases hGet
        rw [hEq]
      · rw [if_neg hEq] at hGet ⊢
        have hlt : other < name := h.head_lt (mem_names_of_mem (mem_of_get? hGet))
        rw [if_neg (lt_asymm hlt), ih h.tail hGet]

@[simp] theorem names_mapValues (f : α → β) (entries : Entries α) :
    names (mapValues f entries) = names entries := by
  simp [names, mapValues]

theorem get?_mapValues (f : α → β) (name : String) (entries : Entries α) :
    (mapValues f entries).get? name = (entries.get? name).map f := by
  induction entries with
  | nil => rfl
  | cons entry rest ih =>
      obtain ⟨other, v⟩ := entry
      rw [mapValues, List.map_cons, get?_cons, get?_cons]
      by_cases h : name = other
      · rw [if_pos h, if_pos h, Option.map_some]
      · rw [if_neg h, if_neg h]
        exact ih

theorem Sorted.mapValues {entries : Entries α} (h : Sorted entries) (f : α → β) :
    Sorted (mapValues f entries) :=
  List.pairwise_map.mpr h

/-- Apply a function to every name with its value. -/
def mapNamed (f : String → α → β) (entries : Entries α) : Entries β :=
  entries.map fun (name, value) => (name, f name value)

theorem get?_mapNamed (f : String → α → β) (name : String) (entries : Entries α) :
    (mapNamed f entries).get? name = (entries.get? name).map (f name) := by
  induction entries with
  | nil => rfl
  | cons entry rest ih =>
      obtain ⟨other, v⟩ := entry
      rw [mapNamed, List.map_cons, get?_cons, get?_cons]
      by_cases h : name = other
      · rw [if_pos h, if_pos h, Option.map_some, h]
      · rw [if_neg h, if_neg h]
        exact ih

theorem mapNamed_mapNamed {γ : Type} (f : String → β → γ) (g : String → α → β)
    (entries : Entries α) :
    mapNamed f (mapNamed g entries) = mapNamed (fun name value => f name (g name value)) entries :=
  List.map_map

theorem Sorted.mapNamed {entries : Entries α} (h : Sorted entries) (f : String → α → β) :
    Sorted (mapNamed f entries) :=
  List.pairwise_map.mpr h

/-- The entries for which a function has a value. -/
def chooseValues (f : String → α → Option β) (entries : Entries α) : Entries β :=
  entries.filterMap fun entry => (f entry.1 entry.2).map (entry.1, ·)

/-- Chosen entries keep their names. -/
theorem Sorted.chooseValues {entries : Entries α} (h : Sorted entries)
    (f : String → α → Option β) :
    Sorted (chooseValues f entries) := by
  refine List.Pairwise.filterMap _ ?_ h
  intro a b hlt c hc d hd
  obtain ⟨_, _, rfl⟩ := Option.map_eq_some_iff.mp hc
  obtain ⟨_, _, rfl⟩ := Option.map_eq_some_iff.mp hd
  exact hlt

theorem Sorted.get?_chooseValues {entries : Entries α} (h : Sorted entries)
    (f : String → α → Option β) (name : String) :
    (Entries.chooseValues f entries).get? name = (entries.get? name).bind (f name) := by
  ext w
  rw [(h.chooseValues f).get?_eq_some_iff, Option.bind_eq_some_iff, Entries.chooseValues,
    List.mem_filterMap]
  constructor
  · rintro ⟨entry, hEntry, hMap⟩
    obtain ⟨w', hw', hEq⟩ := Option.map_eq_some_iff.mp hMap
    cases hEq
    exact ⟨entry.2, h.get?_of_mem hEntry, hw'⟩
  · rintro ⟨v, hv, hw⟩
    exact ⟨(name, v), mem_of_get? hv, by rw [hw, Option.map_some]⟩

/-- Insertions one after the other: the names of the pairs are overwritten. -/
theorem get?_foldl_insert_of_not_mem {name : String} (pairs : List (String × α)) :
    ∀ entries : Entries α, name ∉ pairs.map Prod.fst →
      (pairs.foldl (fun entries pair => entries.insert pair.1 pair.2) entries).get? name =
        entries.get? name := by
  induction pairs with
  | nil => intro entries _; rfl
  | cons pair pairs ih =>
      intro entries h
      rw [List.map_cons, List.mem_cons, not_or] at h
      rw [List.foldl_cons, ih _ h.2, get?_insert_of_ne _ _ h.1]

theorem get?_foldl_insert_of_mem {name : String} {value : α} (pairs : List (String × α)) :
    ∀ entries : Entries α, (pairs.map Prod.fst).Nodup → (name, value) ∈ pairs →
      (pairs.foldl (fun entries pair => entries.insert pair.1 pair.2) entries).get? name =
        some value := by
  induction pairs with
  | nil => intro entries _ h; simp at h
  | cons pair pairs ih =>
      intro entries hNodup hMem
      rw [List.map_cons, List.nodup_cons] at hNodup
      rw [List.foldl_cons]
      rcases List.mem_cons.mp hMem with rfl | hMem
      · rw [get?_foldl_insert_of_not_mem pairs _ hNodup.1, get?_insert_self]
      · exact ih _ hNodup.2 hMem

/-- Of the values that are listed with a name, the last is there in the end. -/
theorem get?_foldl_insert_append_cons {name : String} {value : α}
    {before after : List (String × α)} (hLast : name ∉ after.map Prod.fst)
    (entries : Entries α) :
    ((before ++ (name, value) :: after).foldl
      (fun entries pair => entries.insert pair.1 pair.2) entries).get? name = some value := by
  rw [List.foldl_append, List.foldl_cons, get?_foldl_insert_of_not_mem _ _ hLast,
    get?_insert_self]

theorem get?_foldl_insert_of_getElem? {name : String} {value : α} {pairs : List (String × α)}
    {i : Nat} (hPair : pairs[i]? = some (name, value))
    (hLast : name ∉ (pairs.drop (i + 1)).map Prod.fst) (entries : Entries α) :
    (pairs.foldl (fun entries pair => entries.insert pair.1 pair.2) entries).get? name =
      some value := by
  obtain ⟨hi, hEq⟩ := List.getElem?_eq_some_iff.mp hPair
  have hSplit : pairs = pairs.take i ++ (name, value) :: pairs.drop (i + 1) := by
    rw [← hEq, List.getElem_cons_drop, List.take_append_drop]
  rw [hSplit]
  exact get?_foldl_insert_append_cons hLast entries

/-- A name that is listed is listed for a last time. -/
theorem exists_last_of_mem {name : String} {pairs : List (String × α)}
    (h : name ∈ pairs.map Prod.fst) :
    ∃ value before after, pairs = before ++ (name, value) :: after ∧
      name ∉ after.map Prod.fst := by
  induction pairs with
  | nil => simp at h
  | cons pair pairs ih =>
      by_cases hLater : name ∈ pairs.map Prod.fst
      · obtain ⟨value, before, after, rfl, hLast⟩ := ih hLater
        exact ⟨value, pair :: before, after, rfl, hLast⟩
      · obtain ⟨first, value⟩ := pair
        rcases List.mem_cons.mp h with rfl | hMem
        · exact ⟨value, [], pairs, rfl, hLater⟩
        · exact absurd hMem hLater

theorem sorted_foldl_insert (pairs : List (String × α)) :
    ∀ entries : Entries α, Sorted entries →
      Sorted (pairs.foldl (fun entries pair => entries.insert pair.1 pair.2) entries) := by
  induction pairs with
  | nil => intro entries h; exact h
  | cons pair pairs ih =>
      intro entries h
      exact ih _ (h.insert pair.1 pair.2)

theorem mem_names_foldl_insert {name : String} (pairs : List (String × α)) :
    ∀ entries : Entries α,
      name ∈ names (pairs.foldl (fun entries pair => entries.insert pair.1 pair.2) entries) ↔
        name ∈ pairs.map Prod.fst ∨ name ∈ entries.names := by
  induction pairs with
  | nil => simp
  | cons pair pairs ih =>
      intro entries
      rw [List.foldl_cons, ih, mem_names_insert, List.map_cons, List.mem_cons]
      tauto

theorem mem_names_ofList {name : String} {pairs : List (String × α)} :
    name ∈ names (ofList pairs) ↔ name ∈ pairs.map Prod.fst := by
  rw [ofList, mem_names_foldl_insert]
  simp [names]

theorem sorted_ofList (pairs : List (String × α)) : Sorted (ofList pairs) :=
  sorted_foldl_insert pairs [] List.Pairwise.nil

/-- Where no name is repeated, each has the value that is listed with it. -/
theorem get?_ofList {name : String} {value : α} {pairs : List (String × α)}
    (hNodup : (pairs.map Prod.fst).Nodup) (hMem : (name, value) ∈ pairs) :
    (ofList pairs).get? name = some value :=
  get?_foldl_insert_of_mem pairs [] hNodup hMem

end Entries
end DataContract
