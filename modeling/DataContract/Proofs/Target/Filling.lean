import DataContract.Proofs.Entries
import DataContract.Proofs.Fallible
import DataContract.Target.Filling
/-!
# Filled containers

The parts of a container are filled one after the other, each from fresh content.  A
filling succeeds when every part does, and then every part is what was made of fresh
content for its place or its name; it fails as soon as a part does.

**Results.**
* `fillItems_eq_mapM`, `fillEntries_eq_mapM`: a filling makes a list of parts.
* `getElem?_of_fillItems`: the items of a filled sequence, place by place.
* `get?_of_fillEntries`: the entries of a filled dictionary, name by name.
-/

namespace DataContract
namespace Content

section Gathering

variable {m : Type → Type} [Monad m] [LawfulMonad m] {fresh : Content}

/-- To fill a sequence is to make a part for each place. -/
theorem fillItems_eq_mapM (fill : Nat → Content → m Content) (count : Nat) :
    ∀ place, fillItems fresh fill place count =
      (List.range' place count).mapM (fill · fresh) := by
  induction count with
  | zero => exact fun place => by simp [fillItems]
  | succ count ih =>
      intro place
      rw [fillItems, List.range'_succ, List.mapM_cons, ih]

/-- To fill a dictionary is to make a part for each name and to put them in one by one. -/
theorem fillEntries_eq_mapM (fill : String → Content → m Content) (names : List String) :
    ∀ entries, fillEntries fresh fill names entries =
      (fun parts => (names.zip parts).foldl (fun entries pair => entries.insert pair.1 pair.2)
        entries) <$> names.mapM (fill · fresh) := by
  induction names with
  | nil => exact fun entries => by simp [fillEntries]
  | cons name names ih =>
      intro entries
      simp only [fillEntries, ih, List.mapM_cons, map_eq_pure_bind, bind_assoc, pure_bind,
        List.zip_cons_cons, List.foldl_cons]

end Gathering

variable {ε : Type} {start : Content}

section Items

variable {fill : Nat → Content → Except ε Content} {place count : Nat}

/-- A part for every place, and each what was made of fresh content. -/
theorem getElem?_of_fillItems {items : List Content}
    (h : fillItems start fill place count = .ok items) :
    items.length = count ∧ ∀ i c, items[i]? = some c → fill (place + i) start = .ok c := by
  rw [fillItems_eq_mapM, mapM_eq_ok_iff] at h
  obtain ⟨hLength, hParts⟩ := List.forall₂_iff_get.mp h
  refine ⟨by rw [← hLength, List.length_range'], fun i c hGet => ?_⟩
  obtain ⟨hi, rfl⟩ := List.getElem?_eq_some_iff.mp hGet
  simpa using hParts i (hLength ▸ hi) hi

/-- A filling succeeds when every part does. -/
theorem exists_fillItems (h : ∀ i < count, ∃ c, fill (place + i) start = .ok c) :
    ∃ items, fillItems start fill place count = .ok items := by
  rw [fillItems_eq_mapM]
  refine exists_mapM_eq_ok fun key hKey => ?_
  obtain ⟨i, hi, rfl⟩ := List.mem_range'.mp hKey
  rw [Nat.one_mul]
  exact h i hi

theorem fillItems_eq_error {e : ε} (h : fill place start = .error e) :
    fillItems start fill place (count + 1) = .error e := by
  simp only [fillItems, h]
  rfl

/-- A filling fails for one of its parts. -/
theorem exists_of_fillItems_eq_error {e : ε}
    (h : fillItems start fill place count = .error e) :
    ∃ i < count, fill (place + i) start = .error e := by
  rw [fillItems_eq_mapM] at h
  obtain ⟨key, hKey, hPart⟩ := exists_of_mapM_eq_error h
  obtain ⟨i, hi, rfl⟩ := List.mem_range'.mp hKey
  rw [Nat.one_mul] at hPart
  exact ⟨i, hi, hPart⟩

/-- Only what is made of fresh content counts. -/
theorem fillItems_congr {fill' : Nat → Content → Except ε Content}
    (h : ∀ place, fill' place start = fill place start) (count place : Nat) :
    fillItems start fill' place count = fillItems start fill place count := by
  rw [fillItems_eq_mapM, fillItems_eq_mapM, funext h]

end Items

section Entries

variable {fill : String → Content → Except ε Content} {names : List String} {name : String}
variable {entries filled : Entries Content}

/-- A filled dictionary has the parts for the names, put in one by one. -/
theorem fillEntries_eq_ok_iff :
    fillEntries start fill names entries = .ok filled ↔
      ∃ parts, List.Forall₂ (fun name c => fill name start = .ok c) names parts ∧
        (names.zip parts).foldl (fun entries pair => entries.insert pair.1 pair.2) entries =
          filled := by
  rw [fillEntries_eq_mapM, map_eq_pure_bind, bind_eq_ok_iff]
  simp only [mapM_eq_ok_iff, pure, Except.pure, Except.ok.injEq]

theorem sorted_of_fillEntries (hSorted : Entries.Sorted entries)
    (h : fillEntries start fill names entries = .ok filled) :
    Entries.Sorted filled := by
  obtain ⟨parts, -, rfl⟩ := fillEntries_eq_ok_iff.mp h
  exact Entries.sorted_foldl_insert _ _ hSorted

theorem mem_names_of_fillEntries (h : fillEntries start fill names entries = .ok filled) :
    name ∈ filled.names ↔ name ∈ names ∨ name ∈ entries.names := by
  obtain ⟨parts, hParts, rfl⟩ := fillEntries_eq_ok_iff.mp h
  rw [Entries.mem_names_foldl_insert, List.map_fst_zip hParts.length_eq.le]

/-- What is there before counts only for names that are not filled. -/
theorem get?_of_fillEntries {c : Content}
    (h : fillEntries start fill names entries = .ok filled) (hGet : filled.get? name = some c) :
    (name ∈ names ∧ fill name start = .ok c) ∨ (name ∉ names ∧ entries.get? name = some c) := by
  obtain ⟨parts, hParts, rfl⟩ := fillEntries_eq_ok_iff.mp h
  have hNames : (names.zip parts).map Prod.fst = names := List.map_fst_zip hParts.length_eq.le
  by_cases hMem : name ∈ names
  · rw [← hNames] at hMem
    obtain ⟨last, before, after, hSplit, hLast⟩ := Entries.exists_last_of_mem hMem
    rw [hSplit, Entries.get?_foldl_insert_append_cons hLast, Option.some.injEq] at hGet
    subst hGet
    have hPair : (name, last) ∈ names.zip parts := by simp [hSplit]
    rw [hNames] at hMem
    exact .inl ⟨hMem, (List.forall₂_iff_zip.mp hParts).2 hPair⟩
  · rw [Entries.get?_foldl_insert_of_not_mem _ _ (hNames.symm ▸ hMem)] at hGet
    exact .inr ⟨hMem, hGet⟩

/-- A filling succeeds when every part does. -/
theorem exists_fillEntries (h : ∀ name ∈ names, ∃ c, fill name start = .ok c) :
    ∃ filled, fillEntries start fill names entries = .ok filled := by
  obtain ⟨parts, hParts⟩ := exists_mapM_eq_ok h
  exact ⟨_, fillEntries_eq_ok_iff.mpr ⟨parts, mapM_eq_ok_iff.mp hParts, rfl⟩⟩

theorem fillEntries_eq_error {e : ε} (h : fill name start = .error e) :
    fillEntries start fill (name :: names) entries = .error e := by
  simp only [fillEntries, h]
  rfl

/-- A filling fails for one of its parts. -/
theorem exists_of_fillEntries_eq_error {e : ε}
    (h : fillEntries start fill names entries = .error e) :
    ∃ name ∈ names, fill name start = .error e := by
  rw [fillEntries_eq_mapM, map_eq_pure_bind, bind_eq_error_iff] at h
  rcases h with h | ⟨parts, _, h⟩
  · exact exists_of_mapM_eq_error h
  · cases h

/-- Only what is made of fresh content counts. -/
theorem fillEntries_congr {fill' : String → Content → Except ε Content}
    (h : ∀ name ∈ names, fill' name start = fill name start) :
    ∀ entries, fillEntries start fill' names entries = fillEntries start fill names entries := by
  induction names with
  | nil => exact fun entries => rfl
  | cons name names ih =>
      intro entries
      rw [List.forall_mem_cons] at h
      simp only [fillEntries, h.1, ih h.2]

end Entries
end Content
end DataContract
