import DataContract.Mapping.Fit
import DataContract.Proofs.Target.Filling
/-!
# Staged filling

A callback that fills the parts of a container may do whatever it likes besides: it has a
state of its own, which a call may change and the next call finds changed.  It is called for
one part after the other, each time with fresh content, and no more once it fails.  The
container holds what it held until the last call has succeeded.

**Results.**
* `mapM_fills_or_fails`: the calls that a list of parts leads to.
* `refill_all_or_nothing`: a container is replaced by all its parts, or left alone.
* `refillItemsM_pure`, `refillEntriesM_pure`, `probe_eq_probeM`: callbacks without effects.
-/

namespace DataContract
namespace Content

section Calls

variable {σ ε κ : Type}

/-- Calls for some keys, in order and each with the same fresh content.  All of them succeed:
they make one part for each key, and hand the state on. -/
inductive FilledAll (fill : κ → Content → ExceptT ε (StateM σ) Content) (fresh : Content) :
    List κ → σ → List Content → σ → Prop
  | nil (state : σ) : FilledAll fill fresh [] state [] state
  | cons {key : κ} {keys : List κ} {before between after : σ} {part : Content}
      {parts : List Content} (head : (fill key fresh).run.run before = (.ok part, between))
      (tail : FilledAll fill fresh keys between parts after) :
      FilledAll fill fresh (key :: keys) before (part :: parts) after

/-- Calls for the keys that stand before one, all of which succeed, and a last call for that
one, which fails. -/
def FailsOnce (fill : κ → Content → ExceptT ε (StateM σ) Content) (fresh : Content)
    (keys : List κ) (before : σ) (e : ε) (after : σ) : Prop :=
  ∃ done key rest parts between, keys = done ++ key :: rest ∧
    FilledAll fill fresh done before parts between ∧
    (fill key fresh).run.run between = (.error e, after)

variable {fill : κ → Content → ExceptT ε (StateM σ) Content} {fresh : Content}

theorem FilledAll.length_eq {keys : List κ} {before after : σ} {parts : List Content}
    (h : FilledAll fill fresh keys before parts after) :
    parts.length = keys.length := by
  induction h with
  | nil => rfl
  | cons _ _ ih => simp [ih]

theorem failsOnce_cons_of_error {key : κ} {keys : List κ} {before after : σ} {e : ε}
    (h : (fill key fresh).run.run before = (.error e, after)) :
    FailsOnce fill fresh (key :: keys) before e after :=
  ⟨[], key, keys, [], before, rfl, .nil before, h⟩

theorem FailsOnce.cons {key : κ} {keys : List κ} {before between after : σ} {part : Content}
    {e : ε} (head : (fill key fresh).run.run before = (.ok part, between))
    (tail : FailsOnce fill fresh keys between e after) :
    FailsOnce fill fresh (key :: keys) before e after := by
  obtain ⟨done, failing, rest, parts, last, rfl, hDone, hError⟩ := tail
  exact ⟨key :: done, failing, rest, part :: parts, last, rfl, .cons head hDone, hError⟩

section Runs

variable {α β : Type} {x : ExceptT ε (StateM σ) α} {f : α → ExceptT ε (StateM σ) β}
variable {before between : σ}

theorem run_bind_of_ok {a : α} (h : x.run.run before = (.ok a, between)) :
    (x >>= f).run.run before = (f a).run.run between := by
  rw [ExceptT.run_bind, StateT.run_bind, h]
  rfl

theorem run_bind_of_error {e : ε} (h : x.run.run before = (.error e, between)) :
    (x >>= f).run.run before = (.error e, between) := by
  rw [ExceptT.run_bind, StateT.run_bind, h]
  rfl

end Runs

/-- A part for each key, or a stop at the first key whose part fails. -/
theorem mapM_fills_or_fails (fill : κ → Content → ExceptT ε (StateM σ) Content)
    (fresh : Content) (keys : List κ) :
    ∀ before,
      (∃ parts after, FilledAll fill fresh keys before parts after ∧
        (keys.mapM (fill · fresh)).run.run before = (.ok parts, after)) ∨
      ∃ e after, FailsOnce fill fresh keys before e after ∧
        (keys.mapM (fill · fresh)).run.run before = (.error e, after) := by
  -- A call hands its state to the calls for the keys behind it.
  induction keys with
  | nil => exact fun before => .inl ⟨[], before, .nil before, rfl⟩
  | cons key keys ih =>
      intro before
      rw [List.mapM_cons]
      rcases hCall : (fill key fresh).run.run before with ⟨result, between⟩
      cases result with
      | error e =>
          exact .inr ⟨e, between, failsOnce_cons_of_error hCall, run_bind_of_error hCall⟩
      | ok part =>
          rw [run_bind_of_ok hCall]
          rcases ih between with ⟨parts, after, hParts, hRun⟩ | ⟨e, after, hFails, hRun⟩
          · exact .inl ⟨part :: parts, after, .cons hCall hParts, run_bind_of_ok hRun⟩
          · exact .inr ⟨e, after, hFails.cons hCall, run_bind_of_error hRun⟩

end Calls

section Containers

variable {σ ε : Type} (types : Catalog) (element : Shape) (old : Content)

/-- A sequence is replaced by a part for each place, or left alone. -/
theorem refillItemsM_fills_or_fails (fill : Nat → Content → ExceptT ε (StateM σ) Content)
    (count : Nat) (before : σ) :
    (∃ items after,
        FilledAll fill (.fresh types element) (List.range count) before items after ∧
          (refillItemsM types element count fill old).run before =
            ((.ok (), .sequence items), after)) ∨
      ∃ e after, FailsOnce fill (.fresh types element) (List.range count) before e after ∧
        (refillItemsM types element count fill old).run before = ((.error e, old), after) := by
  rw [List.range_eq_range']
  rcases mapM_fills_or_fails fill (.fresh types element) (List.range' 0 count) before with
    ⟨items, after, hItems, hRun⟩ | ⟨e, after, hFails, hRun⟩
  · refine .inl ⟨items, after, hItems, ?_⟩
    rw [refillItemsM, fillItems_eq_mapM, StateT.run_bind, hRun]
    rfl
  · refine .inr ⟨e, after, hFails, ?_⟩
    rw [refillItemsM, fillItems_eq_mapM, StateT.run_bind, hRun]
    rfl

/-- A dictionary is replaced by the parts for its names, put in one by one, or left alone. -/
theorem refillEntriesM_fills_or_fails (suffix : String)
    (fill : String → Content → ExceptT ε (StateM σ) Content) (names : List String)
    (before : σ) :
    (∃ parts after,
        FilledAll fill (.fresh types element) (names.map (· ++ suffix)) before parts after ∧
          (refillEntriesM types suffix element names fill old).run before =
            ((.ok (), .dictionary (Entries.ofList ((names.map (· ++ suffix)).zip parts))), after)) ∨
      ∃ e after,
        FailsOnce fill (.fresh types element) (names.map (· ++ suffix)) before e after ∧
          (refillEntriesM types suffix element names fill old).run before =
            ((.error e, old), after) := by
  rcases mapM_fills_or_fails fill (.fresh types element) (names.map (· ++ suffix)) before with
    ⟨parts, after, hParts, hRun⟩ | ⟨e, after, hFails, hRun⟩
  · refine .inl ⟨parts, after, hParts, ?_⟩
    rw [refillEntriesM, fillEntries_eq_mapM, StateT.run_bind, ExceptT.run_map, StateT.run_map, hRun]
    rfl
  · refine .inr ⟨e, after, hFails, ?_⟩
    rw [refillEntriesM, fillEntries_eq_mapM, StateT.run_bind, ExceptT.run_map, StateT.run_map, hRun]
    rfl

/-- Entries of exactly some names, each with the part that was made last for it. -/
structure HoldsLast (names : List String) (parts : List Content) (entries : Entries Content) :
    Prop where
  sorted : entries.Sorted
  mem_names_iff : ∀ name, name ∈ entries.names ↔ name ∈ names
  last : ∀ i name part, names[i]? = some name → parts[i]? = some part →
    name ∉ names.drop (i + 1) → entries.get? name = some part

theorem holdsLast_ofList {names : List String} {parts : List Content}
    (hLength : parts.length = names.length) :
    HoldsLast names parts (Entries.ofList (names.zip parts)) where
  sorted := Entries.sorted_ofList _
  mem_names_iff name := by
    rw [Entries.mem_names_ofList, List.map_fst_zip hLength.ge]
  last i name part hName hPart hLast := by
    have hPair : (names.zip parts)[i]? = some (name, part) :=
      List.getElem?_zip_eq_some.mpr ⟨hName, hPart⟩
    refine Entries.get?_foldl_insert_of_getElem? hPair ?_ []
    rw [List.map_drop, List.map_fst_zip hLength.ge]
    exact hLast

/-- Whatever a callback does besides, a sequence is filled by calls for the places in order
and a dictionary by calls for the names in order, each with fresh content, up to the first
that fails.  After a failure the container holds what it held; otherwise a sequence holds the
parts that were made, and a dictionary for each name the last that was made for it.  To probe
a container leaves it as it was. -/
theorem refill_all_or_nothing (before : σ) :
    (∀ count (fill : Nat → Content → ExceptT ε (StateM σ) Content),
        (∃ items after,
          FilledAll fill (.fresh types element) (List.range count) before items after ∧
            (refillItemsM types element count fill old).run before =
              ((.ok (), .sequence items), after)) ∨
        ∃ e after, FailsOnce fill (.fresh types element) (List.range count) before e after ∧
          (refillItemsM types element count fill old).run before = ((.error e, old), after)) ∧
      (∀ names (fill : String → Content → ExceptT ε (StateM σ) Content),
        (∃ parts entries after,
          FilledAll fill (.fresh types element) names before parts after ∧
            HoldsLast names parts entries ∧
            (refillEntriesM types "" element names fill old).run before =
              ((.ok (), .dictionary entries), after)) ∨
        ∃ e after, FailsOnce fill (.fresh types element) names before e after ∧
          (refillEntriesM types "" element names fill old).run before =
            ((.error e, old), after)) ∧
      ∀ look : Content → StateM σ (Except ε Unit × Content),
        ((probeM types element look old).run before).1.2 = old := by
  refine ⟨fun count fill => refillItemsM_fills_or_fails types element old fill count before,
    fun names fill => ?_, fun look => rfl⟩
  have hNames : names.map (· ++ "") = names := by simp
  have hRun := refillEntriesM_fills_or_fails types element old "" fill names before
  rw [hNames] at hRun
  rcases hRun with ⟨parts, after, hParts, hRun⟩ | hFails
  · exact .inl ⟨parts, _, after, hParts, holdsLast_ofList hParts.length_eq, hRun⟩
  · exact .inr hFails

/-- A callback that numbers its calls is called again for a repeated name. -/
example :
    let fill (_ : String) (_ : Content) : ExceptT Unit (StateM Nat) Content := do
      return .int (← getModify (· + 1))
    (refillEntriesM [] "" (.int .uint8) ["a", "b", "a"] fill (.dictionary [("c", .int 7)])).run 0 =
      ((.ok (), .dictionary [("a", .int 2), ("b", .int 1)]), 3) := rfl

end Containers

section Pure

variable {ε : Type} {m : Type → Type} [Monad m] [LawfulMonad m]
variable {types : Catalog} {element : Shape} {old : Content}

/-- Calls without effects have none together. -/
theorem run_mapM_pure {κ : Type} (f : κ → Except ε Content) (keys : List κ) :
    (keys.mapM fun key => (ExceptT.mk (pure (f key)) : ExceptT ε m Content)).run =
      pure (keys.mapM f) := by
  induction keys with
  | nil => rfl
  | cons key keys ih =>
      rw [List.mapM_cons, List.mapM_cons, ExceptT.run_bind, ExceptT.run_mk, pure_bind]
      cases f key with
      | error e => rfl
      | ok part =>
          change (_ >>= _ : ExceptT ε m _).run = pure (keys.mapM f >>= _)
          rw [ExceptT.run_bind, ih, pure_bind]
          cases keys.mapM f <;> rfl

/-- Nothing but the container is changed by callbacks without effects. -/
theorem refillItemsM_pure {count : Nat} {fill : Nat → Content → Except ε Content} :
    refillItemsM types element count (fun place c => ExceptT.mk (pure (fill place c))) old =
      (pure (refillItems types element count fill old) : m _) := by
  rw [refillItemsM, refillItems, fillItems_eq_mapM, fillItems_eq_mapM, run_mapM_pure, pure_bind]

theorem refillEntriesM_pure {suffix : String} {names : List String}
    {fill : String → Content → Except ε Content} :
    refillEntriesM types suffix element names (fun name c => ExceptT.mk (pure (fill name c)))
        old =
      (pure (refillEntries types suffix element names fill old) : m _) := by
  rw [refillEntriesM, refillEntries, fillEntries_eq_mapM, fillEntries_eq_mapM, ExceptT.run_map,
    run_mapM_pure, map_pure, pure_bind]
  rfl

end Pure

/-- A look at a scratch part is one at a container that is not there. -/
theorem probe_eq_probeM (types : Catalog)
    (look : Shape → Content → Except Mismatch Unit × Content) (element : Shape) (c : Content) :
    Schema.probe types look element =
      (probeM types element (m := Id) (throughSlot types look element) c).run.1 := rfl

end Content
end DataContract
