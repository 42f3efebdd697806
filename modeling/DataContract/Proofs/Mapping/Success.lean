import DataContract.Proofs.Mapping.Written
/-!
# What success leaves behind veils

Where the look ahead sees veils, it does not tell whether a value can be stored.  But where
storing comes to its end, it has laid the value over what storage held, as it would have
without veils: success in a container is that of every part, and success in a record that
of every property.

**Results.**
* `refillItems_storeItem_cases`, `refillEntries_storeEntry_cases`: containers are replaced by
  their parts, or left alone because one of them fails.
* `laysOverVeiled`: a value that is stored in a veiled slot lies over what the slot held.
-/

namespace DataContract

variable {R : Readers}

namespace Schema

variable {kinds : String → String → Prop} {types types' : Catalog}

section Containers

variable {store : Value → Shape → Content → Stored} {element : Shape} {c : Content}

theorem storePart_eq_ok_iff {use : Shape → Content → Stored} {d : Content} :
    storePart types use element c = .ok d ↔
      Content.throughSlot types use element c = (.ok (), d) := by
  unfold storePart
  split <;> rename_i hEq <;> simp [hEq]

theorem exists_of_mapError_eq_error {ε ε' α : Type} {x : Except ε α} {f : ε → ε'} {e : ε'}
    (h : x.mapError f = .error e) :
    ∃ e₀, x = .error e₀ ∧ e = f e₀ := by
  cases x with
  | ok a => cases h
  | error e₀ => exact ⟨e₀, rfl, (Except.error.inj h).symm⟩

/-- A sequence is replaced by a part for each item, or left alone since a part fails. -/
theorem refillItems_storeItem_cases (types : Catalog) (vs : List Value) :
    (∃ ds, List.Forall₂ (fun w d =>
          storePart types (store w) element (.fresh types element) = .ok d) vs ds ∧
        Content.refillItems types element vs.length (storeItem types store element vs) c =
          (.ok (), .sequence ds)) ∨
      ∃ w ∈ vs, ∃ fault segment,
        storePart types (store w) element (.fresh types element) = .error fault ∧
          Content.refillItems types element vs.length (storeItem types store element vs) c =
            (.error (fault.under segment), c) := by
  rw [Content.refillItems]
  cases hFill : Content.fillItems (.fresh types element) (storeItem types store element vs) 0
      vs.length with
  | ok ds => exact .inl ⟨ds, forall₂_of_fillItems hFill, rfl⟩
  | error e =>
      obtain ⟨i, hi, hPart⟩ := Content.exists_of_fillItems_eq_error hFill
      rw [Nat.zero_add, storeItem, List.getElem?_eq_getElem hi] at hPart
      obtain ⟨fault, hFault, rfl⟩ := exists_of_mapError_eq_error hPart
      exact .inr ⟨vs[i], List.getElem_mem hi, fault, _, hFault, rfl⟩

/-- A dictionary is replaced by a part for each entry, or left alone since a part fails. -/
theorem refillEntries_storeEntry_cases (types : Catalog) (entries : Entries Value) :
    (∃ ds : Entries Content,
        (ds.Sorted ∧ (∀ name, name ∈ ds.names ↔ name ∈ entries.names) ∧
          ∀ name d, ds.get? name = some d → ∃ w, entries.get? name = some w ∧
            storePart types (store w) element (.fresh types element) = .ok d) ∧
        Content.refillEntries types "" element entries.names
            (storeEntry types store element entries) c = (.ok (), .dictionary ds)) ∨
      ∃ name w, entries.get? name = some w ∧ ∃ fault segment,
        storePart types (store w) element (.fresh types element) = .error fault ∧
          Content.refillEntries types "" element entries.names
              (storeEntry types store element entries) c = (.error (fault.under segment), c) := by
  have hNames : entries.names.map (· ++ "") = entries.names := by simp
  rw [Content.refillEntries, hNames]
  cases hFill : Content.fillEntries (.fresh types element)
      (storeEntry types store element entries) entries.names [] with
  | ok ds => exact .inl ⟨ds, parts_of_fillEntries hFill, rfl⟩
  | error e =>
      obtain ⟨name, hName, hPart⟩ := Content.exists_of_fillEntries_eq_error hFill
      obtain ⟨w, hw⟩ := Entries.exists_get?_of_mem_names hName
      rw [storeEntry, hw] at hPart
      obtain ⟨fault, hFault, rfl⟩ := exists_of_mapError_eq_error hPart
      exact .inr ⟨name, w, hw, fault, _, hFault, rfl⟩

end Containers

/-- Where storing succeeds, the value lies over every typed content of the veiled slot. -/
def LaysOverVeiled (types types' : Catalog) (s : Schema R) (v : Value) (slot slot' : Shape) :
    Prop :=
  ∀ c d, Content.HasShape types slot c → store types' s v slot' c = (.ok (), d) →
    d = overlaySlot types' s v slot' c

section Parts

variable {s : Schema R} {v : Value} {shape shape' : Shape} {c d : Content}
variable (hTypes : types.Standard) (hVeils : types.VeiledAs kinds types')
include hTypes hVeils

/-- Success passes through veils and optional layers. -/
theorem throughSlot_of_laysOverVeiled (h : shape.VeiledAs kinds shape') (hShape : shape.Standard)
    (hLays : LaysOverVeiled types types' s v shape.slot shape'.slot)
    (hc : Content.HasShape types shape c)
    (hStore : Content.throughSlot types' (store types' s v) shape' c = (.ok (), d)) :
    d = overlay types' s v shape' c := by
  have hOpened := hc.opened hTypes hShape
  rw [← h.opened_eq hVeils] at hOpened
  have hResult : (Content.throughSlot types' (store types' s v) shape' c).1 = .ok () := by
    rw [hStore]
  have hInside := hLays _ _ hOpened (Prod.ext hResult rfl)
  rw [overlay, ← throughSlot_eq_changed hInside, hStore]

/-- A part of a container that is filled has the value laid over fresh storage. -/
theorem eq_overlay_of_storePart_veiled (h : shape.VeiledAs kinds shape')
    (hShape : shape.Standard) (hLays : LaysOverVeiled types types' s v shape.slot shape'.slot)
    (hPart : storePart types' (store types' s v) shape' (.fresh types' shape') = .ok d) :
    d = overlay types' s v shape' (.fresh types' shape') := by
  have hFresh := Content.hasShape_fresh hTypes hShape
  rw [← h.fresh_eq hVeils] at hFresh
  exact throughSlot_of_laysOverVeiled hTypes hVeils h hShape hLays hFresh
    (storePart_eq_ok_iff.mp hPart)

theorem laysOverVeiled_array {note : Annotation} {items : Schema R} {unique : Bool}
    {vs : List Value} {element element' : Shape} (h : element.VeiledAs kinds element')
    (hElement : element.Standard)
    (hItems : ∀ w ∈ vs, LaysOverVeiled types types' items w element.slot element'.slot) :
    LaysOverVeiled types types' (.array note items unique) (.array vs) (.sequence element)
      (.sequence element') := by
  intro c d _ hStore
  simp only [store, Value.items?] at hStore
  split at hStore
  · cases hStore
  · rcases refillItems_storeItem_cases types' vs with
      ⟨ds, hParts, hRefill⟩ | ⟨w, _, fault, segment, _, hRefill⟩
    · rw [hRefill] at hStore
      cases hStore
      rw [overlaySlot, Content.sequence.injEq, eq_comm, ← List.forall₂_eq_eq_eq,
        List.forall₂_map_left_iff]
      refine ((List.forall₂_and_left vs ds).mpr ⟨hItems, hParts⟩).imp ?_
      rintro w d ⟨hLays, hPart⟩
      exact (eq_overlay_of_storePart_veiled hTypes hVeils h hElement hLays hPart).symm
    · rw [hRefill] at hStore
      cases hStore

theorem laysOverVeiled_map {note : Annotation} {values : Schema R} {entries : Entries Value}
    {element element' : Shape} (h : element.VeiledAs kinds element') (hElement : element.Standard)
    (hSorted : entries.Sorted)
    (hEntries : ∀ entry ∈ entries,
      LaysOverVeiled types types' values entry.2 element.slot element'.slot) :
    LaysOverVeiled types types' (.map note values) (.object entries) (.dictionary "" element)
      (.dictionary "" element') := by
  intro c d _ hStore
  simp only [store, Value.entries?] at hStore
  split at hStore
  · cases hStore
  · rcases refillEntries_storeEntry_cases types' entries with
      ⟨ds, ⟨hDs, hNames, hParts⟩, hRefill⟩ | ⟨name, w, _, fault, segment, _, hRefill⟩
    · rw [hRefill] at hStore
      cases hStore
      rw [overlaySlot, Content.dictionary.injEq]
      refine hDs.ext (hSorted.mapValues _) fun name => ?_
      rw [Entries.get?_mapValues]
      cases hStored : ds.get? name with
      | none =>
          have hAbsent : entries.get? name = none := by
            rw [Entries.get?_eq_none_iff, ← hNames]
            exact Entries.get?_eq_none_iff.mp hStored
          rw [hAbsent, Option.map_none]
      | some d =>
          obtain ⟨w, hw, hPart⟩ := hParts name d hStored
          rw [hw, Option.map_some, Option.some.injEq]
          exact eq_overlay_of_storePart_veiled hTypes hVeils h hElement
            (hEntries _ (Entries.mem_of_get? hw)) hPart
    · rw [hRefill] at hStore
      cases hStore

end Parts

section Records

variable (hTypes : types.Standard) (hVeils : types.VeiledAs kinds types')
variable {t t' : RecordType} (hRecord : t.Standard types) (hVeiled : t.VeiledAs kinds t')
variable {data : Entries Value} {properties : List (String × Schema R)}
include hTypes hVeils hRecord hVeiled

/-- A property that is put into its veiled field keeps the shapes of all fields, and lies over
what the field held if it is stored. -/
theorem throughField_of_laysOverVeiled {name : String} {s : Schema R} {w : Value} {f' : Field}
    {fields : Entries Content} (hField' : t'.field? name = some f')
    (hPart : ∀ slot slot' : Shape, slot.SlotVeiledAs kinds slot' → slot.Standard →
      StoresSafely types types' s w slot slot' ∧ LaysOverVeiled types types' s w slot slot')
    (hFields : Content.FieldsHaveShape types t fields) :
    Content.FieldsHaveShape types t (fields.insert f'.name
        (Content.throughSlot types' (store types' s w) f'.shape (.ofField f' fields)).2) ∧
      (∃ c, fields.get? f'.name = some c) ∧
      ((Content.throughSlot types' (store types' s w) f'.shape (.ofField f' fields)).1 = .ok () →
        (Content.throughSlot types' (store types' s w) f'.shape (.ofField f' fields)).2 =
          overlay types' s w f'.shape (.ofField f' fields)) := by
  obtain ⟨_, hNone'⟩ | ⟨f, g', hField, hField'', hVeil⟩ := hVeiled.field?_cases name
  · rw [hNone'] at hField'
    cases hField'
  · obtain rfl : f' = g' := Option.some.inj (hField'.symm.trans hField'')
    have hMem := RecordType.mem_fields_of_field? hField
    have hShape := hRecord.shapes f hMem
    have hTyped := hFields.hasShape_ofField hMem
    obtain ⟨hSafe, hLays⟩ := hPart _ _ hVeil.shape.slot hShape.slot
    rw [← hVeil.ofField_eq] at hTyped
    have hStored := safelyStored_throughSlot hTypes hVeils hVeil.shape hShape hSafe hTyped
    obtain ⟨c, hGet, _⟩ := hFields.exists_get? hMem
    have hInsert := hFields.insert hRecord hMem hStored.typed
    rw [← hVeil.name] at hGet hInsert
    exact ⟨hInsert, ⟨c, hGet⟩, fun hOk =>
      throughSlot_of_laysOverVeiled hTypes hVeils hVeil.shape hShape hLays hTyped
        (Prod.ext hOk rfl)⟩

/-- Properties that are all stored lie over the fields of the record. -/
theorem storeProperties_of_laysOverVeiled
    (hParts : ∀ property ∈ properties, ∀ w, data.get? property.1 = some w →
      ∀ slot slot' : Shape, slot.SlotVeiledAs kinds slot' → slot.Standard →
        StoresSafely types types' property.2 w slot slot' ∧
          LaysOverVeiled types types' property.2 w slot slot') :
    ∀ {fields : Entries Content}, Content.FieldsHaveShape types t fields →
      (storeProperties types' properties data t' fields).1 = .ok () →
        (storeProperties types' properties data t' fields).2 =
          Entries.mapNamed (overlayField types' properties data t') fields := by
  induction properties with
  | nil =>
      intro fields _ _
      simp [storeProperties, Entries.mapNamed, overlayField]
  | cons property properties ih =>
      intro fields hFields hResult
      obtain ⟨name, s⟩ := property
      rw [List.forall_mem_cons] at hParts
      by_cases hLeads : ∃ w f', data.get? name = some w ∧ t'.field? name = some f'
      · obtain ⟨w, f', hValue, hField'⟩ := hLeads
        obtain ⟨hTyped, hThere, hOverlay⟩ := throughField_of_laysOverVeiled hTypes hVeils hRecord
          hVeiled hField' (hParts.1 w hValue) hFields
        cases hFirst : (Content.throughSlot types' (store types' s w) f'.shape
            (.ofField f' fields)).1 with
        | error fault =>
            rw [storeProperties_cons_of_error hValue hField' hFirst] at hResult
            cases hResult
        | ok =>
            rw [storeProperties_cons_of_ok hValue hField' hFirst] at hResult ⊢
            rw [ih hParts.2 hTyped hResult, hOverlay hFirst]
            exact mapNamed_overlayField_insert hValue hField' hFields.sorted hThere
      · have hNone (w) (f') (hw : data.get? name = some w) (hf : t'.field? name = some f') :
            False :=
          hLeads ⟨w, f', hw, hf⟩
        rw [storeProperties_cons_of_none hNone] at hResult ⊢
        rw [mapNamed_overlayField_cons_of_none hNone]
        exact ih hParts.2 hFields hResult

end Records

theorem eq_overlaySlot_of_isLeaf {s : Schema R} {v : Value} {shape : Shape} {c d : Content}
    (hLeaf : s.IsLeaf) (h : store types s v shape c = (.ok (), d)) :
    d = overlaySlot types s v shape c := by
  by_cases hAny : shape = .any
  · subst hAny
    rw [store_any] at h
    rw [overlaySlot_any]
    exact (congrArg Prod.snd h).symm
  · rw [store_eq_storeLeaf hLeaf hAny] at h
    rw [overlaySlot_of_isLeaf hLeaf hAny, decoded?_of_storeLeaf h, Option.getD_some]

/-- A scalar takes the decoded value, and nothing that has parts unless it takes anything. -/
theorem laysOverVeiled_of_isScalar {s : Schema R} {v : Value} {slot : Shape}
    (hScalar : slot.IsScalar) :
    LaysOverVeiled types types' s v slot slot := by
  intro c d _ hStore
  by_cases hLeaf : s.IsLeaf
  · exact eq_overlaySlot_of_isLeaf hLeaf hStore
  · by_cases hAny : slot = .any
    · subst hAny
      rw [store_any] at hStore
      rw [overlaySlot_any]
      exact (congrArg Prod.snd hStore).symm
    · exfalso
      cases s <;> first
        | exact hLeaf trivial
        | (cases slot <;> first
            | exact hScalar.elim
            | exact hAny rfl
            | cases hStore)

/-- A valid value that is stored in a veiled slot lies over what the slot held. -/
theorem laysOverVeiled (hTypes : types.Standard) (hVeils : types.VeiledAs kinds types')
    (s : Schema R) :
    ∀ v ∈ s.valueSet, v.WellFormed → ∀ slot slot' : Shape, slot.SlotVeiledAs kinds slot' →
      slot.Standard → LaysOverVeiled types types' s v slot slot' := by
  induction s using inductionOnParts with
  | leaf s hLeaf => exact fun v _ _ slot slot' _ _ c d _ h => eq_overlaySlot_of_isLeaf hLeaf h
  | array note items unique ih =>
      intro v hv hWellFormed slot slot' h hSlot
      obtain ⟨vs, rfl, hItems, _⟩ := mem_valueSet_array.mp hv
      rw [Value.wellFormed_array_iff] at hWellFormed
      cases h with
      | @sequence element element' hVeiled =>
          have hElement : element.Standard := hSlot
          exact laysOverVeiled_array hTypes hVeils hVeiled hElement fun w hw =>
            ih w (hItems w hw) (hWellFormed w hw) _ _ hVeiled.slot hElement.slot
      | scalar hScalar => exact laysOverVeiled_of_isScalar hScalar
      | _ => exact fun c d _ hStore => by cases hStore
  | map note values ih =>
      intro v hv hWellFormed slot slot' h hSlot
      obtain ⟨entries, rfl, hEntries⟩ := mem_valueSet_map.mp hv
      obtain ⟨hSorted, hWellFormed⟩ := Value.wellFormed_object_iff.mp hWellFormed
      cases h with
      | @dictionary suffix element element' hVeiled =>
          obtain ⟨rfl, hElement⟩ := hSlot
          exact laysOverVeiled_map hTypes hVeils hVeiled hElement hSorted fun entry hEntry =>
            ih entry.2 (hEntries entry hEntry) (hWellFormed entry hEntry) _ _ hVeiled.slot
              hElement.slot
      | scalar hScalar => exact laysOverVeiled_of_isScalar hScalar
      | _ => exact fun c d _ hStore => by cases hStore
  | object note properties additional required ih =>
      intro v hv hWellFormed slot slot' h hSlot
      obtain ⟨data, rfl, hProperties, _⟩ := mem_valueSet_object.mp hv
      obtain ⟨_, hWellFormed⟩ := Value.wellFormed_object_iff.mp hWellFormed
      cases h with
      | @record name name' hKinds =>
          intro c d hc hStore
          obtain ⟨r, _, hLook⟩ := looksThrough hTypes hVeils
            (.object note properties additional required) _ _ (.record hKinds) trivial
          obtain ⟨fields, rfl, hFields⟩ := Content.hasShape_record_iff.mp hc
          cases r with
          | error m =>
              simp only [store, hLook _ hc] at hStore
              cases hStore
          | ok =>
              simp only [store, hLook _ hc, Value.entries?, Content.fields] at hStore
              have hParts := storeProperties_of_laysOverVeiled hTypes hVeils (hTypes.find name)
                (hVeils name name' hKinds) (fun property hProperty w hw slot slot' h hSlot =>
                  have hValid := hProperties property hProperty w hw
                  have hPart := hWellFormed (property.1, w) (Entries.mem_of_get? hw)
                  ⟨storesSafely hTypes hVeils _ w hValid _ _ h hSlot,
                    ih property hProperty w hValid hPart _ _ h hSlot⟩)
                hFields (congrArg Prod.fst hStore)
              obtain ⟨_, rfl⟩ := Prod.mk.inj hStore
              rw [hParts]
              rfl
      | scalar hScalar => exact laysOverVeiled_of_isScalar hScalar
      | _ => exact fun c d _ hStore => by cases hStore
  | combined combinator branches ih =>
      intro v _ _ slot slot' h _
      cases h with
      | scalar hScalar => exact laysOverVeiled_of_isScalar hScalar
      | _ => exact fun c d _ hStore => by cases hStore

end Schema
end DataContract
