import DataContract.Proofs.Mapping.Outcome
import DataContract.Proofs.Target.Veiling
/-!
# Mapping through veils

A look at veiled storage sees less than a look at the same storage without veils: it is good
whenever the other is, and may be good where the other is not.  Where a schema fits the
storage below the veils, a valid value is stored in the same way, veils or not.

**Results.**
* `looksThrough`: a look at veiled storage has one verdict, and changes no content.
* `sameStored`: what fits below the veils is stored as if there were none.
-/

namespace DataContract

variable {R : Readers}

namespace Schema

variable {kinds : String → String → Prop} {types types' : Catalog}

section Scalars

variable {s : Schema R} {v : Value} {shape : Shape} {c : Content}

theorem check_of_isScalar (h : shape.IsScalar) :
    check types' s shape c = (fit types s shape, c) := by
  cases shape <;> first | exact h.elim | (cases s <;> rfl)

/-- No catalog is asked for a scalar. -/
theorem store_of_isScalar (h : shape.IsScalar) :
    store types' s v shape c = store types s v shape c := by
  cases shape <;> first | exact h.elim | (cases s <;> rfl)

end Scalars

/-- A look at a veiled slot has one verdict for all contents, which it leaves as they are.
The verdict is good if the schema fits the slot without veils. -/
def LooksThrough (types types' : Catalog) (s : Schema R) (slot slot' : Shape) : Prop :=
  ∃ r, (fit types s slot = .ok () → r = .ok ()) ∧
    ∀ c, Content.HasShape types slot c → check types' s slot' c = (r, c)

/-- Where the schema does not fit, any verdict will do. -/
theorem looksThrough_of_unfit {s : Schema R} {slot slot' : Shape} {r : Except Mismatch Unit}
    (hFit : fit types s slot ≠ .ok ()) (hCheck : ∀ c, check types' s slot' c = (r, c)) :
    LooksThrough types types' s slot slot' :=
  ⟨r, fun h => absurd h hFit, fun c _ => hCheck c⟩

section Looks

variable (hTypes : types.Standard) (hVeils : types.VeiledAs kinds types')
include hTypes hVeils

/-- From outside, a look at a veil is always good. -/
theorem exists_inspected_eq {s : Schema R} {shape shape' : Shape} (h : shape.VeiledAs kinds shape')
    (hShape : shape.Standard) (hLook : LooksThrough types types' s shape.slot shape'.slot) :
    ∃ r, (fit types s shape.slot = .ok () → r = .ok ()) ∧
      ∀ c, Content.HasShape types shape c →
        Content.inspected types' (check types' s) shape' c = (r, c) := by
  induction h with
  | @optional inner inner' inside ih =>
      obtain ⟨r, hr, hInner⟩ := ih hShape hLook
      refine ⟨r, hr, fun c hc => ?_⟩
      cases hc with
      | absent =>
          rw [Content.inspected, inside.fresh_eq hVeils,
            hInner _ (Content.hasShape_fresh hTypes hShape)]
          simp
      | present hInside => rw [Content.inspected, hInner _ hInside]
  | veiled inside ih =>
      refine ⟨.ok (), fun _ => rfl, fun c _ => ?_⟩
      rw [Content.inspected, check_any]
  | @scalar shape hScalar =>
      obtain ⟨r, hr, hCheck⟩ := hLook
      rw [Shape.VeiledAs.slot_of_isScalar hScalar] at hCheck hr
      refine ⟨r, by rwa [Shape.VeiledAs.slot_of_isScalar hScalar], fun c hc => ?_⟩
      rw [← hCheck c hc]
      cases shape <;> first | rfl | exact hScalar.elim
  | _ =>
      obtain ⟨r, hr, hCheck⟩ := hLook
      exact ⟨r, hr, fun c hc => hCheck c hc⟩

/-- A look at a part of a container passes through its veils. -/
theorem exists_probe_eq {s : Schema R} {element element' : Shape}
    (h : element.VeiledAs kinds element') (hElement : element.Standard)
    (hLook : LooksThrough types types' s element.slot element'.slot) :
    ∃ r, (fit types s element.slot = .ok () → r = .ok ()) ∧
      probe types' (check types' s) element' = r := by
  obtain ⟨r, hr, hCheck⟩ := hLook
  have hFresh := Content.hasShape_fresh hTypes hElement
  refine ⟨r, hr, ?_⟩
  rw [probe, Content.throughSlot, h.fresh_eq hVeils, h.opened_eq hVeils,
    hCheck _ (hFresh.opened hTypes hElement)]

theorem exists_checkProperties_eq {t t' : RecordType} (h : t.VeiledAs kinds t')
    (hRecord : t.Standard types) {properties : List (String × Schema R)}
    (hParts : ∀ property ∈ properties, ∀ slot slot' : Shape, slot.SlotVeiledAs kinds slot' →
      slot.Standard → LooksThrough types types' property.2 slot slot') :
    ∃ r, (fitProperties types properties t = .ok () → r = .ok ()) ∧
      ∀ fields, Content.FieldsHaveShape types t fields →
        checkProperties types' properties t' fields = (r, fields) := by
  induction properties with
  | nil => exact ⟨.ok (), fun _ => rfl, fun fields _ => rfl⟩
  | cons property properties ih =>
      obtain ⟨name, s⟩ := property
      rw [List.forall_mem_cons] at hParts
      obtain ⟨r, hr, hRest⟩ := ih hParts.2
      obtain ⟨hNone, hNone'⟩ | ⟨f, f', hField, hField', hVeiled⟩ := h.field?_cases name
      · refine ⟨r, fun hFit => hr ?_, fun fields hTyped => ?_⟩
        · rwa [fitProperties, hNone] at hFit
        · rw [checkProperties, hNone']
          exact hRest fields hTyped
      · have hMem := RecordType.mem_fields_of_field? hField
        have hShape := hRecord.shapes f hMem
        obtain ⟨first, hFirst, hInspect⟩ := exists_inspected_eq hTypes hVeils hVeiled.shape hShape
          (hParts.1 _ _ hVeiled.shape.slot hShape.slot)
        cases first with
        | ok =>
            refine ⟨r, fun hFit => hr ?_, fun fields hTyped => ?_⟩
            · rw [fitProperties, hField] at hFit
              cases hFits : fit types s f.shape.slot with
              | ok => simpa [hFits] using hFit
              | error m => simp [hFits] at hFit
            · simp only [checkProperties, hField', hVeiled.ofField_eq, hVeiled.name,
                hInspect _ (hTyped.hasShape_ofField hMem), hTyped.insert_ofField hMem]
              exact hRest fields hTyped
        | error m =>
            refine ⟨.error m, fun hFit => ?_, fun fields hTyped => ?_⟩
            · rw [fitProperties_eq_ok_iff, List.forall_mem_cons] at hFit
              exact absurd (hFirst (hFit.1 f hField)) (by simp)
            · simp only [checkProperties, hField', hVeiled.ofField_eq, hVeiled.name,
                hInspect _ (hTyped.hasShape_ofField hMem), hTyped.insert_ofField hMem]

/-- A look at a veiled slot has one verdict, and changes nothing. -/
theorem looksThrough (s : Schema R) :
    ∀ slot slot' : Shape, slot.SlotVeiledAs kinds slot' → slot.Standard →
      LooksThrough types types' s slot slot' := by
  have hScalar {s : Schema R} {slot : Shape} (hSlot : slot.IsScalar) :
      LooksThrough types types' s slot slot :=
    ⟨fit types s slot, id, fun c _ => check_of_isScalar hSlot⟩
  induction s using inductionOnParts with
  | leaf s hLeaf =>
      intro slot slot' h _
      cases h with
      | scalar hSlot => exact hScalar hSlot
      | _ =>
          refine looksThrough_of_unfit ?_ fun c => check_eq_of_isLeaf hLeaf
          rw [fit_of_isLeaf hLeaf (by simp)]
          cases s <;> simp [fitsLeaf]
  | array note items unique ih =>
      intro slot slot' h hSlot
      cases h with
      | scalar hSlot => exact hScalar hSlot
      | @sequence element element' hVeiled =>
          have hElement : element.Standard := hSlot
          obtain ⟨r, hr, hProbe⟩ := exists_probe_eq hTypes hVeils hVeiled hElement
            (ih _ _ hVeiled.slot hElement.slot)
          exact ⟨r, hr, fun c _ => by rw [check, hProbe]⟩
      | _ => exact looksThrough_of_unfit (by simp [fit]) fun c => rfl
  | map note values ih =>
      intro slot slot' h hSlot
      cases h with
      | scalar hSlot => exact hScalar hSlot
      | @dictionary suffix element element' hVeiled =>
          have hElement : element.Standard := hSlot.2
          obtain ⟨r, hr, hProbe⟩ := exists_probe_eq hTypes hVeils hVeiled hElement
            (ih _ _ hVeiled.slot hElement.slot)
          exact ⟨r, hr, fun c _ => by rw [check, hProbe]⟩
      | _ => exact looksThrough_of_unfit (by simp [fit]) fun c => rfl
  | object note properties additional required ih =>
      intro slot slot' h _
      cases h with
      | scalar hSlot => exact hScalar hSlot
      | @record name name' hKinds =>
          have hRecord := hVeils name name' hKinds
          obtain ⟨r, hr, hCheck⟩ := exists_checkProperties_eq hTypes hVeils hRecord
            (hTypes.find name) ih
          have hNames : unboundName? properties required (types'.find name') =
              unboundName? properties required (types.find name) := by
            rw [unboundName?, unboundName?, hRecord.names_eq]
          cases hUnbound : unboundName? properties required (types.find name) with
          | some unbound =>
              rw [hUnbound] at hNames
              refine looksThrough_of_unfit (r := .error (nameMismatch unbound)) ?_ fun c => ?_
              · rw [Ne, fit_object_eq_ok_iff, hUnbound]
                simp
              · rw [check, hNames]
          | none =>
              rw [hUnbound] at hNames
              refine ⟨r, fun hFit => hr (fit_object_eq_ok_iff.mp hFit).2, fun c hc => ?_⟩
              obtain ⟨fields, rfl, hFields⟩ := Content.hasShape_record_iff.mp hc
              simp only [check, hNames, Content.fields, hCheck fields hFields]
      | _ => exact looksThrough_of_unfit (by simp [fit]) fun c => rfl
  | combined combinator branches ih =>
      intro slot slot' h _
      cases h with
      | scalar hSlot => exact hScalar hSlot
      | _ => exact looksThrough_of_unfit (by simp [fit_combined]) fun c => rfl

end Looks

/-- A value is stored in a veiled slot as in the slot without veils. -/
def SameStored (types types' : Catalog) (s : Schema R) (v : Value) (slot slot' : Shape) : Prop :=
  ∀ c, Content.HasShape types slot c → store types' s v slot' c = store types s v slot c

section Storing

variable (hTypes : types.Standard) (hVeils : types.VeiledAs kinds types')
include hTypes hVeils

theorem throughSlot_of_sameStored {s : Schema R} {v : Value} {shape shape' : Shape}
    (h : shape.VeiledAs kinds shape') (hShape : shape.Standard)
    (hStore : SameStored types types' s v shape.slot shape'.slot) {c : Content}
    (hc : Content.HasShape types shape c) :
    Content.throughSlot types' (store types' s v) shape' c =
      Content.throughSlot types (store types s v) shape c := by
  rw [Content.throughSlot, Content.throughSlot, h.opened_eq hVeils,
    hStore _ (hc.opened hTypes hShape)]
  simp only [h.closed_eq]

theorem storePart_of_sameStored {s : Schema R} {v : Value} {element element' : Shape}
    (h : element.VeiledAs kinds element') (hElement : element.Standard)
    (hStore : SameStored types types' s v element.slot element'.slot) :
    storePart types' (store types' s v) element' (.fresh types' element') =
      storePart types (store types s v) element (.fresh types element) := by
  rw [storePart, storePart, h.fresh_eq hVeils, throughSlot_of_sameStored hTypes hVeils h hElement
    hStore (Content.hasShape_fresh hTypes hElement)]

/-- A probe below the veils is good where the schema fits. -/
theorem probe_eq_ok {s : Schema R} {element element' : Shape} (h : element.VeiledAs kinds element')
    (hElement : element.Standard) (hFit : fit types s element.slot = .ok ()) :
    probe types' (check types' s) element' = .ok () := by
  obtain ⟨r, hr, hProbe⟩ := exists_probe_eq hTypes hVeils h hElement
    (looksThrough hTypes hVeils s _ _ h.slot hElement.slot)
  rw [hProbe, hr hFit]

theorem sameStored_array {note : Annotation} {items : Schema R} {unique : Bool} {vs : List Value}
    {element element' : Shape} (h : element.VeiledAs kinds element') (hElement : element.Standard)
    (hFit : fit types items element.slot = .ok ())
    (hItems : ∀ w ∈ vs, SameStored types types' items w element.slot element'.slot) :
    SameStored types types' (.array note items unique) (.array vs) (.sequence element)
      (.sequence element') := by
  intro c _
  have hFill (place : Nat) :
      storeItem types' (store types' items) element' vs place (.fresh types' element') =
        storeItem types (store types items) element vs place (.fresh types element) := by
    rw [storeItem, storeItem]
    cases hItem : vs[place]? with
    | none => simp only [h.fresh_eq hVeils]
    | some w =>
        simp only [storePart_of_sameStored hTypes hVeils h hElement
          (hItems w (List.mem_of_getElem? hItem))]
  rw [store_array_of_fit hTypes hElement hFit,
    store_array_of_probe (probe_eq_ok hTypes hVeils h hElement hFit), Content.refillItems,
    Content.refillItems, h.fresh_eq hVeils, Content.fillItems_congr fun place => ?_]
  rw [← hFill, h.fresh_eq hVeils]

theorem sameStored_map {note : Annotation} {values : Schema R} {entries : Entries Value}
    {element element' : Shape} (h : element.VeiledAs kinds element') (hElement : element.Standard)
    (hFit : fit types values element.slot = .ok ())
    (hEntries : ∀ entry ∈ entries,
      SameStored types types' values entry.2 element.slot element'.slot) :
    SameStored types types' (.map note values) (.object entries) (.dictionary "" element)
      (.dictionary "" element') := by
  intro c _
  have hFill (name : String) :
      storeEntry types' (store types' values) element' entries name (.fresh types' element') =
        storeEntry types (store types values) element entries name (.fresh types element) := by
    rw [storeEntry, storeEntry]
    cases hEntry : entries.get? name with
    | none => rfl
    | some w =>
        simp only [storePart_of_sameStored hTypes hVeils h hElement
          (hEntries (name, w) (Entries.mem_of_get? hEntry))]
  rw [store_map_of_fit hTypes hElement hFit,
    store_map_of_probe (probe_eq_ok hTypes hVeils h hElement hFit), Content.refillEntries,
    Content.refillEntries, h.fresh_eq hVeils, Content.fillEntries_congr fun name _ => ?_]
  rw [← hFill, h.fresh_eq hVeils]

theorem storeProperties_of_sameStored {t t' : RecordType} (h : t.VeiledAs kinds t')
    (hRecord : t.Standard types) {data : Entries Value} {properties : List (String × Schema R)}
    (hValid : ∀ property ∈ properties, ∀ w, data.get? property.1 = some w →
      w ∈ property.2.valueSet)
    (hParts : ∀ property ∈ properties, ∀ w, data.get? property.1 = some w →
      ∀ slot slot' : Shape, slot.SlotVeiledAs kinds slot' → slot.Standard →
        fit types property.2 slot = .ok () → SameStored types types' property.2 w slot slot')
    (hFit : fitProperties types properties t = .ok ()) :
    ∀ {fields : Entries Content}, Content.FieldsHaveShape types t fields →
      storeProperties types' properties data t' fields =
        storeProperties types properties data t fields := by
  rw [fitProperties_eq_ok_iff] at hFit
  induction properties with
  | nil => exact fun _ => rfl
  | cons property properties ih =>
      intro fields hFields
      obtain ⟨name, s⟩ := property
      rw [List.forall_mem_cons] at hValid hParts hFit
      have hRest := @ih hValid.2 hParts.2 hFit.2
      obtain ⟨hNone, hNone'⟩ | ⟨f, f', hField, hField', hVeiled⟩ := h.field?_cases name
      · rw [storeProperties_cons_of_none (by simp [hNone']),
          storeProperties_cons_of_none (by simp [hNone])]
        exact hRest hFields
      · cases hValue : data.get? name with
        | none =>
            rw [storeProperties_cons_of_none (by simp [hValue]),
              storeProperties_cons_of_none (by simp [hValue])]
            exact hRest hFields
        | some w =>
            have hMem := RecordType.mem_fields_of_field? hField
            have hShape := hRecord.shapes f hMem
            have hTyped := hFields.hasShape_ofField hMem
            have hFits := hFit.1 f hField
            have hSame := throughSlot_of_sameStored hTypes hVeils hVeiled.shape hShape
              (hParts.1 w hValue _ _ hVeiled.shape.slot hShape.slot hFits) hTyped
            rw [← hVeiled.ofField_eq] at hSame hTyped
            have hStore := store_eq_fit hTypes s w (hValid.1 w hValue) f.shape.slot hShape.slot
            rw [hFits] at hStore
            obtain ⟨hResult, hContent⟩ := throughSlot_of_storesAs hTypes hShape hStore hTyped
            rw [storeProperties_cons_of_ok hValue hField' (hSame ▸ hResult), hSame,
              hVeiled.ofField_eq, hVeiled.name]
            rw [hVeiled.ofField_eq] at hResult hContent
            rw [storeProperties_cons_of_ok hValue hField hResult]
            exact hRest (hFields.insert hRecord hMem hContent)

/-- What fits below the veils is stored as if there were none. -/
theorem sameStored (s : Schema R) :
    ∀ v ∈ s.valueSet, ∀ slot slot' : Shape, slot.SlotVeiledAs kinds slot' → slot.Standard →
      fit types s slot = .ok () → SameStored types types' s v slot slot' := by
  induction s using inductionOnParts with
  | leaf s hLeaf =>
      intro v _ slot slot' h _ hFit
      cases h with
      | scalar hSlot => exact fun c _ => store_of_isScalar hSlot
      | _ =>
          rw [fit_of_isLeaf hLeaf (by simp)] at hFit
          cases s <;> simp [fitsLeaf] at hFit
  | array note items unique ih =>
      intro v hv slot slot' h hSlot hFit
      obtain ⟨vs, rfl, hItems, _⟩ := mem_valueSet_array.mp hv
      cases h with
      | scalar hSlot => exact fun c _ => store_of_isScalar hSlot
      | @sequence element element' hVeiled =>
          have hElement : element.Standard := hSlot
          exact sameStored_array hTypes hVeils hVeiled hElement hFit fun w hw =>
            ih w (hItems w hw) _ _ hVeiled.slot hElement.slot hFit
      | _ => cases hFit
  | map note values ih =>
      intro v hv slot slot' h hSlot hFit
      obtain ⟨entries, rfl, hEntries⟩ := mem_valueSet_map.mp hv
      cases h with
      | scalar hSlot => exact fun c _ => store_of_isScalar hSlot
      | @dictionary suffix element element' hVeiled =>
          obtain ⟨rfl, hElement⟩ := hSlot
          exact sameStored_map hTypes hVeils hVeiled hElement hFit fun entry hEntry =>
            ih entry.2 (hEntries entry hEntry) _ _ hVeiled.slot hElement.slot hFit
      | _ => cases hFit
  | object note properties additional required ih =>
      intro v hv slot slot' h hSlot hFit
      obtain ⟨data, rfl, hProperties, _⟩ := mem_valueSet_object.mp hv
      cases h with
      | scalar hSlot => exact fun c _ => store_of_isScalar hSlot
      | @record name name' hKinds =>
          intro c hc
          obtain ⟨fields, rfl, hFields⟩ := Content.hasShape_record_iff.mp hc
          have hSame := storeProperties_of_sameStored hTypes hVeils (hVeils name name' hKinds)
            (hTypes.find name) hProperties
            (fun property hProperty w hw =>
              ih property hProperty w (hProperties property hProperty w hw))
            (fit_object_eq_ok_iff.mp hFit).2 hFields
          obtain ⟨r, hr, hLook⟩ := looksThrough hTypes hVeils
            (.object note properties additional required) _ _ (.record hKinds) trivial
          rw [store_object_of_fit hTypes hFields hFit, ← hSame]
          simp only [store, hLook _ hc, hr hFit, Value.entries?, Content.fields]
      | _ => cases hFit
  | combined combinator branches ih =>
      intro v _ slot slot' h _ hFit
      cases h with
      | scalar hSlot => exact fun c _ => store_of_isScalar hSlot
      | _ => simp [fit_combined] at hFit

end Storing

end Schema
end DataContract
