import DataContract.Proofs.Mapping.RoundTrip
/-!
# Mapping as an overlay

A value is laid over what storage holds.  A record keeps its fields but for those of the
declared properties that the value has, each of which gets the property's value laid over
what it held, one property after the other.  What is optional becomes present.  The parts of
sequences and dictionaries begin as fresh storage, whatever the container held, and a scalar
becomes what the value is decoded to.

The overlay has no failures and looks at no storage.  To map a value has no other effect.

**Results.**
* `decoded?_of_storeLeaf`: a scalar that is stored is the decoded value.
* `store_eq_overlaySlot`: a valid value is laid over every slot that fits.
* `mapInto_eq_overlay`: so is a value that is mapped, over the whole storage.
-/

namespace DataContract

variable {R : Readers}

/-- The scalar of a shape that a value is decoded to. -/
def Value.decoded? (R : Readers) (v : Value) : Shape → Option Content
  | .int _ =>
      match v with
      | .number m => m.exactInteger?.map .int
      | _ => none
  | .float f => v.double?.map fun x => .float (f.store x)
  | .bool => v.bool?.map .bool
  | .text => v.string?.map .text
  | .uri => (v.string?.bind fun s => (R.uri s).toOption).map .uri
  | .optionalUri => (v.string?.bind fun s => (R.uri s).toOption).map fun u =>
      .optionalUri (some u)
  | .zonedMoment => (v.string?.bind fun s => (R.timestamp s).toOption).map .zonedMoment
  | .moment => (v.string?.bind fun s => (R.timestamp s).toOption).map fun t => .moment t.moment
  | .duration => (Schema.durationOf v).toOption.map .duration
  | _ => none

/-- Content changed inside.  What is optional becomes present: as it was before, or else as
fresh storage, with the change. -/
def Content.changed (types : Catalog) (change : Shape → Content → Content) :
    Shape → Content → Content
  | .optional inner, .optional (some c) => .optional (some (changed types change inner c))
  | .optional inner, _ => .optional (some (changed types change inner (fresh types inner)))
  | .veiled inner, c => changed types change inner c
  | shape, c => change shape c

namespace Schema

mutual

/-- A value laid over what a slot holds. -/
def overlaySlot (types : Catalog) : Schema R → Value → Shape → Content → Content
  | _, v, .any, _ => .any v
  | .array _ items _, v, shape, c =>
      match shape, v with
      | .sequence element, .array vs =>
          .sequence (vs.map fun w =>
            Content.changed types (overlaySlot types items w) element (.fresh types element))
      | _, _ => c
  | .map _ values, v, shape, c =>
      match shape, v with
      | .dictionary _ element, .object entries =>
          .dictionary (Entries.mapValues (fun w =>
            Content.changed types (overlaySlot types values w) element (.fresh types element))
            entries)
      | _, _ => c
  | .object _ properties _ _, v, shape, c =>
      match shape, v with
      | .record name, .object data =>
          .record (Entries.mapNamed (overlayField types properties data (types.find name)) c.fields)
      | _, _ => c
  | .combined _ _, _, _, c => c
  | _, v, shape, c => (v.decoded? R shape).getD c

/-- The properties that lead to a field and are present, laid over what the field holds in
the order of their names. -/
def overlayField (types : Catalog) :
    List (String × Schema R) → Entries Value → RecordType → String → Content → Content
  | [], _, _, _, c => c
  | (name, s) :: properties, data, t, field, c =>
      match data.get? name, t.field? name with
      | some v, some f =>
          if field = f.name then
            overlayField types properties data t field
              (Content.changed types (overlaySlot types s v) f.shape c)
          else overlayField types properties data t field c
      | _, _ => overlayField types properties data t field c

end

/-- A value laid over what storage holds. -/
def overlay (types : Catalog) (s : Schema R) (v : Value) (shape : Shape) (c : Content) : Content :=
  Content.changed types (overlaySlot types s v) shape c

variable {types : Catalog}

section Overlays

variable {s : Schema R} {v : Value} {shape : Shape} {c : Content}

@[simp] theorem overlaySlot_any : overlaySlot types s v .any c = .any v := by
  cases s <;> rfl

theorem overlaySlot_of_isLeaf (hLeaf : s.IsLeaf) (hShape : shape ≠ .any) :
    overlaySlot types s v shape c = (v.decoded? R shape).getD c := by
  cases s <;> first | exact hLeaf.elim | (cases shape <;> first | rfl | exact absurd rfl hShape)

/-- To change content is to change what is inside its slot. -/
theorem changed_eq_closed {change : Shape → Content → Content} (shape : Shape) :
    ∀ c, Content.changed types change shape c =
      Content.closed shape (change shape.slot (c.opened types shape)) := by
  induction shape with
  | optional inner ih =>
      intro c
      rw [Content.changed.eq_def]
      split <;> simp_all [Content.closed, Content.opened, Shape.slot]
  | veiled inner ih =>
      intro c
      rw [Content.changed, ih]
      rfl
  | _ =>
      intro c
      rw [Content.changed]
      · rfl
      all_goals simp

/-- What is left in storage once a slot is used. -/
theorem throughSlot_eq_changed {use : Shape → Content → Stored} {change : Shape → Content → Content}
    (h : (use shape.slot (c.opened types shape)).2 = change shape.slot (c.opened types shape)) :
    (Content.throughSlot types use shape c).2 = Content.changed types change shape c := by
  rw [changed_eq_closed, ← h]
  rfl

/-- A property that is absent, or leads to another field, leaves a field as it is. -/
theorem overlayField_cons_of_ne {name field : String} {properties : List (String × Schema R)}
    {data : Entries Value} {t : RecordType}
    (h : ∀ v f, data.get? name = some v → t.field? name = some f → field ≠ f.name) :
    overlayField types ((name, s) :: properties) data t field c =
      overlayField types properties data t field c := by
  rw [overlayField]
  split
  · rename_i v f hValue hField
    rw [if_neg (h v f hValue hField)]
  · rfl

/-- A field to which no property that is present leads keeps what it holds. -/
theorem overlayField_of_ne {properties : List (String × Schema R)} {data : Entries Value}
    {t : RecordType} {field : String}
    (h : ∀ property ∈ properties, ∀ v f, data.get? property.1 = some v →
      t.field? property.1 = some f → field ≠ f.name) :
    overlayField types properties data t field c = c := by
  induction properties with
  | nil => rfl
  | cons first properties ih =>
      rw [List.forall_mem_cons] at h
      rw [overlayField_cons_of_ne h.1]
      exact ih h.2

theorem overlayField_cons {name : String} {properties : List (String × Schema R)}
    {data : Entries Value} {t : RecordType} {f : Field} (hValue : data.get? name = some v)
    (hField : t.field? name = some f) :
    overlayField types ((name, s) :: properties) data t f.name c =
      overlayField types properties data t f.name (overlay types s v f.shape c) := by
  rw [overlayField, hValue, hField]
  exact if_pos rfl

end Overlays

/-- An integer that a machine format has is read off a number exactly. -/
theorem exactInteger?_of_integral? {m : Number} {f : IntFormat} {n : Int}
    (hRead : m.integral? = some n) (hHolds : f.holds n = true) :
    m.exactInteger? = some n := by
  have hRange : -0x8000000000000000 ≤ n ∧ n ≤ 0xffffffffffffffff := by
    simp only [IntFormat.holds, Bool.and_eq_true, decide_eq_true_eq] at hHolds
    cases f <;> simp only [IntFormat.least, IntFormat.greatest] at hHolds <;> omega
  obtain ⟨k, hValue, hClamp⟩ := Number.integral?_eq_some_iff.mp hRead
  -- The ends of the clamped range are far out of the range of every format.
  have hInside : -0x8000000000000000 ≤ k ∧ k ≤ 0xffffffffffffffff := by
    rw [← hClamp] at hRange
    exact (Number.clamp_mem_iff (by decide) (by decide)).mp hRange
  rw [Number.clamp_of_mem (by decide) (by decide) hInside] at hClamp
  subst hClamp
  exact Number.exactInteger?_eq_some_iff.mpr ⟨hValue, by omega⟩

theorem put_eq_ok {old d : Content} {cause : Cause} {c : Option Content}
    (h : put old cause c = (.ok (), d)) :
    c = some d := by
  cases c with
  | none => cases h
  | some c =>
      cases h
      rfl

/-- A scalar that is stored is the decoded value. -/
theorem decoded?_of_storeLeaf {s : Schema R} {v : Value} {shape : Shape} {c d : Content}
    (h : storeLeaf s v shape c = (.ok (), d)) :
    v.decoded? R shape = some d := by
  unfold storeLeaf at h
  split at h
  · rename_i hFits
    split at h
    · -- Integers are compared with the range of the format once more.
      rename_i f
      split at h
      · cases h
      · rename_i n hRead
        split at h
        · rename_i hHolds
          cases h
          cases v with
          | number m => simp [Value.decoded?, exactInteger?_of_integral? hRead hHolds]
          | _ => cases hRead
        · cases h
    · exact put_eq_ok h
    · exact put_eq_ok h
    · exact put_eq_ok h
    · exact put_eq_ok h
    · exact put_eq_ok h
    · exact put_eq_ok h
    · split at h
      · rename_i d hRead
        cases h
        simp [Value.decoded?, hRead, Except.toOption]
      · cases h
    · -- Only text is left, of all that a schema without parts fits.
      have hText : shape = .text := by
        cases s <;> cases shape <;> first | rfl | (cases hFits; done) | grind
      subst hText
      exact put_eq_ok h
  · cases h

/-- A valid scalar that fits is decoded, and stored as decoded whatever the slot holds. -/
theorem exists_decoded?_eq {s : Schema R} {v : Value} {shape : Shape} (hLeaf : s.IsLeaf)
    (hAny : shape ≠ .any) (hv : v ∈ s.valueSet) (hFit : fit types s shape = .ok ()) :
    ∃ d, v.decoded? R shape = some d ∧ ∀ c, store types s v shape c = (.ok (), d) := by
  have hFits : fitsLeaf s shape = true := by
    by_contra hNot
    rw [fit_of_isLeaf hLeaf hAny, if_neg hNot] at hFit
    cases hFit
  obtain ⟨stored, _, hStored⟩ := @exists_storeLeaf_eq R types s v shape hLeaf hv hFits
  refine ⟨stored, decoded?_of_storeLeaf (hStored (.any v)), fun c => ?_⟩
  rw [store_eq_storeLeaf hLeaf hAny, hStored]

/-- To store leaves the overlay, on every typed content of the slot. -/
def LaysOver (types : Catalog) (s : Schema R) (v : Value) (slot : Shape) : Prop :=
  ∀ c, Content.HasShape types slot c →
    (store types s v slot c).2 = overlaySlot types s v slot c

section Parts

variable {s : Schema R} {v : Value} {element : Shape} {c stored : Content}
variable (hTypes : types.Standard) (hElement : element.Standard)
include hTypes hElement

/-- Inside a part, too, the overlay is left. -/
theorem throughSlot_of_laysOver (hLays : LaysOver types s v element.slot)
    (hc : Content.HasShape types element c) :
    (Content.throughSlot types (store types s v) element c).2 = overlay types s v element c :=
  throughSlot_eq_changed (hLays _ (hc.opened hTypes hElement))

theorem eq_overlay_of_storePart (hLays : LaysOver types s v element.slot)
    (h : storePart types (store types s v) element (.fresh types element) = .ok stored) :
    stored = overlay types s v element (.fresh types element) := by
  rw [throughSlot_of_storePart h]
  exact throughSlot_of_laysOver hTypes hElement hLays (Content.hasShape_fresh hTypes hElement)

/-- Every item is laid over fresh storage, in order. -/
theorem laysOver_array {note : Annotation} {items : Schema R} {unique : Bool} {vs : List Value}
    (hFit : fit types items element.slot = .ok ())
    (hStore : ∀ w ∈ vs, StoresAs types (store types items w) element.slot (.ok ()))
    (hLays : ∀ w ∈ vs, LaysOver types items w element.slot) :
    LaysOver types (.array note items unique) (.array vs) (.sequence element) := by
  intro c _
  have hFresh := Content.hasShape_fresh hTypes hElement
  obtain ⟨stored, hRefill, hParts⟩ := @exists_refillItems_eq_ok types (store types items) element c
    vs fun w hw => (exists_storePart_eq_ok hTypes hElement (hStore w hw) hFresh).imp fun _ h => h.1
  rw [store_array_of_fit hTypes hElement hFit, hRefill, overlaySlot, Content.sequence.injEq,
    eq_comm, ← List.forall₂_eq_eq_eq, List.forall₂_map_left_iff]
  refine ((List.forall₂_and_left vs stored).mpr ⟨hLays, hParts⟩).imp ?_
  rintro w d ⟨hLay, hPart⟩
  exact (eq_overlay_of_storePart hTypes hElement hLay hPart).symm

/-- Every entry is laid over fresh storage, under its name. -/
theorem laysOver_map {note : Annotation} {values : Schema R} {entries : Entries Value}
    (hFit : fit types values element.slot = .ok ()) (hSorted : Entries.Sorted entries)
    (hStore : ∀ entry ∈ entries, StoresAs types (store types values entry.2) element.slot (.ok ()))
    (hLays : ∀ entry ∈ entries, LaysOver types values entry.2 element.slot) :
    LaysOver types (.map note values) (.object entries) (.dictionary "" element) := by
  intro c _
  have hFresh := Content.hasShape_fresh hTypes hElement
  obtain ⟨filled, hRefill, hFilled, hNames, hParts⟩ :=
    @exists_refillEntries_eq_ok types (store types values) element c entries fun entry hEntry =>
      (exists_storePart_eq_ok hTypes hElement (hStore entry hEntry) hFresh).imp fun _ h => h.1
  rw [store_map_of_fit hTypes hElement hFit, hRefill, overlaySlot, Content.dictionary.injEq]
  refine hFilled.ext (hSorted.mapValues _) fun name => ?_
  rw [Entries.get?_mapValues]
  cases hStored : Entries.get? filled name with
  | none =>
      have hAbsent : entries.get? name = none := by
        rw [Entries.get?_eq_none_iff, ← hNames]
        exact Entries.get?_eq_none_iff.mp hStored
      rw [hAbsent, Option.map_none]
  | some d =>
      obtain ⟨w, hw, hPart⟩ := hParts name d hStored
      rw [hw, Option.map_some, Option.some.injEq]
      exact eq_overlay_of_storePart hTypes hElement (hLays _ (Entries.mem_of_get? hw)) hPart

end Parts

/-- A property laid over its field, and the others over what is there then. -/
theorem mapNamed_overlayField_insert {t : RecordType} {data : Entries Value}
    {properties : List (String × Schema R)} {name : String} {s : Schema R} {w : Value} {f : Field}
    {fields : Entries Content} (hValue : data.get? name = some w)
    (hField : t.field? name = some f) (hSorted : fields.Sorted)
    (hThere : ∃ d, fields.get? f.name = some d) :
    Entries.mapNamed (overlayField types properties data t)
        (fields.insert f.name (overlay types s w f.shape (.ofField f fields))) =
      Entries.mapNamed (overlayField types ((name, s) :: properties) data t) fields := by
  -- Only the field of the property differs before the others are laid over it.
  refine ((hSorted.insert _ _).mapNamed _).ext (hSorted.mapNamed _) fun field => ?_
  rw [Entries.get?_mapNamed, Entries.get?_mapNamed, Entries.get?_insert]
  by_cases hName : field = f.name
  · obtain ⟨d, hGet⟩ := hThere
    rw [if_pos hName, hName, hGet, Option.map_some, Option.map_some,
      overlayField_cons hValue hField, Content.ofField, hGet, Option.getD_some]
  · rw [if_neg hName]
    congr 1
    funext d
    refine (overlayField_cons_of_ne fun w g _ hg => ?_).symm
    obtain rfl : f = g := Option.some.inj (hField.symm.trans hg)
    exact hName

/-- A property that is passed over is laid over no field. -/
theorem mapNamed_overlayField_cons_of_none {t : RecordType} {data : Entries Value}
    {properties : List (String × Schema R)} {name : String} {s : Schema R}
    (h : ∀ w f, data.get? name = some w → t.field? name = some f → False)
    (fields : Entries Content) :
    Entries.mapNamed (overlayField types ((name, s) :: properties) data t) fields =
      Entries.mapNamed (overlayField types properties data t) fields := by
  congr 1
  funext field c
  exact overlayField_cons_of_ne fun w f hw hf => (h w f hw hf).elim

/-- Properties are laid over their fields, one after the other. -/
theorem storeProperties_eq_overlay (hTypes : types.Standard) {t : RecordType}
    (hRecord : t.Standard types) {data : Entries Value} {properties : List (String × Schema R)}
    (hParts : ∀ property ∈ properties, ∀ w, data.get? property.1 = some w →
      ∀ slot : Shape, slot.Standard → fit types property.2 slot = .ok () →
        StoresAs types (store types property.2 w) slot (.ok ()) ∧
          LaysOver types property.2 w slot)
    (hFit : fitProperties types properties t = .ok ()) :
    ∀ {fields : Entries Content}, Content.FieldsHaveShape types t fields →
      (storeProperties types properties data t fields).2 =
        Entries.mapNamed (overlayField types properties data t) fields := by
  rw [fitProperties_eq_ok_iff] at hFit
  induction properties with
  | nil =>
      intro fields _
      simp [storeProperties, Entries.mapNamed, overlayField]
  | cons property properties ih =>
      intro fields hFields
      obtain ⟨name, s⟩ := property
      rw [List.forall_mem_cons] at hParts hFit
      have hRest := @ih hParts.2 hFit.2
      by_cases hLeads : ∃ w f, data.get? name = some w ∧ t.field? name = some f
      · obtain ⟨w, f, hValue, hField⟩ := hLeads
        have hMem := RecordType.mem_fields_of_field? hField
        have hShape := hRecord.shapes f hMem
        obtain ⟨hStore, hLays⟩ := hParts.1 w hValue f.shape.slot hShape.slot (hFit.1 f hField)
        have hTyped := hFields.hasShape_ofField hMem
        obtain ⟨hResult, hContent⟩ := throughSlot_of_storesAs hTypes hShape hStore hTyped
        rw [storeProperties_cons_of_ok hValue hField hResult,
          hRest (hFields.insert hRecord hMem hContent),
          throughSlot_of_laysOver hTypes hShape hLays hTyped]
        obtain ⟨d, hGet, _⟩ := hFields.exists_get? hMem
        exact mapNamed_overlayField_insert hValue hField hFields.sorted ⟨d, hGet⟩
      · have hNone (w) (f) (hw : data.get? name = some w) (hf : t.field? name = some f) : False :=
          hLeads ⟨w, f, hw, hf⟩
        rw [storeProperties_cons_of_none hNone, hRest hFields,
          mapNamed_overlayField_cons_of_none hNone]

/-- A valid value is laid over every slot that fits its schema. -/
theorem store_eq_overlaySlot (hTypes : types.Standard) (s : Schema R) :
    ∀ v ∈ s.valueSet, v.WellFormed → ∀ shape : Shape, shape.Standard →
      fit types s shape = .ok () → LaysOver types s v shape := by
  have hStores {part : Schema R} {w : Value} {slot : Shape} (hw : w ∈ part.valueSet)
      (hSlot : slot.Standard) (hFit : fit types part slot = .ok ()) :
      StoresAs types (store types part w) slot (.ok ()) := by
    rw [← hFit]
    exact store_eq_fit hTypes part w hw slot hSlot
  induction s using inductionOnParts with
  | leaf s hLeaf =>
      intro v hv _ shape hShape hFit c hc
      by_cases hAny : shape = .any
      · subst hAny
        rw [store_any, overlaySlot_any]
      · obtain ⟨d, hDecoded, hStore⟩ := exists_decoded?_eq hLeaf hAny hv hFit
        rw [hStore, overlaySlot_of_isLeaf hLeaf hAny, hDecoded, Option.getD_some]
  | array note items unique ih =>
      intro v hv hWellFormed shape hShape hFit
      obtain ⟨vs, rfl, hItems, _⟩ := mem_valueSet_array.mp hv
      rw [Value.wellFormed_array_iff] at hWellFormed
      cases shape with
      | any => exact fun c _ => by rw [store_any, overlaySlot_any]
      | sequence element =>
          have hElement : element.Standard := hShape
          have hPart : fit types items element.slot = .ok () := hFit
          exact laysOver_array hTypes hElement hPart
            (fun w hw => hStores (hItems w hw) hElement.slot hPart)
            fun w hw => ih w (hItems w hw) (hWellFormed w hw) element.slot hElement.slot hPart
      | _ => cases hFit
  | map note values ih =>
      intro v hv hWellFormed shape hShape hFit
      obtain ⟨entries, rfl, hEntries⟩ := mem_valueSet_map.mp hv
      obtain ⟨hSorted, hWellFormed⟩ := Value.wellFormed_object_iff.mp hWellFormed
      cases shape with
      | any => exact fun c _ => by rw [store_any, overlaySlot_any]
      | dictionary suffix element =>
          obtain ⟨rfl, hElement⟩ := hShape
          have hPart : fit types values element.slot = .ok () := hFit
          exact laysOver_map hTypes hElement hPart hSorted
            (fun entry hEntry => hStores (hEntries entry hEntry) hElement.slot hPart)
            fun entry hEntry => ih entry.2 (hEntries entry hEntry) (hWellFormed entry hEntry)
              element.slot hElement.slot hPart
      | _ => cases hFit
  | object note properties additional required ih =>
      intro v hv hWellFormed shape hShape hFit
      obtain ⟨data, rfl, hProperties, _⟩ := mem_valueSet_object.mp hv
      obtain ⟨_, hWellFormed⟩ := Value.wellFormed_object_iff.mp hWellFormed
      cases shape with
      | any => exact fun c _ => by rw [store_any, overlaySlot_any]
      | record name =>
          intro c hc
          obtain ⟨fields, rfl, hFields⟩ := Content.hasShape_record_iff.mp hc
          have hOverlay := storeProperties_eq_overlay hTypes (hTypes.find name)
            (fun property hProperty w hw slot hSlot hPart =>
              have hValid := hProperties property hProperty w hw
              ⟨hStores hValid hSlot hPart,
                ih property hProperty w hValid
                  (hWellFormed (property.1, w) (Entries.mem_of_get? hw)) slot hSlot hPart⟩)
            (fit_object_eq_ok_iff.mp hFit).2 hFields
          rw [store_object_of_fit hTypes hFields hFit, hOverlay]
          rfl
      | _ => cases hFit
  | combined combinator branches ih =>
      intro v _ _ shape _ hFit c _
      by_cases hAny : shape = .any
      · subst hAny
        rw [store_any, overlaySlot_any]
      · rw [fit_combined hAny] at hFit
        cases hFit

section Mapping

variable {s : Schema R} {v : Value} {shape : Shape} {c : Content}

/-- Only valid values are mapped, and only into storage that fits. -/
theorem validate_and_fit_of_mapInto (hTypes : types.Standard) (hShape : shape.Standard)
    (hc : Content.HasShape types shape c) (h : (s.mapInto types v shape c).1 = .ok ()) :
    s.validate v = .ok () ∧ fit types s shape.slot = .ok () := by
  cases hValid : s.validate v with
  | error report =>
      rw [mapInto_of_invalid hValid] at h
      cases h
  | ok =>
      cases hFit : fit types s shape.slot with
      | error m =>
          rw [mapInto_of_fit_eq_error hTypes hShape hc hValid hFit] at h
          cases h
      | ok => exact ⟨rfl, rfl⟩

/-- A valid value is laid over the whole of storage that fits. -/
theorem mapInto_eq_ok_overlay (hTypes : types.Standard) (hShape : shape.Standard)
    (hc : Content.HasShape types shape c) (hv : v.WellFormed) (hValid : s.validate v = .ok ())
    (hFit : fit types s shape.slot = .ok ()) :
    s.mapInto types v shape c = (.ok (), overlay types s v shape c) := by
  have hLays := store_eq_overlaySlot hTypes s v (mem_valueSet_of_validate hValid) hv shape.slot
    hShape.slot hFit
  refine Prod.ext (mapInto_eq_ok_of_fit hTypes hShape hc hValid hFit) ?_
  rw [mapInto_of_fit_eq_ok hTypes hShape hc hValid hFit]
  exact throughSlot_of_laysOver hTypes hShape hLays hc

theorem hasShape_overlay (hTypes : types.Standard) (hShape : shape.Standard)
    (hc : Content.HasShape types shape c) (hv : v.WellFormed) (hValid : s.validate v = .ok ())
    (hFit : fit types s shape.slot = .ok ()) :
    Content.HasShape types shape (overlay types s v shape c) := by
  have hMember := mem_valueSet_of_validate hValid
  have hLays := store_eq_overlaySlot hTypes s v hMember hv shape.slot hShape.slot hFit
  rw [← throughSlot_of_laysOver hTypes hShape hLays hc]
  exact (throughSlot_of_storesAs hTypes hShape (store_eq_fit hTypes s v hMember shape.slot
    hShape.slot) hc).2

end Mapping

end Schema
end DataContract
