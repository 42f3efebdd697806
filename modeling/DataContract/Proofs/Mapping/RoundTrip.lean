import DataContract.Proofs.Mapping.Outcome
import DataContract.Proofs.Mapping.Reading
/-!
# Nothing is lost

A value that was put into storage can be read back: every integer, text and truth value,
the items of every sequence in their order, the entries of every dictionary under their
names, and the properties of every record from their fields.  What a later property writes
is in a field of its own, so that it leaves what is there from earlier ones.

**Results.**
* `get?_storeProperties`: each property is in the field that its name leads to.
* `readSlot_store`: a slot gives back the value that was stored.
* `readBack_mapInto`: storage gives back the value that was mapped into it.
-/

namespace DataContract

variable {R : Readers}

namespace Schema

variable {types : Catalog}

/-- A literal is read back from every machine integer. -/
theorem ofInt?_eq_some {f : IntFormat} {n : Int} (h : f.holds n = true) :
    ∃ inRange, Number.ofInt? n = some (.whole n inRange) := by
  have hRange : -0x8000000000000000 ≤ n ∧ n < 0x10000000000000000 := by
    simp only [IntFormat.holds, Bool.and_eq_true, decide_eq_true_eq] at h
    cases f <;> simp only [IntFormat.least, IntFormat.greatest] at h <;> omega
  exact ⟨hRange, dif_pos hRange⟩

/-- Scalars are read back with the content that they had. -/
theorem exists_readLeaf_storeLeaf {s : Schema R} {v : Value} {shape : Shape} {c : Content}
    (hLeaf : s.IsLeaf) (hAny : shape ≠ .any) (hv : v ∈ s.valueSet)
    (hFits : fitsLeaf s shape = true) (hLossless : Lossless types s shape) :
    ∃ w, readLeaf s (storeLeaf s v shape c).2 = some w ∧ w.same v = true := by
  cases s with
  | integer note minimum maximum =>
      rw [valueSet, ← integerReport_eq_nil_iff_mem, integerReport_eq_nil_iff] at hv
      obtain ⟨n, hn, hMin, hMax⟩ := hv
      cases shape with
      | int f =>
          have hHolds := holds_of_fitsInt hFits hMin hMax
          obtain ⟨hRange, hLiteral⟩ := ofInt?_eq_some hHolds
          cases v with
          | number m =>
              refine ⟨.number (.whole n hRange), ?_, Number.sameValue_whole hRange hn⟩
              simp [storeLeaf, hFits, hn, hHolds, readLeaf, hLiteral]
          | _ => cases hn
      | _ => cases hFits
  | boolean note =>
      rw [valueSet] at hv
      obtain ⟨b, rfl⟩ := hv
      cases shape with
      | bool => exact ⟨.bool b, rfl, beq_self_eq_true b⟩
      | _ => cases hFits
  | string note minLength maxLength pattern =>
      rw [valueSet] at hv
      obtain ⟨t, rfl, _⟩ := hv
      cases shape with
      | text => exact ⟨.string t, rfl, beq_self_eq_true t⟩
      | _ => cases hFits
  | enumeration note options nonempty =>
      rw [valueSet] at hv
      obtain ⟨t, rfl, _⟩ := hv
      cases shape with
      | text => exact ⟨.string t, rfl, beq_self_eq_true t⟩
      | _ => cases hFits
  | uri note =>
      rw [valueSet] at hv
      obtain ⟨t, rfl, _⟩ := hv
      cases hLossless with
      | any => exact absurd rfl hAny
      | uri => exact ⟨.string t, rfl, beq_self_eq_true t⟩
  | dateTime note =>
      rw [valueSet] at hv
      obtain ⟨t, rfl, _⟩ := hv
      cases hLossless with
      | any => exact absurd rfl hAny
      | dateTime => exact ⟨.string t, rfl, beq_self_eq_true t⟩
  | number note minimum maximum =>
      cases hLossless with
      | any => exact absurd rfl hAny
  | duration note =>
      cases hLossless with
      | any => exact absurd rfl hAny
  | array note items unique => exact hLeaf.elim
  | map note values => exact hLeaf.elim
  | object note properties additional required => exact hLeaf.elim
  | combined c branches => exact hLeaf.elim

section Fields

variable {t : RecordType} {data : Entries Value} {properties : List (String × Schema R)}

/-- A field to which no property leads is not written. -/
theorem get?_storeProperties_of_ne {name : String}
    (h : ∀ property ∈ properties, ∀ f, t.field? property.1 = some f → name ≠ f.name) :
    ∀ fields, (storeProperties types properties data t fields).2.get? name = fields.get? name := by
  induction properties with
  | nil => exact fun fields => rfl
  | cons property properties ih =>
      intro fields
      obtain ⟨declared, s⟩ := property
      rw [List.forall_mem_cons] at h
      by_cases hLeads : ∃ v f, data.get? declared = some v ∧ t.field? declared = some f
      · obtain ⟨v, f, hValue, hField⟩ := hLeads
        have hInsert := Entries.get?_insert_of_ne
          (Content.throughSlot types (store types s v) f.shape (.ofField f fields)).2
          fields (h.1 f hField)
        cases hResult :
            (Content.throughSlot types (store types s v) f.shape (.ofField f fields)).1 with
        | ok => rw [storeProperties_cons_of_ok hValue hField hResult, ih h.2, hInsert]
        | error fault =>
            rw [storeProperties_cons_of_error hValue hField hResult]
            exact hInsert
      · rw [storeProperties_cons_of_none fun v f hv hf => hLeads ⟨v, f, hv, hf⟩]
        exact ih h.2 fields

/-- Each property that is present is in the field that its name leads to, where no other
property leads. -/
theorem get?_storeProperties (hTypes : types.Standard) (hRecord : t.Standard types)
    (hParts : ∀ property ∈ properties, ∀ w, data.get? property.1 = some w →
      ∀ slot : Shape, slot.Standard →
        StoresAs types (store types property.2 w) slot (fit types property.2 slot))
    (hFit : fitProperties types properties t = .ok ()) (hSorted : Entries.Sorted properties)
    (hSeparate : SeparateFields t (Entries.names properties)) :
    ∀ {fields : Entries Content}, Content.FieldsHaveShape types t fields →
      ∀ property ∈ properties, ∀ w f, data.get? property.1 = some w →
        t.field? property.1 = some f →
          ∃ c, Content.HasShape types f.shape c ∧
            (storeProperties types properties data t fields).2.get? f.name =
              some (Content.throughSlot types (store types property.2 w) f.shape c).2 := by
  rw [fitProperties_eq_ok_iff] at hFit
  induction properties with
  | nil => simp
  | cons first properties ih =>
      intro fields hFields property hProperty w f hValue hField
      obtain ⟨declared, s⟩ := first
      rw [List.forall_mem_cons] at hParts hFit
      have hSeparate' : SeparateFields t (Entries.names properties) :=
        fun p hp q hq => hSeparate p (List.mem_cons_of_mem _ hp) q (List.mem_cons_of_mem _ hq)
      have hRest := @ih hParts.2 hFit.2 hSorted.tail hSeparate'
      by_cases hLeads : ∃ v g, data.get? declared = some v ∧ t.field? declared = some g
      · obtain ⟨v, g, hFirst, hFirstField⟩ := hLeads
        have hMem := RecordType.mem_fields_of_field? hFirstField
        have hShape := hRecord.shapes g hMem
        have hStore := hParts.1 v hFirst g.shape.slot hShape.slot
        rw [hFit.1 g hFirstField] at hStore
        obtain ⟨hResult, hContent⟩ := throughSlot_of_storesAs hTypes hShape hStore
          (hFields.hasShape_ofField hMem)
        rw [storeProperties_cons_of_ok hFirst hFirstField hResult]
        rcases List.mem_cons.mp hProperty with rfl | hProperty
        · obtain rfl : v = w := Option.some.inj (hFirst.symm.trans hValue)
          obtain rfl : g = f := Option.some.inj (hFirstField.symm.trans hField)
          refine ⟨_, hFields.hasShape_ofField hMem, ?_⟩
          rw [get?_storeProperties_of_ne, Entries.get?_insert_self]
          -- A later property that led to the same field would have the same name.
          intro later hLater h hLaterField hName
          obtain rfl : g = h := RecordType.field?_inj hFirstField hLaterField hName
          have hNames : declared = later.1 := hSeparate _ List.mem_cons_self _
            (List.mem_cons_of_mem _ (Entries.mem_names_of_mem hLater)) g hFirstField hLaterField
          exact hSorted.head_not_mem (hNames ▸ Entries.mem_names_of_mem hLater)
        · exact hRest (hFields.insert hRecord hMem hContent) property hProperty w f hValue hField
      · rw [storeProperties_cons_of_none fun v g hv hg => hLeads ⟨v, g, hv, hg⟩]
        rcases List.mem_cons.mp hProperty with rfl | hProperty
        · exact absurd ⟨w, f, hValue, hField⟩ hLeads
        · exact hRest hFields property hProperty w f hValue hField

end Fields

/-- The slot gives back a value with the content of the one that was stored in it. -/
def ReadsBack (types : Catalog) (s : Schema R) (v : Value) (slot : Shape) : Prop :=
  ∀ c, Content.HasShape types slot c →
    ∃ w, readSlot types s slot v (store types s v slot c).2 = some w ∧
      w.same (kept types s slot v) = true

section Parts

variable {s : Schema R} {v : Value} {element : Shape} {c stored : Content}

/-- Any value at all gives back itself. -/
theorem readsBack_any (hv : v.WellFormed) : ReadsBack types s v .any := by
  intro c _
  rw [store_any, readSlot_any, kept_any]
  exact ⟨v, rfl, v.same_self hv⟩

theorem throughSlot_of_storePart {store : Shape → Content → Stored}
    (h : storePart types store element c = .ok stored) :
    stored = (Content.throughSlot types store element c).2 := by
  unfold storePart at h
  split at h
  · rename_i c' hThrough
    rw [hThrough]
    exact (Except.ok.inj h).symm
  · cases h

theorem exists_readPart (hTypes : types.Standard) (hElement : element.Standard)
    (hReads : ReadsBack types s v element.slot) (hc : Content.HasShape types element c) :
    ∃ w, readPart (readSlot types s) element v
        (Content.throughSlot types (store types s v) element c).2 = some w ∧
      w.same (kept types s element.slot v) = true := by
  rw [readPart_throughSlot]
  exact hReads _ (hc.opened hTypes hElement)

end Parts

section Values

variable (hTypes : types.Standard)
include hTypes

/-- A sequence gives back as many items as were stored, in their order. -/
theorem readsBack_array {note : Annotation} {items : Schema R} {unique : Bool} {vs : List Value}
    {element : Shape} (hElement : element.Standard)
    (hFit : fit types items element.slot = .ok ())
    (hStore : ∀ w ∈ vs, StoresAs types (store types items w) element.slot (.ok ()))
    (hReads : ∀ w ∈ vs, ReadsBack types items w element.slot) :
    ReadsBack types (.array note items unique) (.array vs) (.sequence element) := by
  intro c _
  have hFresh := Content.hasShape_fresh hTypes hElement
  obtain ⟨stored, hRefill, hParts⟩ := @exists_refillItems_eq_ok types (store types items) element c
    vs fun w hw => (exists_storePart_eq_ok hTypes hElement (hStore w hw) hFresh).imp fun _ h => h.1
  have hItems : List.Forall₂ (fun w d => ∃ x,
      readPart (readSlot types items) element w d = some x ∧
        x.same (kept types items element.slot w) = true) vs stored := by
    refine ((List.forall₂_and_left vs stored).mpr ⟨hReads, hParts⟩).imp ?_
    rintro w d ⟨hRead, hPart⟩
    rw [throughSlot_of_storePart hPart]
    exact exists_readPart hTypes hElement hRead hFresh
  obtain ⟨ws, hRead, hSame⟩ := exists_readItems hItems
  rw [store_array_of_fit hTypes hElement hFit, hRefill]
  exact ⟨.array ws, by simp [readSlot, Value.items?, hRead], hSame⟩

/-- A dictionary gives back every entry under its name. -/
theorem readsBack_map {note : Annotation} {values : Schema R} {entries : Entries Value}
    {element : Shape} (hElement : element.Standard)
    (hFit : fit types values element.slot = .ok ()) (hSorted : Entries.Sorted entries)
    (hStore : ∀ entry ∈ entries, StoresAs types (store types values entry.2) element.slot (.ok ()))
    (hReads : ∀ entry ∈ entries, ReadsBack types values entry.2 element.slot) :
    ReadsBack types (.map note values) (.object entries) (.dictionary "" element) := by
  intro c _
  have hFresh := Content.hasShape_fresh hTypes hElement
  obtain ⟨filled, hRefill, hFilled, hNames, hParts⟩ :=
    @exists_refillEntries_eq_ok types (store types values) element c entries fun entry hEntry =>
      (exists_storePart_eq_ok hTypes hElement (hStore entry hEntry) hFresh).imp fun _ h => h.1
  have hEntries : ∀ entry ∈ filled, ∃ x,
      readPart (readSlot types values) element ((entries.get? entry.1).getD .null) entry.2 =
          some x ∧
        ∃ w, entries.get? entry.1 = some w ∧
          x.same (kept types values element.slot w) = true := by
    intro entry hEntry
    obtain ⟨w, hw, hPart⟩ := hParts entry.1 entry.2 (hFilled.get?_of_mem hEntry)
    obtain ⟨x, hRead, hSame⟩ := exists_readPart hTypes hElement
      (hReads (entry.1, w) (Entries.mem_of_get? hw)) hFresh
    refine ⟨x, ?_, w, hw, hSame⟩
    rw [hw, Option.getD_some, throughSlot_of_storePart hPart]
    exact hRead
  obtain ⟨ws, hRead, hReadNames, hws⟩ := exists_readEntries (P := fun name x =>
    ∃ w, entries.get? name = some w ∧ x.same (kept types values element.slot w) = true) hEntries
  rw [store_map_of_fit hTypes hElement hFit, hRefill]
  refine ⟨.object ws, by simp [readSlot, Value.entries?, hRead], ?_⟩
  -- The dictionary is in order, whatever the order in which its entries were put in.
  refine Value.same_object_of_sorted (hFilled.of_names_eq hReadNames) (hSorted.mapValues _)
    (fun name => ?_) fun name x y hx hy => ?_
  · rw [hReadNames, Entries.names_mapValues]
    exact hNames name
  · obtain ⟨w, hw, hSame⟩ := hws (name, x) (Entries.mem_of_get? hx)
    rw [Entries.get?_mapValues, hw, Option.map_some] at hy
    obtain rfl := Option.some.inj hy
    exact hSame

/-- A record gives back the properties that were stored, each from a field of its own. -/
theorem readsBack_object {note : Annotation} {properties : List (String × Schema R)}
    {additional : Bool} {required : List String} {data : Entries Value} {name : String}
    (hFit : fit types (.object note properties additional required) (.record name) = .ok ())
    (hProperties : Entries.Sorted properties) (hData : Entries.Sorted data)
    (hSeparate : SeparateFields (types.find name) (Entries.names properties))
    (hStore : ∀ property ∈ properties, ∀ w, data.get? property.1 = some w →
      ∀ slot : Shape, slot.Standard →
        StoresAs types (store types property.2 w) slot (fit types property.2 slot))
    (hReads : ∀ property ∈ properties, ∀ w, data.get? property.1 = some w →
      ∀ f, (types.find name).field? property.1 = some f →
        ReadsBack types property.2 w f.shape.slot) :
    ReadsBack types (.object note properties additional required) (.object data)
      (.record name) := by
  intro c hc
  have hRecord := hTypes.find name
  obtain ⟨fields, rfl, hFields⟩ := Content.hasShape_record_iff.mp hc
  obtain ⟨hBound, hFitProperties⟩ := fit_object_eq_ok_iff.mp hFit
  have hWritten := get?_storeProperties hTypes hRecord hStore hFitProperties hProperties
    hSeparate hFields
  have hKept : ∀ property ∈ properties, ∀ w, data.get? property.1 = some w → ∃ f c x,
      (types.find name).field? property.1 = some f ∧
        Entries.get? (storeProperties types properties data (types.find name) fields).2 f.name =
          some c ∧
        readPart (readSlot types property.2) f.shape w c = some x ∧
        ∃ y, (Entries.chooseValues (keptProperty types properties (types.find name)) data).get?
            property.1 = some y ∧ x.same y = true := by
    intro property hProperty w hw
    have hName := unboundName?_eq_none_iff.mp hBound property.1
      (List.mem_append_left _ (Entries.mem_names_of_mem hProperty))
    obtain ⟨f, hField⟩ := hRecord.exists_field? hName
    obtain ⟨d, hd, hGet⟩ := hWritten property hProperty w f hw hField
    obtain ⟨x, hRead, hSame⟩ := exists_readPart hTypes
      (hRecord.shapes f (RecordType.mem_fields_of_field? hField))
      (hReads property hProperty w hw f hField) hd
    refine ⟨f, _, x, hField, hGet, hRead, _, ?_, hSame⟩
    rw [hData.get?_chooseValues, hw, Option.bind_some]
    exact keptProperty_of_mem hField hProperties hProperty
  obtain ⟨ws, hRead, hNames, hws⟩ := exists_readProperties (P := fun property x =>
    ∃ y, (Entries.chooseValues (keptProperty types properties (types.find name)) data).get?
      property = some y ∧ x.same y = true) hKept
  rw [store_object_of_fit hTypes hFields hFit]
  refine ⟨.object ws, by simp [readSlot, Value.entries?, hRead], ?_⟩
  have hSorted : Entries.Sorted ws := by
    rw [Entries.sorted_iff_pairwise_names, hNames]
    exact hProperties.pairwise_names.filter _
  refine Value.same_object_of_sorted hSorted (hData.chooseValues _)
    (fun property => ?_) fun property x y hx hy => ?_
  · -- Names are read when they are declared and present, and so they are kept.
    rw [hNames, List.mem_filter, Entries.has_eq_true_iff, ← not_iff_not (b := property ∈ _),
      ← Entries.get?_eq_none_iff, hData.get?_chooseValues]
    cases hValue : data.get? property with
    | none => simp [← Entries.get?_eq_none_iff, hValue]
    | some w =>
        have hMem : property ∈ data.names := Entries.mem_names_of_mem (Entries.mem_of_get? hValue)
        rw [Option.bind_some, keptProperty_eq_none_iff]
        simp [hMem]
  · obtain ⟨y', hy', hSame⟩ := hws (property, x) (Entries.mem_of_get? hx)
    obtain rfl : y' = y := Option.some.inj (hy'.symm.trans hy)
    exact hSame

/-- A slot that keeps all there is to a value gives back the value that was stored. -/
theorem readSlot_store (s : Schema R) :
    ∀ v ∈ s.valueSet, s.WellFormed → v.WellFormed → ∀ shape : Shape, shape.Standard →
      Lossless types s shape → fit types s shape = .ok () → ReadsBack types s v shape := by
  induction s using inductionOnParts with
  | leaf s hLeaf =>
      intro v hv _ hWellFormed shape _ hLossless hFit
      by_cases hAny : shape = .any
      · subst hAny
        exact readsBack_any hWellFormed
      · intro c _
        rw [fit_of_isLeaf hLeaf hAny] at hFit
        have hFits : fitsLeaf s shape = true := by
          by_contra hFits
          rw [if_neg hFits] at hFit
          cases hFit
        rw [store_eq_storeLeaf hLeaf hAny, readSlot_eq_readLeaf hLeaf hAny, kept_of_isLeaf hLeaf]
        exact exists_readLeaf_storeLeaf hLeaf hAny hv hFits hLossless
  | array note items unique ih =>
      intro v hv hSchema hWellFormed shape hShape hLossless hFit
      obtain ⟨vs, rfl, hItems, _⟩ := mem_valueSet_array.mp hv
      cases shape with
      | any => exact readsBack_any hWellFormed
      | sequence element =>
          have hElement : element.Standard := hShape
          rw [fit] at hFit
          have hKeeps : Lossless types items element.slot := by
            cases hLossless with
            | array parts => exact parts element rfl
          have hWellFormed := Value.itemsWellFormed_iff.mp hWellFormed
          refine readsBack_array hTypes hElement hFit (fun w hw => ?_) fun w hw => ?_
          · rw [← hFit]
            exact store_eq_fit hTypes items w (hItems w hw) element.slot hElement.slot
          · exact ih w (hItems w hw) hSchema (hWellFormed w hw) element.slot hElement.slot
              hKeeps hFit
      | _ => cases hFit
  | map note values ih =>
      intro v hv hSchema hWellFormed shape hShape hLossless hFit
      obtain ⟨entries, rfl, hEntries⟩ := mem_valueSet_map.mp hv
      cases shape with
      | any => exact readsBack_any hWellFormed
      | dictionary suffix element =>
          obtain ⟨rfl, hElement⟩ := hShape
          rw [fit] at hFit
          have hKeeps : Lossless types values element.slot := by
            cases hLossless with
            | map parts => exact parts "" element rfl
          obtain ⟨hSorted, hWellFormed⟩ := hWellFormed
          have hWellFormed := Value.entriesWellFormed_iff.mp hWellFormed
          refine readsBack_map hTypes hElement hFit hSorted (fun entry hEntry => ?_)
            fun entry hEntry => ?_
          · rw [← hFit]
            exact store_eq_fit hTypes values entry.2 (hEntries entry hEntry) element.slot
              hElement.slot
          · exact ih entry.2 (hEntries entry hEntry) hSchema (hWellFormed entry hEntry)
              element.slot hElement.slot hKeeps hFit
      | _ => cases hFit
  | object note properties additional required ih =>
      intro v hv hSchema hWellFormed shape hShape hLossless hFit
      obtain ⟨data, rfl, hValid, _⟩ := mem_valueSet_object.mp hv
      cases shape with
      | any => exact readsBack_any hWellFormed
      | record name =>
          obtain ⟨hSorted, hSchemas⟩ := hSchema
          obtain ⟨hData, hWellFormed⟩ := hWellFormed
          have hSchemas := propertiesWellFormed_iff.mp hSchemas
          have hWellFormed := Value.entriesWellFormed_iff.mp hWellFormed
          have hFits := fitProperties_eq_ok_iff.mp (fit_object_eq_ok_iff.mp hFit).2
          cases hLossless with
          | object separate parts =>
              refine readsBack_object hTypes hFit hSorted hData (separate name rfl)
                (fun property hProperty w hw slot hSlot => ?_)
                fun property hProperty w hw f hField => ?_
              · exact store_eq_fit hTypes property.2 w (hValid property hProperty w hw) slot hSlot
              · have hStandard := (hTypes.find name).shapes f
                  (RecordType.mem_fields_of_field? hField)
                exact ih property hProperty w (hValid property hProperty w hw)
                  (hSchemas property hProperty)
                  (hWellFormed (property.1, w) (Entries.mem_of_get? hw)) f.shape.slot
                  hStandard.slot (parts name rfl property hProperty f hField)
                  (hFits property hProperty f hField)
      | _ => cases hFit
  | combined combinator branches ih =>
      intro v hv _ hWellFormed shape _ hLossless _
      -- Only storage for any value at all keeps the values of a combination.
      cases hLossless with
      | any => exact readsBack_any hWellFormed

end Values

/-- Storage that keeps all there is to a value gives back what was mapped into it: a value
of the same content, but for the undeclared names of objects in records. -/
theorem readBack_mapInto {s : Schema R} {v : Value} {shape : Shape} {c : Content}
    (hTypes : types.Standard) (hShape : shape.Standard) (hc : Content.HasShape types shape c)
    (hs : s.WellFormed) (hv : v.WellFormed) (hLossless : Lossless types s shape.slot)
    (h : (s.mapInto types v shape c).1 = .ok ()) :
    ∃ w, readBack types s v shape (s.mapInto types v shape c).2 = some w ∧
      w.same (kept types s shape.slot v) = true := by
  cases hValid : s.validate v with
  | error report =>
      rw [mapInto_of_invalid hValid] at h
      cases h
  | ok =>
      cases hFit : fit types s shape.slot with
      | error m =>
          rw [mapInto_of_fit_eq_error hTypes hShape hc hValid hFit] at h
          cases h
      | ok =>
          rw [mapInto_of_fit_eq_ok hTypes hShape hc hValid hFit]
          exact exists_readPart hTypes hShape
            (readSlot_store hTypes s v (mem_valueSet_of_validate hValid) hs hv shape.slot
              hShape.slot hLossless hFit) hc

theorem wellFormed_colouredParcel : colouredParcel.WellFormed := by
  have hOuter : List.Pairwise (· < ·) ["contents", "weight"] := by decide
  have hInner : List.Pairwise (· < ·) ["colour", "label"] := by decide
  exact ⟨Entries.sorted_iff_pairwise_names.mpr hOuter,
    ⟨⟨Entries.sorted_iff_pairwise_names.mpr hInner, trivial, trivial, trivial⟩, trivial⟩,
    trivial, trivial⟩

theorem wellFormed_parcel {heaviest : Int64} : (parcel heaviest).WellFormed := by
  have hOuter : List.Pairwise (· < ·) ["contents", "weight"] := by decide
  exact ⟨Entries.sorted_iff_pairwise_names.mpr hOuter,
    ⟨List.pairwise_singleton _ _, trivial, trivial⟩, trivial, trivial⟩

theorem lossless_parcel {heaviest : Int64} :
    Lossless .parcels (parcel heaviest) (.record "parcel") := by
  have hInner : Lossless .parcels
      (.object {} [("label", .string {} 0 0 none)] true [] : Schema .standard)
      (.record "parcel") := by
    refine .object ?_ ?_
    · rintro name ⟨⟩
      exact separateFields_of_nodup (by decide)
    · rintro name ⟨⟩
      rw [List.forall_mem_singleton]
      exact fun f hField => .string
  have hSeparate : SeparateFields (Catalog.parcels.find "parcel") ["contents", "weight"] :=
    separateFields_of_nodup (by decide)
  refine .object ?_ ?_
  · rintro name ⟨⟩
    exact hSeparate
  · rintro name ⟨⟩
    have hContents : (Catalog.parcels.find "parcel").field? "contents" =
        some ⟨"contents", .sequence (.record "parcel"), .sequence []⟩ := rfl
    simp only [List.forall_mem_cons, hContents]
    refine ⟨?_, fun f hField => .integer, by simp⟩
    rintro f ⟨⟩
    refine .array ?_
    rintro element ⟨⟩
    exact hInner

/-- A parcel comes back from storage that held another, without the colour. -/
theorem readBack_parcel :
    ∃ w, readBack .parcels (parcel 200) colouredParcel (.optional (.record "parcel"))
        ((parcel 200).mapInto .parcels colouredParcel (.optional (.record "parcel"))
          (.optional (some (.parcel (some "books") [])))).2 = some w ∧
      w.same (.object [("contents", .array [.object [("label", .string "tea")]]),
        ("weight", .ofInt64 4)]) = true :=
  readBack_mapInto Catalog.standard_parcels trivial (.present (Content.hasShape_parcel (by simp)))
    wellFormed_parcel wellFormed_colouredParcel lossless_parcel rfl

end Schema
end DataContract
