import DataContract.Proofs.Mapping.Overlay
import DataContract.Proofs.Mapping.Veiled
/-!
# What is written through veils

Where a veil hides a part that does not fit, the look ahead is good and a valid value is put
into storage until the part is met.  The mapping fails there with a mismatch, and what was
written before remains.  But nothing wrong was written: whatever differs from before, or from
fresh storage inside a container, was decoded from the value at its place.

**Results.**
* `storesSafely`: a valid value is stored without a validation error, and all that is written
  is written from it.
* `writtenFrom_int_iff`: an integer slot is as before, or holds the exact value at its place.
* `mapInto_veiled`: veils do not matter where the schema fits, and do no harm elsewhere.
-/

namespace DataContract

variable {R : Readers}

namespace Schema

/-- Storage of the shape that held the first content holds the second one after writes from
the value, which need not be complete: parts may be unchanged.  Integers are exact, the parts
of a container are written into fresh storage, and the field of a record is written from a
declared property that leads to it. -/
inductive WrittenFrom (types : Catalog) : Schema R → Value → Shape → Content → Content → Prop
  | unchanged {s : Schema R} {v : Value} {shape : Shape} {c : Content} :
      WrittenFrom types s v shape c c
  | trans {s : Schema R} {v : Value} {shape : Shape} {c d e : Content}
      (first : WrittenFrom types s v shape c d) (rest : WrittenFrom types s v shape d e) :
      WrittenFrom types s v shape c e
  | any {s : Schema R} {v : Value} {c : Content} : WrittenFrom types s v .any c (.any v)
  | integer {s : Schema R} {m : Number} {n : Int} {f : IntFormat} {c : Content}
      (exact : m.value = n) :
      WrittenFrom types s (.number m) (.int f) c (.int n)
  | scalar {s : Schema R} {v : Value} {shape : Shape} {c d : Content} (h : ∀ f, shape ≠ .int f)
      (decoded : v.decoded? R shape = some d) :
      WrittenFrom types s v shape c d
  | present {s : Schema R} {v : Value} {inner : Shape} {c d : Content}
      (inside : WrittenFrom types s v inner c d) :
      WrittenFrom types s v (.optional inner) (.optional (some c)) (.optional (some d))
  | absent {s : Schema R} {v : Value} {inner : Shape} {d : Content}
      (inside : WrittenFrom types s v inner (.fresh types inner) d) :
      WrittenFrom types s v (.optional inner) (.optional none) (.optional (some d))
  | veiled {s : Schema R} {v : Value} {inner : Shape} {c d : Content}
      (inside : WrittenFrom types s v inner c d) :
      WrittenFrom types s v (.veiled inner) c d
  | sequence {note : Annotation} {items : Schema R} {unique : Bool} {vs : List Value}
      {element : Shape} {c : Content} {ds : List Content} (length : ds.length = vs.length)
      (parts : ∀ (i : Nat) w d, vs[i]? = some w → ds[i]? = some d →
        WrittenFrom types items w element (.fresh types element) d) :
      WrittenFrom types (.array note items unique) (.array vs) (.sequence element) c
        (.sequence ds)
  | dictionary {note : Annotation} {values : Schema R} {entries : Entries Value} {suffix : String}
      {element : Shape} {c : Content} {ds : Entries Content}
      (names : ∀ name, name ∈ ds.names ↔ name ∈ entries.names)
      (parts : ∀ name w d, entries.get? name = some w → ds.get? name = some d →
        WrittenFrom types values w element (.fresh types element) d) :
      WrittenFrom types (.map note values) (.object entries) (.dictionary suffix element) c
        (.dictionary ds)
  | field {note : Annotation} {properties : List (String × Schema R)} {additional : Bool}
      {required : List String} {data : Entries Value} {name : String} {fields : Entries Content}
      {property : String × Schema R} {v : Value} {f : Field} {d : Content}
      (declared : property ∈ properties) (present : data.get? property.1 = some v)
      (leads : (types.find name).field? property.1 = some f)
      (inside : WrittenFrom types property.2 v f.shape (.ofField f fields) d) :
      WrittenFrom types (.object note properties additional required) (.object data)
        (.record name) (.record fields) (.record (fields.insert f.name d))

variable {kinds : String → String → Prop} {types types' : Catalog}

/-- An integer slot is as before, or holds the exact value at its place. -/
theorem writtenFrom_int_iff {s : Schema R} {v : Value} {f : IntFormat} {c d : Content} :
    WrittenFrom types s v (.int f) c d ↔
      d = c ∨ ∃ (m : Number) (n : Int), v = .number m ∧ m.value = n ∧ d = .int n := by
  constructor
  · intro h
    generalize hShape : Shape.int f = shape at h
    induction h with
    | unchanged => exact .inl rfl
    | trans first rest ihFirst ihRest =>
        rcases ihRest hShape with rfl | hExact
        · exact ihFirst hShape
        · exact .inr hExact
    | integer exact => exact .inr ⟨_, _, rfl, exact, rfl⟩
    | scalar h _ => exact absurd hShape.symm (h f)
    | _ => cases hShape
  · rintro (rfl | ⟨m, n, rfl, hExact, rfl⟩)
    · exact .unchanged
    · exact .integer hExact

theorem writtenFrom_of_decoded {s : Schema R} {v : Value} {shape : Shape} {c d : Content}
    (h : v.decoded? R shape = some d) :
    WrittenFrom types s v shape c d := by
  cases shape with
  | int f =>
      cases v with
      | number m =>
          obtain ⟨n, hn, rfl⟩ := Option.map_eq_some_iff.mp h
          exact .integer (Number.exactInteger?_eq_some_iff.mp hn).1
      | _ => cases h
  | _ => exact .scalar (by simp) h

/-- What is written into a slot is written into the storage around it. -/
theorem writtenFrom_closed (hTypes : types.Standard) (hVeils : types.VeiledAs kinds types')
    {s : Schema R} {v : Value} {shape shape' : Shape} (h : shape.VeiledAs kinds shape')
    (hShape : shape.Standard) {d : Content} :
    ∀ {c : Content}, Content.HasShape types shape c →
      WrittenFrom types' s v shape'.slot (c.opened types' shape') d →
        WrittenFrom types' s v shape' c (Content.closed shape' d) := by
  induction h with
  | @scalar shape hScalar =>
      intro c _ hWritten
      cases shape <;> first | exact hScalar.elim | exact hWritten
  | @optional inner inner' inside ih =>
      intro c hc hWritten
      cases hc with
      | absent =>
          refine .absent (ih hShape ?_ hWritten)
          rw [inside.fresh_eq hVeils]
          exact Content.hasShape_fresh hTypes hShape
      | present hInside => exact .present (ih hShape hInside hWritten)
  | veiled inside ih =>
      intro c hc hWritten
      exact .veiled (ih hShape hc hWritten)
  | _ => exact fun _ hWritten => hWritten

/-- The attempt does not end in a validation error. -/
def NotInvalid {α : Type} (x : Except MapFault α) : Prop :=
  ∀ report, x ≠ .error (.invalid report)

section Failures

variable {α β : Type}

theorem notInvalid_ok (a : α) : NotInvalid (.ok a : Except MapFault α) := by
  simp [NotInvalid]

theorem notInvalid_mismatch (m : Mismatch) :
    NotInvalid (.error (.mismatch m) : Except MapFault α) := by
  simp [NotInvalid]

theorem notInvalid_error_iff {fault : MapFault} :
    NotInvalid (.error fault : Except MapFault α) ↔ ∃ m, fault = .mismatch m := by
  cases fault <;> simp [NotInvalid]

theorem NotInvalid.mapError_under {x : Except MapFault α} (h : NotInvalid x)
    (segment : Segment) :
    NotInvalid (x.mapError (MapFault.under segment)) := by
  cases x with
  | ok a => exact notInvalid_ok a
  | error fault =>
      obtain ⟨m, rfl⟩ := notInvalid_error_iff.mp h
      exact notInvalid_mismatch m

theorem NotInvalid.bind {x : Except MapFault α} {f : α → Except MapFault β} (h : NotInvalid x)
    (hf : ∀ a, NotInvalid (f a)) :
    NotInvalid (x >>= f) := by
  cases x with
  | ok a => exact hf a
  | error fault =>
      obtain ⟨m, rfl⟩ := notInvalid_error_iff.mp h
      exact notInvalid_mismatch m

theorem notInvalid_fillItems {fresh : Content} {fill : Nat → Content → Except MapFault Content}
    (h : ∀ place, NotInvalid (fill place fresh)) (count : Nat) :
    ∀ place, NotInvalid (Content.fillItems fresh fill place count) := by
  induction count with
  | zero => exact fun place => notInvalid_ok []
  | succ count ih =>
      exact fun place => (h place).bind fun item => (ih _).bind fun items => notInvalid_ok _

theorem notInvalid_fillEntries {fresh : Content}
    {fill : String → Content → Except MapFault Content} {names : List String}
    (h : ∀ name ∈ names, NotInvalid (fill name fresh)) :
    ∀ entries, NotInvalid (Content.fillEntries fresh fill names entries) := by
  induction names with
  | nil => exact fun entries => notInvalid_ok entries
  | cons name names ih =>
      rw [List.forall_mem_cons] at h
      exact fun entries => h.1.bind fun c => ih h.2 _

end Failures

/-- What came of an attempt is no validation error, has the shape and is written from the
value. -/
structure SafelyStored (types types' : Catalog) (s : Schema R) (v : Value) (shape shape' : Shape)
    (c : Content) (r : Stored) : Prop where
  valid : NotInvalid r.1
  typed : Content.HasShape types shape r.2
  written : WrittenFrom types' s v shape' c r.2

/-- The value is safely stored in every typed content of a veiled slot. -/
def StoresSafely (types types' : Catalog) (s : Schema R) (v : Value) (slot slot' : Shape) : Prop :=
  ∀ c, Content.HasShape types slot c →
    SafelyStored types types' s v slot slot' c (store types' s v slot' c)

section Storing

variable {s : Schema R} {v : Value} {shape shape' : Shape} {c d : Content} {r : Stored}

theorem safelyStored_mismatch {m : Mismatch} (hc : Content.HasShape types shape c) :
    SafelyStored types types' s v shape shape' c (.error (.mismatch m), c) where
  valid := notInvalid_mismatch m
  typed := hc
  written := .unchanged

theorem SafelyStored.after (h : SafelyStored types types' s v shape shape' d r)
    (hFirst : WrittenFrom types' s v shape' c d) :
    SafelyStored types types' s v shape shape' c r where
  valid := h.valid
  typed := h.typed
  written := .trans hFirst h.written

/-- A scalar takes a valid value or is left alone. -/
theorem storesSafely_of_isScalar (hv : v ∈ s.valueSet) (hScalar : shape.IsScalar) :
    StoresSafely types types' s v shape shape := by
  intro c hc
  by_cases hAny : shape = .any
  · subst hAny
    rw [store_any]
    exact ⟨notInvalid_ok (), .any, .any⟩
  · by_cases hLeaf : s.IsLeaf
    · rw [store_eq_storeLeaf hLeaf hAny]
      by_cases hFits : fitsLeaf s shape = true
      · obtain ⟨stored, hTyped, hStore⟩ := @exists_storeLeaf_eq R types s v shape hLeaf hv hFits
        rw [hStore]
        exact ⟨notInvalid_ok (), hTyped, writtenFrom_of_decoded (decoded?_of_storeLeaf (hStore c))⟩
      · rw [storeLeaf_of_not_fitsLeaf hFits]
        exact safelyStored_mismatch hc
    · have hMismatch : ∃ m, store types' s v shape c = (.error (.mismatch m), c) := by
        cases s <;> first
          | exact absurd trivial hLeaf
          | (cases shape <;> first
              | exact hScalar.elim
              | exact absurd rfl hAny
              | exact ⟨_, rfl⟩)
      obtain ⟨m, hm⟩ := hMismatch
      rw [hm]
      exact safelyStored_mismatch hc

variable (hTypes : types.Standard) (hVeils : types.VeiledAs kinds types')
include hTypes hVeils

/-- Safe storing passes through veils and optional layers. -/
theorem safelyStored_throughSlot (h : shape.VeiledAs kinds shape') (hShape : shape.Standard)
    (hStore : StoresSafely types types' s v shape.slot shape'.slot)
    (hc : Content.HasShape types shape c) :
    SafelyStored types types' s v shape shape' c
      (Content.throughSlot types' (store types' s v) shape' c) := by
  have hInside := hStore _ (hc.opened hTypes hShape)
  rw [← h.opened_eq hVeils] at hInside
  refine ⟨hInside.valid, ?_, writtenFrom_closed hTypes hVeils h hShape hc hInside.written⟩
  rw [Content.throughSlot]
  simp only [h.closed_eq]
  exact hInside.typed.closed hShape

/-- A part of a container is filled safely. -/
theorem storePart_safely (h : shape.VeiledAs kinds shape') (hShape : shape.Standard)
    (hStore : StoresSafely types types' s v shape.slot shape'.slot) :
    NotInvalid (storePart types' (store types' s v) shape' (.fresh types' shape')) ∧
      ∀ d, storePart types' (store types' s v) shape' (.fresh types' shape') = .ok d →
        Content.HasShape types shape d ∧
          WrittenFrom types' s v shape' (.fresh types' shape') d := by
  have hFresh := Content.hasShape_fresh hTypes hShape
  rw [← h.fresh_eq hVeils] at hFresh
  have hSafe := safelyStored_throughSlot hTypes hVeils h hShape hStore hFresh
  refine ⟨?_, fun d hd => ?_⟩
  · unfold storePart
    split
    · exact notInvalid_ok _
    · rename_i fault stored hEq
      have hValid := hSafe.valid
      rw [hEq] at hValid
      obtain ⟨m, rfl⟩ := notInvalid_error_iff.mp hValid
      exact notInvalid_mismatch m
  · rw [throughSlot_of_storePart hd]
    exact ⟨hSafe.typed, hSafe.written⟩

/-- Items are written one by one into fresh parts, or the sequence is left alone. -/
theorem storesSafely_array {note : Annotation} {items : Schema R} {unique : Bool} {vs : List Value}
    {element element' : Shape} (h : element.VeiledAs kinds element') (hElement : element.Standard)
    (hItems : ∀ w ∈ vs, StoresSafely types types' items w element.slot element'.slot) :
    StoresSafely types types' (.array note items unique) (.array vs) (.sequence element)
      (.sequence element') := by
  intro c hc
  have hPart (place : Nat) (w : Value) (hw : vs[place]? = some w) :=
    storePart_safely hTypes hVeils h hElement (hItems w (List.mem_of_getElem? hw))
  have hValid (place : Nat) : NotInvalid
      (storeItem types' (store types' items) element' vs place (.fresh types' element')) := by
    rw [storeItem]
    split
    · rename_i w hw
      exact (hPart place w hw).1.mapError_under _
    · exact notInvalid_ok _
  simp only [store, Value.items?]
  split
  · exact safelyStored_mismatch hc
  · rw [Content.refillItems]
    cases hFill : Content.fillItems (.fresh types' element')
        (storeItem types' (store types' items) element' vs) 0 vs.length with
    | error fault =>
        have hFault := notInvalid_fillItems hValid vs.length 0
        rw [hFill] at hFault
        obtain ⟨m, rfl⟩ := notInvalid_error_iff.mp hFault
        exact safelyStored_mismatch hc
    | ok ds =>
        obtain ⟨hLength, hParts⟩ := Content.getElem?_of_fillItems hFill
        have hWritten (i : Nat) (w : Value) (d : Content) (hw : vs[i]? = some w)
            (hd : ds[i]? = some d) :
            Content.HasShape types element d ∧
              WrittenFrom types' items w element' (.fresh types' element') d := by
          have hFilled := hParts i d hd
          rw [Nat.zero_add, storeItem, hw] at hFilled
          exact (hPart i w hw).2 d (mapError_eq_ok hFilled)
        refine ⟨notInvalid_ok (), .sequence fun d hd => ?_, .sequence hLength fun i w d hw hd =>
          (hWritten i w d hw hd).2⟩
        obtain ⟨i, hi, rfl⟩ := List.getElem_of_mem hd
        have hi' : i < vs.length := hLength ▸ hi
        exact (hWritten i vs[i] ds[i] (List.getElem?_eq_getElem hi')
          (List.getElem?_eq_getElem hi)).1

/-- Entries are written one by one into fresh parts, or the dictionary is left alone. -/
theorem storesSafely_map {note : Annotation} {values : Schema R} {entries : Entries Value}
    {element element' : Shape} (h : element.VeiledAs kinds element') (hElement : element.Standard)
    (hEntries : ∀ entry ∈ entries,
      StoresSafely types types' values entry.2 element.slot element'.slot) :
    StoresSafely types types' (.map note values) (.object entries) (.dictionary "" element)
      (.dictionary "" element') := by
  intro c hc
  have hPart (name : String) (w : Value) (hw : entries.get? name = some w) :=
    storePart_safely hTypes hVeils h hElement (hEntries (name, w) (Entries.mem_of_get? hw))
  have hValid (name : String) (hName : name ∈ entries.names) : NotInvalid
      (storeEntry types' (store types' values) element' entries name
        (.fresh types' element')) := by
    obtain ⟨w, hw⟩ := Entries.exists_get?_of_mem_names hName
    rw [storeEntry, hw]
    exact (hPart name w hw).1.mapError_under _
  have hNames : entries.names.map (· ++ "") = entries.names := by simp
  simp only [store, Value.entries?]
  split
  · exact safelyStored_mismatch hc
  · rw [Content.refillEntries, hNames]
    cases hFill : Content.fillEntries (.fresh types' element')
        (storeEntry types' (store types' values) element' entries) entries.names [] with
    | error fault =>
        have hFault := notInvalid_fillEntries hValid []
        rw [hFill] at hFault
        obtain ⟨m, rfl⟩ := notInvalid_error_iff.mp hFault
        exact safelyStored_mismatch hc
    | ok ds =>
        have hSorted := Content.sorted_of_fillEntries List.Pairwise.nil hFill
        have hWritten (name : String) (w : Value) (d : Content) (hw : entries.get? name = some w)
            (hd : Entries.get? ds name = some d) :
            Content.HasShape types element d ∧
              WrittenFrom types' values w element' (.fresh types' element') d := by
          rcases Content.get?_of_fillEntries hFill hd with ⟨_, hFilled⟩ | ⟨_, hNone⟩
          · rw [storeEntry, hw] at hFilled
            exact (hPart name w hw).2 d (mapError_eq_ok hFilled)
          · simp at hNone
        have hDsNames (name : String) : name ∈ Entries.names ds ↔ name ∈ entries.names := by
          simpa [Entries.names] using Content.mem_names_of_fillEntries hFill
        refine ⟨notInvalid_ok (), .dictionary hSorted fun entry hEntry => ?_,
          .dictionary hDsNames fun name w d hw hd => (hWritten name w d hw hd).2⟩
        obtain ⟨w, hw⟩ := Entries.exists_get?_of_mem_names
          ((hDsNames entry.1).mp (Entries.mem_names_of_mem hEntry))
        exact (hWritten entry.1 w entry.2 hw (hSorted.get?_of_mem hEntry)).1

/-- Properties are written one after the other, up to the first that does not fit. -/
theorem storeProperties_safely {note : Annotation} {declared properties : List (String × Schema R)}
    {additional : Bool} {required : List String} {data : Entries Value} {name name' : String}
    (hKinds : kinds name name') (hDeclared : ∀ property ∈ properties, property ∈ declared)
    (hParts : ∀ property ∈ properties, ∀ w, data.get? property.1 = some w →
      ∀ slot slot' : Shape, slot.SlotVeiledAs kinds slot' → slot.Standard →
        StoresSafely types types' property.2 w slot slot') :
    ∀ {fields : Entries Content}, Content.FieldsHaveShape types (types.find name) fields →
      SafelyStored types types' (.object note declared additional required) (.object data)
        (.record name) (.record name') (.record fields)
        ((storeProperties types' properties data (types'.find name') fields).1,
          .record (storeProperties types' properties data (types'.find name') fields).2) := by
  have hRecord := hTypes.find name
  induction properties with
  | nil =>
      intro fields hFields
      exact ⟨notInvalid_ok (), Content.hasShape_record_iff.mpr ⟨_, rfl, hFields⟩, .unchanged⟩
  | cons property properties ih =>
      intro fields hFields
      obtain ⟨property, s⟩ := property
      rw [List.forall_mem_cons] at hParts hDeclared
      have hRest {fields} := @ih hDeclared.2 hParts.2 fields
      obtain ⟨hNone, hNone'⟩ | ⟨f, f', hField, hField', hVeiled⟩ :=
        (hVeils name name' hKinds).field?_cases property
      · rw [storeProperties_cons_of_none (by simp [hNone'])]
        exact hRest hFields
      · cases hValue : data.get? property with
        | none =>
            rw [storeProperties_cons_of_none (by simp [hValue])]
            exact hRest hFields
        | some w =>
            have hMem := RecordType.mem_fields_of_field? hField
            have hShape := hRecord.shapes f hMem
            have hPart := safelyStored_throughSlot hTypes hVeils hVeiled.shape hShape
              (hParts.1 w hValue _ _ hVeiled.shape.slot hShape.slot)
              (hFields.hasShape_ofField hMem)
            rw [← hVeiled.ofField_eq] at hPart
            have hInsert := hFields.insert hRecord hMem hPart.typed
            rw [← hVeiled.name] at hInsert
            have hWritten : WrittenFrom types' (.object note declared additional required)
                (.object data) (.record name') (.record fields) _ :=
              .field hDeclared.1 hValue hField' hPart.written
            cases hResult : (Content.throughSlot types' (store types' s w) f'.shape
                (Content.ofField f' fields)).1 with
            | ok =>
                rw [storeProperties_cons_of_ok hValue hField' hResult]
                exact (hRest hInsert).after hWritten
            | error fault =>
                have hValid := hPart.valid.mapError_under (.key property)
                rw [hResult] at hValid
                rw [storeProperties_cons_of_error hValue hField' hResult]
                exact ⟨hValid, Content.hasShape_record_iff.mpr ⟨_, rfl, hInsert⟩, hWritten⟩

/-- A valid value is stored in veiled slots without a validation error, and nothing is
written that is not its own. -/
theorem storesSafely (s : Schema R) :
    ∀ v ∈ s.valueSet, ∀ slot slot' : Shape, slot.SlotVeiledAs kinds slot' → slot.Standard →
      StoresSafely types types' s v slot slot' := by
  induction s using inductionOnParts with
  | leaf s hLeaf =>
      intro v hv slot slot' h _ c hc
      cases h with
      | scalar hSlot => exact storesSafely_of_isScalar hv hSlot c hc
      | _ =>
          rw [store_eq_storeLeaf hLeaf (by simp), storeLeaf_of_not_fitsLeaf]
          · exact safelyStored_mismatch hc
          · cases s <;> simp [fitsLeaf]
  | array note items unique ih =>
      intro v hv slot slot' h hSlot c hc
      obtain ⟨vs, rfl, hItems, _⟩ := mem_valueSet_array.mp hv
      cases h with
      | scalar hSlot => exact storesSafely_of_isScalar hv hSlot c hc
      | @sequence element element' hVeiled =>
          have hElement : element.Standard := hSlot
          exact storesSafely_array hTypes hVeils hVeiled hElement
            (fun w hw => ih w (hItems w hw) _ _ hVeiled.slot hElement.slot) c hc
      | _ => exact safelyStored_mismatch hc
  | map note values ih =>
      intro v hv slot slot' h hSlot c hc
      obtain ⟨entries, rfl, hEntries⟩ := mem_valueSet_map.mp hv
      cases h with
      | scalar hSlot => exact storesSafely_of_isScalar hv hSlot c hc
      | @dictionary suffix element element' hVeiled =>
          obtain ⟨rfl, hElement⟩ := hSlot
          exact storesSafely_map hTypes hVeils hVeiled hElement
            (fun entry hEntry => ih entry.2 (hEntries entry hEntry) _ _ hVeiled.slot
              hElement.slot) c hc
      | _ => exact safelyStored_mismatch hc
  | object note properties additional required ih =>
      intro v hv slot slot' h _ c hc
      obtain ⟨data, rfl, hProperties, _⟩ := mem_valueSet_object.mp hv
      cases h with
      | scalar hSlot => exact storesSafely_of_isScalar hv hSlot c hc
      | @record name name' hKinds =>
          obtain ⟨r, _, hLook⟩ := looksThrough hTypes hVeils
            (.object note properties additional required) _ _ (.record hKinds) trivial
          obtain ⟨fields, rfl, hFields⟩ := Content.hasShape_record_iff.mp hc
          cases r with
          | error m =>
              simp only [store, hLook _ hc]
              exact safelyStored_mismatch hc
          | ok =>
              simp only [store, hLook _ hc, Value.entries?, Content.fields]
              exact storeProperties_safely hTypes hVeils hKinds (fun _ h => h)
                (fun property hProperty w hw =>
                  ih property hProperty w (hProperties property hProperty w hw)) hFields
      | _ => exact safelyStored_mismatch hc
  | combined combinator branches ih =>
      intro v hv slot slot' h _ c hc
      cases h with
      | scalar hSlot => exact storesSafely_of_isScalar hv hSlot c hc
      | _ => exact safelyStored_mismatch hc

end Storing

/-- Veils do not matter where the schema is compatible with the storage below them: results
and contents are the same as without.  Elsewhere, a valid value never fails as invalid, and
whatever the mapping leaves in storage was there before or is written from the value at its
place; integers are exact. -/
theorem mapInto_veiled {shape shape' : Shape} (hTypes : types.Standard)
    (hVeils : types.VeiledAs kinds types') (hShape : shape.Standard)
    (h : shape.VeiledAs kinds shape') (s : Schema R) :
    (Compatible types s shape → ∀ v c, Content.HasShape types shape c →
        s.mapInto types' v shape' c = s.mapInto types v shape c) ∧
      ∀ v c, Content.HasShape types shape c → s.validate v = .ok () →
        (∀ report, (s.mapInto types' v shape' c).1 ≠ .error (.invalid report)) ∧
          WrittenFrom types' s v shape' c (s.mapInto types' v shape' c).2 := by
  obtain ⟨r, hr, hLook⟩ := exists_inspected_eq hTypes hVeils h hShape
    (looksThrough hTypes hVeils s _ _ h.slot hShape.slot)
  constructor
  · intro hCompatible v c hc
    have hFit := (fit_slot_eq_ok_iff hTypes s hShape).mpr hCompatible
    cases hValid : s.validate v with
    | error report => rw [mapInto_of_invalid hValid, mapInto_of_invalid hValid]
    | ok =>
        have hSame := sameStored hTypes hVeils s v (mem_valueSet_of_validate hValid) _ _ h.slot
          hShape.slot hFit
        rw [mapInto_of_fit_eq_ok hTypes hShape hc hValid hFit,
          ← throughSlot_of_sameStored hTypes hVeils h hShape hSame hc]
        simp only [mapInto, hValid, hLook c hc, hr hFit]
  · intro v c hc hValid
    cases r with
    | error m =>
        simp only [mapInto, hValid, hLook c hc]
        exact ⟨notInvalid_mismatch m, .unchanged⟩
    | ok =>
        have hSafe := safelyStored_throughSlot hTypes hVeils h hShape
          (storesSafely hTypes hVeils s v (mem_valueSet_of_validate hValid) _ _ h.slot
            hShape.slot) hc
        simp only [mapInto, hValid, hLook c hc]
        exact ⟨hSafe.valid, hSafe.written⟩

/-- Below veils, a light parcel replaces the contents of another.  A heavy one does so too,
before its weight turns out not to fit. -/
theorem mapInto_veiled_parcel :
    (parcel 200).mapInto .veiledParcels colouredParcel (.veiled (.record "parcel"))
        (.parcel (some "books") []) =
        (parcel 200).mapInto .parcels colouredParcel (.record "parcel")
          (.parcel (some "books") []) ∧
      ((parcel 300).mapInto .veiledParcels colouredParcel (.veiled (.record "parcel"))
        (.parcel (some "books") [])).2 ≠ .parcel (some "books") [] ∧
      (∀ report, ((parcel 300).mapInto .veiledParcels colouredParcel
          (.veiled (.record "parcel")) (.parcel (some "books") [])).1 ≠
            .error (.invalid report)) ∧
      WrittenFrom .veiledParcels (parcel 300) colouredParcel (.veiled (.record "parcel"))
        (.parcel (some "books") [])
        ((parcel 300).mapInto .veiledParcels colouredParcel (.veiled (.record "parcel"))
          (.parcel (some "books") [])).2 := by
  have hShape : Shape.Standard (.record "parcel") := trivial
  have hVeil : Shape.VeiledAs (fun name name' => name = "parcel" ∧ name' = "parcel")
      (.record "parcel") (.veiled (.record "parcel")) := .veiled (.record ⟨rfl, rfl⟩)
  have hTyped : Content.HasShape .parcels (.record "parcel") (.parcel (some "books") []) :=
    Content.hasShape_parcel (by simp)
  have hLight := mapInto_veiled Catalog.standard_parcels Catalog.veiledAs_veiledParcels hShape
    hVeil (parcel 200)
  have hHeavy := mapInto_veiled Catalog.standard_parcels Catalog.veiledAs_veiledParcels hShape
    hVeil (parcel 300)
  refine ⟨?_, ?_, hHeavy.2 colouredParcel _ hTyped rfl⟩
  · exact hLight.1 (compatible_parcel_iff.mpr (by decide)) _ _ hTyped
  · intro hUnchanged
    cases hUnchanged

end Schema
end DataContract
