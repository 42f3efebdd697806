import DataContract.Mapping.Storing
import DataContract.Proofs.Mapping.Compatibility
import DataContract.Proofs.Schema.Acceptance
import DataContract.Proofs.Target.Filling
/-!
# The outcome of mapping

A valid value goes into every slot that fits its schema, whatever the slot holds, and
into no other slot: to store it has the verdict of schema and shape, and what is there
afterwards has the shape again.  Mapping validates, looks at the storage and stores, so
that it can fail only before anything is written.

**Results.**
* `store_eq_fit`: to store a valid value has the verdict of the shape and keeps the shape.
* `mapInto_outcome`: invalid values fail with their report; valid values go into compatible
  storage, and fail with one mismatch for each schema and shape elsewhere.
* `mapInto_error_unchanged`: storage is as it was after every failure.
* `store_agrees_with_check`: to store a valid value without a look at the slot first comes to
  what the look would have said, down to the names in a mismatch.
-/

namespace DataContract

variable {R : Readers}

namespace Schema

variable {types : Catalog}

section Leaves

variable {s : Schema R} {v : Value} {shape : Shape} {c : Content}

@[simp] theorem store_any : store types s v .any c = (.ok (), .any v) := by
  cases s <;> rfl

theorem store_eq_storeLeaf (hLeaf : s.IsLeaf) (hShape : shape ≠ .any) :
    store types s v shape c = storeLeaf s v shape c := by
  cases s <;> first | exact hLeaf.elim | (cases shape <;> first | rfl | exact absurd rfl hShape)

theorem store_combined {combinator : Combinator} {branches : List (Schema R)}
    (hShape : shape ≠ .any) :
    store types (.combined combinator branches) v shape c =
      ofLook (check types (.combined combinator branches) shape c) := by
  cases shape <;> first | rfl | exact absurd rfl hShape

/-- An accepted integer is one that every format with the bounds has. -/
theorem holds_of_fitsInt {minimum maximum : Int64} {f : IntFormat} {n : Int}
    (hFits : fitsInt minimum maximum f = true) (hMin : minimum.toInt ≤ n)
    (hMax : n ≤ maximum.toInt) :
    f.holds n = true := by
  simp only [fitsInt, Bool.and_eq_true, decide_eq_true_eq] at hFits
  simp only [IntFormat.holds, Bool.and_eq_true, decide_eq_true_eq]
  omega

theorem storeLeaf_of_not_fitsLeaf (hFits : ¬ fitsLeaf s shape = true) :
    storeLeaf s v shape c = (.error (.mismatch (mismatch s shape)), c) := by
  unfold storeLeaf
  exact if_neg hFits

/-- A valid value without parts replaces whatever a fitting slot holds. -/
theorem exists_storeLeaf_eq (hLeaf : s.IsLeaf) (hv : v ∈ s.valueSet)
    (hFits : fitsLeaf s shape = true) :
    ∃ stored, Content.HasShape types shape stored ∧
      ∀ c, storeLeaf s v shape c = (.ok (), stored) := by
  cases s with
  | integer note minimum maximum =>
      rw [valueSet, ← integerReport_eq_nil_iff_mem, integerReport_eq_nil_iff] at hv
      obtain ⟨n, hn, hMin, hMax⟩ := hv
      cases shape with
      | int f =>
          have hHolds := holds_of_fitsInt hFits hMin hMax
          exact ⟨.int n, .int hHolds, fun c => by simp [storeLeaf, hFits, hn, hHolds]⟩
      | _ => simp [fitsLeaf] at hFits
  | number note minimum maximum =>
      rw [valueSet] at hv
      obtain ⟨m, rfl, _⟩ := hv
      cases shape with
      | float f =>
          exact ⟨.float (f.store m.toDouble), .float,
            fun c => by simp [storeLeaf, hFits, put, Value.double?]⟩
      | _ => simp [fitsLeaf] at hFits
  | boolean note =>
      rw [valueSet] at hv
      obtain ⟨b, rfl⟩ := hv
      cases shape with
      | bool => exact ⟨.bool b, .bool, fun c => rfl⟩
      | _ => simp [fitsLeaf] at hFits
  | string note minLength maxLength pattern =>
      rw [valueSet] at hv
      obtain ⟨t, rfl, _⟩ := hv
      cases shape with
      | text => exact ⟨.text t, .text, fun c => rfl⟩
      | _ => simp [fitsLeaf] at hFits
  | enumeration note options nonempty =>
      rw [valueSet] at hv
      obtain ⟨t, rfl, _⟩ := hv
      cases shape with
      | text => exact ⟨.text t, .text, fun c => rfl⟩
      | _ => simp [fitsLeaf] at hFits
  | uri note =>
      rw [valueSet] at hv
      obtain ⟨t, rfl, u, hu⟩ := hv
      cases shape with
      | uri =>
          exact ⟨.uri u, .uri,
            fun c => by simp [storeLeaf, fitsLeaf, put, Value.string?, hu, Except.toOption]⟩
      | optionalUri =>
          exact ⟨.optionalUri (some u), .optionalUri,
            fun c => by simp [storeLeaf, fitsLeaf, put, Value.string?, hu, Except.toOption]⟩
      | text => exact ⟨.text t, .text, fun c => rfl⟩
      | _ => simp [fitsLeaf] at hFits
  | dateTime note =>
      rw [valueSet] at hv
      obtain ⟨t, rfl, z, hz⟩ := hv
      cases shape with
      | zonedMoment =>
          exact ⟨.zonedMoment z, .zonedMoment,
            fun c => by simp [storeLeaf, fitsLeaf, put, Value.string?, hz, Except.toOption]⟩
      | moment =>
          exact ⟨.moment z.moment, .moment,
            fun c => by simp [storeLeaf, fitsLeaf, put, Value.string?, hz, Except.toOption]⟩
      | text => exact ⟨.text t, .text, fun c => rfl⟩
      | _ => simp [fitsLeaf] at hFits
  | duration note =>
      rw [valueSet, ← exists_durationOf_iff] at hv
      obtain ⟨d, hd⟩ := hv
      cases shape with
      | duration => exact ⟨.duration d, .duration, fun c => by simp [storeLeaf, fitsLeaf, hd]⟩
      | _ => simp [fitsLeaf] at hFits
  | array note items unique => exact hLeaf.elim
  | map note values => exact hLeaf.elim
  | object note properties additional required => exact hLeaf.elim
  | combined c branches => exact hLeaf.elim

end Leaves

/-- To store has the verdict `r` on every typed content of a slot, and keeps its shape. -/
def StoresAs (types : Catalog) (store : Shape → Content → Stored) (slot : Shape)
    (r : Except Mismatch Unit) : Prop :=
  ∀ c, Content.HasShape types slot c →
    (store slot c).1 = r.mapError .mismatch ∧ Content.HasShape types slot (store slot c).2

section Parts

variable {store : Shape → Content → Stored} {element : Shape} {c : Content}

theorem throughSlot_of_storesAs (hTypes : types.Standard) {r : Except Mismatch Unit}
    (hElement : element.Standard) (hStore : StoresAs types store element.slot r)
    (hc : Content.HasShape types element c) :
    (Content.throughSlot types store element c).1 = r.mapError .mismatch ∧
      Content.HasShape types element (Content.throughSlot types store element c).2 := by
  obtain ⟨hResult, hShape⟩ := hStore _ (hc.opened hTypes hElement)
  exact ⟨hResult, hShape.closed hElement⟩

theorem exists_storePart_eq_ok (hTypes : types.Standard) (hElement : element.Standard)
    (hStore : StoresAs types store element.slot (.ok ()))
    (hc : Content.HasShape types element c) :
    ∃ stored, storePart types store element c = .ok stored ∧
      Content.HasShape types element stored := by
  obtain ⟨hResult, hShape⟩ := throughSlot_of_storesAs hTypes hElement hStore hc
  refine ⟨(Content.throughSlot types store element c).2, ?_, hShape⟩
  unfold storePart
  split
  · rename_i stored hEq
    rw [hEq]
  · rename_i fault stored hEq
    rw [hEq] at hResult
    cases hResult

theorem storePart_eq_error (hTypes : types.Standard) (hElement : element.Standard)
    {m : Mismatch} (hStore : StoresAs types store element.slot (.error m))
    (hc : Content.HasShape types element c) :
    storePart types store element c = .error (.mismatch m) := by
  obtain ⟨hResult, _⟩ := throughSlot_of_storesAs hTypes hElement hStore hc
  unfold storePart
  split
  · rename_i stored hEq
    rw [hEq] at hResult
    cases hResult
  · rename_i fault stored hEq
    rw [hEq] at hResult
    obtain rfl : fault = .mismatch m := Except.error.inj hResult
    rfl

end Parts

section Containers

variable {store : Value → Shape → Content → Stored} {element : Shape} {c : Content}

theorem mapError_eq_ok {ε ε' α : Type} {x : Except ε α} {f : ε → ε'} {a : α}
    (h : x.mapError f = .ok a) :
    x = .ok a := by
  cases x with
  | ok b =>
      cases h
      rfl
  | error e => cases h

/-- Each part of a filled sequence comes from the item at its place. -/
theorem forall₂_of_fillItems {vs : List Value} {items : List Content}
    (h : Content.fillItems (.fresh types element) (storeItem types store element vs) 0 vs.length =
      .ok items) :
    List.Forall₂ (fun w stored =>
      storePart types (store w) element (.fresh types element) = .ok stored) vs items := by
  obtain ⟨hLength, hParts⟩ := Content.getElem?_of_fillItems h
  rw [List.forall₂_iff_get]
  refine ⟨hLength.symm, fun i hi hi' => ?_⟩
  have hPart := hParts i items[i] (List.getElem?_eq_getElem hi')
  rw [Nat.zero_add, storeItem, List.getElem?_eq_getElem hi] at hPart
  exact mapError_eq_ok hPart

/-- Each part of a filled dictionary comes from the entry of its name. -/
theorem parts_of_fillEntries {entries : Entries Value} {filled : Entries Content}
    (h : Content.fillEntries (.fresh types element) (storeEntry types store element entries)
      entries.names [] = .ok filled) :
    filled.Sorted ∧ (∀ name, name ∈ filled.names ↔ name ∈ entries.names) ∧
      ∀ name stored, filled.get? name = some stored →
        ∃ w, entries.get? name = some w ∧
          storePart types (store w) element (.fresh types element) = .ok stored := by
  refine ⟨Content.sorted_of_fillEntries List.Pairwise.nil h, fun name => ?_,
    fun name stored hGet => ?_⟩
  · simpa [Entries.names] using Content.mem_names_of_fillEntries h
  · rcases Content.get?_of_fillEntries h hGet with ⟨hName, hStored⟩ | ⟨_, hNone⟩
    · obtain ⟨w, hw⟩ := Entries.exists_get?_of_mem_names hName
      rw [storeEntry, hw] at hStored
      exact ⟨w, hw, mapError_eq_ok hStored⟩
    · simp at hNone

/-- Items whose parts can all be filled replace the sequence, one part for each. -/
theorem exists_refillItems_eq_ok {vs : List Value}
    (hItem : ∀ w ∈ vs, ∃ stored,
      storePart types (store w) element (.fresh types element) = .ok stored) :
    ∃ items,
      Content.refillItems types element vs.length (storeItem types store element vs) c =
          (.ok (), .sequence items) ∧
        List.Forall₂ (fun w stored =>
          storePart types (store w) element (.fresh types element) = .ok stored) vs items := by
  have hFill (i) (hi : i < vs.length) : ∃ stored,
      storeItem types store element vs (0 + i) (.fresh types element) = .ok stored := by
    obtain ⟨stored, hStored⟩ := hItem _ (List.getElem_mem hi)
    rw [Nat.zero_add, storeItem, List.getElem?_eq_getElem hi]
    exact ⟨stored, by simp [hStored, Except.mapError]⟩
  obtain ⟨items, hItems⟩ := Content.exists_fillItems hFill
  exact ⟨items, by rw [Content.refillItems, hItems]; rfl, forall₂_of_fillItems hItems⟩

/-- Entries whose parts can all be filled replace the dictionary, one part for each name. -/
theorem exists_refillEntries_eq_ok {entries : Entries Value}
    (hEntry : ∀ entry ∈ entries, ∃ stored,
      storePart types (store entry.2) element (.fresh types element) = .ok stored) :
    ∃ filled,
      Content.refillEntries types "" element entries.names
          (storeEntry types store element entries) c = (.ok (), .dictionary filled) ∧
        Entries.Sorted filled ∧ (∀ name, name ∈ Entries.names filled ↔ name ∈ entries.names) ∧
        ∀ name stored, Entries.get? filled name = some stored →
          ∃ w, entries.get? name = some w ∧
            storePart types (store w) element (.fresh types element) = .ok stored := by
  have hFill (name) (hName : name ∈ entries.names) : ∃ stored,
      storeEntry types store element entries name (.fresh types element) = .ok stored := by
    obtain ⟨w, hw⟩ := Entries.exists_get?_of_mem_names hName
    obtain ⟨stored, hStored⟩ := hEntry (name, w) (Entries.mem_of_get? hw)
    exact ⟨stored, by simp [storeEntry, hw, hStored, Except.mapError]⟩
  obtain ⟨filled, hFilled⟩ := @Content.exists_fillEntries _ _ _ entries.names [] hFill
  have hNames : entries.names.map (· ++ "") = entries.names := by simp
  exact ⟨filled, by rw [Content.refillEntries, hNames, hFilled]; rfl, parts_of_fillEntries hFilled⟩

/-- A sequence is replaced when its items fit, and left alone at the first that does not. -/
theorem refillItems_storeItem (hTypes : types.Standard) (hElement : element.Standard)
    {vs : List Value} {r : Except Mismatch Unit}
    (hStore : ∀ w ∈ vs, StoresAs types (store w) element.slot r)
    (hSome : vs = [] → r = .ok ()) (hc : Content.HasShape types (.sequence element) c) :
    (Content.refillItems types element vs.length (storeItem types store element vs) c).1 =
        r.mapError .mismatch ∧
      Content.HasShape types (.sequence element)
        (Content.refillItems types element vs.length (storeItem types store element vs) c).2 := by
  have hFresh := Content.hasShape_fresh hTypes hElement
  cases r with
  | ok =>
      have hItem (w) (hw : w ∈ vs) :=
        exists_storePart_eq_ok hTypes hElement (hStore w hw) hFresh
      obtain ⟨items, hRefill, hParts⟩ := @exists_refillItems_eq_ok types store element c vs
        fun w hw => (hItem w hw).imp fun _ h => h.1
      rw [hRefill]
      refine ⟨rfl, .sequence fun d hd => ?_⟩
      obtain ⟨i, hi, rfl⟩ := List.getElem_of_mem hd
      have hi' : i < vs.length := hParts.length_eq ▸ hi
      obtain ⟨stored, hStored, hShape⟩ := hItem vs[i] (List.getElem_mem hi')
      obtain rfl : stored = items[i] :=
        Except.ok.inj (hStored.symm.trans (hParts.get hi' hi))
      exact hShape
  | error m =>
      cases vs with
      | nil => cases hSome rfl
      | cons w vs =>
          have hFirst := storePart_eq_error hTypes hElement
            (hStore w List.mem_cons_self) hFresh
          have hFill : storeItem types store element (w :: vs) 0 (.fresh types element) =
              .error (.mismatch m) := by
            simp [storeItem, hFirst, Except.mapError, MapFault.under]
          rw [Content.refillItems, List.length_cons, Content.fillItems_eq_error hFill]
          exact ⟨rfl, hc⟩

/-- A dictionary is replaced when its entries fit, and left alone at the first that does
not. -/
theorem refillEntries_storeEntry (hTypes : types.Standard) (hElement : element.Standard)
    {entries : Entries Value} {r : Except Mismatch Unit}
    (hStore : ∀ entry ∈ entries, StoresAs types (store entry.2) element.slot r)
    (hSome : entries = [] → r = .ok ()) (hc : Content.HasShape types (.dictionary "" element) c) :
    (Content.refillEntries types "" element entries.names
          (storeEntry types store element entries) c).1 = r.mapError .mismatch ∧
      Content.HasShape types (.dictionary "" element)
        (Content.refillEntries types "" element entries.names
          (storeEntry types store element entries) c).2 := by
  have hFresh := Content.hasShape_fresh hTypes hElement
  cases r with
  | ok =>
      have hEntry (entry) (hMem : entry ∈ entries) :=
        exists_storePart_eq_ok hTypes hElement (hStore entry hMem) hFresh
      obtain ⟨filled, hRefill, hSorted, _, hParts⟩ :=
        @exists_refillEntries_eq_ok types store element c entries
          fun entry hMem => (hEntry entry hMem).imp fun _ h => h.1
      rw [hRefill]
      refine ⟨rfl, .dictionary hSorted fun entry hMem => ?_⟩
      obtain ⟨w, hw, hPart⟩ := hParts entry.1 entry.2 (hSorted.get?_of_mem hMem)
      obtain ⟨stored, hStored, hShape⟩ := hEntry (entry.1, w) (Entries.mem_of_get? hw)
      obtain rfl : stored = entry.2 := Except.ok.inj (hStored.symm.trans hPart)
      exact hShape
  | error m =>
      cases entries with
      | nil => cases hSome rfl
      | cons entry entries =>
          obtain ⟨name, w⟩ := entry
          have hFirst := storePart_eq_error hTypes hElement
            (hStore (name, w) List.mem_cons_self) hFresh
          have hFill : storeEntry types store element ((name, w) :: entries) name
              (.fresh types element) = .error (.mismatch m) := by
            simp [storeEntry, Entries.get?_cons, hFirst, Except.mapError, MapFault.under]
          have hNames : Entries.names ((name, w) :: entries) = name :: Entries.names entries := rfl
          rw [Content.refillEntries, hNames, List.map_cons, String.append_empty,
            Content.fillEntries_eq_error hFill]
          exact ⟨rfl, hc⟩

end Containers

section Steps

variable {t : RecordType} {data : Entries Value} {properties : List (String × Schema R)}
variable {fields : Entries Content} {name : String} {s : Schema R}

/-- A property that is absent, or leads to no field, is passed over. -/
theorem storeProperties_cons_of_none
    (h : ∀ v f, data.get? name = some v → t.field? name = some f → False) :
    storeProperties types ((name, s) :: properties) data t fields =
      storeProperties types properties data t fields := by
  rw [storeProperties]
  split
  · rename_i v f hValue hField
    exact (h v f hValue hField).elim
  · rfl

variable {v : Value} {f : Field} (hValue : data.get? name = some v)
  (hField : t.field? name = some f)
include hValue hField

/-- A property that is written leaves its field to the ones after it. -/
theorem storeProperties_cons_of_ok
    (h : (Content.throughSlot types (store types s v) f.shape (.ofField f fields)).1 = .ok ()) :
    storeProperties types ((name, s) :: properties) data t fields =
      storeProperties types properties data t (fields.insert f.name
        (Content.throughSlot types (store types s v) f.shape (.ofField f fields)).2) := by
  rw [storeProperties, hValue, hField]
  simp only [h]

/-- The first property that fails is the last one that is looked at. -/
theorem storeProperties_cons_of_error {fault : MapFault}
    (h : (Content.throughSlot types (store types s v) f.shape (.ofField f fields)).1 =
      .error fault) :
    storeProperties types ((name, s) :: properties) data t fields =
      (.error (fault.under (.key name)), fields.insert f.name
        (Content.throughSlot types (store types s v) f.shape (.ofField f fields)).2) := by
  rw [storeProperties, hValue, hField]
  simp only [h]

end Steps

/-- Properties that fit their fields are all written, and every field keeps its shape. -/
theorem storeProperties_eq_ok (hTypes : types.Standard) {t : RecordType}
    (hRecord : t.Standard types) {data : Entries Value} {properties : List (String × Schema R)}
    (hParts : ∀ property ∈ properties, ∀ w, data.get? property.1 = some w →
      ∀ slot : Shape, slot.Standard →
        StoresAs types (store types property.2 w) slot (fit types property.2 slot))
    (hFit : fitProperties types properties t = .ok ()) :
    ∀ {fields : Entries Content}, Content.FieldsHaveShape types t fields →
      (storeProperties types properties data t fields).1 = .ok () ∧
        Content.FieldsHaveShape types t (storeProperties types properties data t fields).2 := by
  rw [fitProperties_eq_ok_iff] at hFit
  -- Every write keeps the invariant on the fields, so that the next one finds it.
  induction properties with
  | nil => exact fun hFields => ⟨rfl, hFields⟩
  | cons property properties ih =>
      intro fields hFields
      obtain ⟨name, s⟩ := property
      rw [List.forall_mem_cons] at hParts hFit
      have hRest := @ih hParts.2 hFit.2
      by_cases hLeads : ∃ w f, data.get? name = some w ∧ t.field? name = some f
      · obtain ⟨w, f, hValue, hField⟩ := hLeads
        have hMem := RecordType.mem_fields_of_field? hField
        have hShape := hRecord.shapes f hMem
        have hStore := hParts.1 w hValue f.shape.slot hShape.slot
        rw [hFit.1 f hField] at hStore
        obtain ⟨hResult, hContent⟩ := throughSlot_of_storesAs hTypes hShape hStore
          (hFields.hasShape_ofField hMem)
        rw [storeProperties_cons_of_ok hValue hField hResult]
        exact hRest (hFields.insert hRecord hMem hContent)
      · rw [storeProperties_cons_of_none fun w f hw hf => hLeads ⟨w, f, hw, hf⟩]
        exact hRest hFields

/-- Items are put into a sequence when a part of it is good. -/
theorem store_array_of_probe {note : Annotation} {items : Schema R} {unique : Bool}
    {vs : List Value} {element : Shape} {c : Content}
    (hProbe : probe types (check types items) element = .ok ()) :
    store types (.array note items unique) (.array vs) (.sequence element) c =
      Content.refillItems types element vs.length
        (storeItem types (store types items) element vs) c := by
  simp only [store, Value.items?, hProbe]
  cases vs <;> rfl

/-- Values are put into a dictionary when a part of it is good. -/
theorem store_map_of_probe {note : Annotation} {values : Schema R} {entries : Entries Value}
    {suffix : String} {element : Shape} {c : Content}
    (hProbe : probe types (check types values) element = .ok ()) :
    store types (.map note values) (.object entries) (.dictionary suffix element) c =
      Content.refillEntries types suffix element entries.names
        (storeEntry types (store types values) element entries) c := by
  simp only [store, Value.entries?, hProbe]
  cases entries <;> rfl

section Values

variable (hTypes : types.Standard)
include hTypes

/-- Items that fit are put into a sequence, whose check has nothing to add. -/
theorem store_array_of_fit {note : Annotation} {items : Schema R} {unique : Bool}
    {vs : List Value} {element : Shape} {c : Content} (hElement : element.Standard)
    (hFit : fit types items element.slot = .ok ()) :
    store types (.array note items unique) (.array vs) (.sequence element) c =
      Content.refillItems types element vs.length
        (storeItem types (store types items) element vs) c := by
  have hProbe := probe_eq hTypes hElement
    fun c hc => check_eq hTypes items element.slot c hElement.slot hc
  exact store_array_of_probe (hProbe.trans hFit)

/-- Values that fit are put into a dictionary, whose check has nothing to add. -/
theorem store_map_of_fit {note : Annotation} {values : Schema R} {entries : Entries Value}
    {suffix : String} {element : Shape} {c : Content} (hElement : element.Standard)
    (hFit : fit types values element.slot = .ok ()) :
    store types (.map note values) (.object entries) (.dictionary suffix element) c =
      Content.refillEntries types suffix element entries.names
        (storeEntry types (store types values) element entries) c := by
  have hProbe := probe_eq hTypes hElement
    fun c hc => check_eq hTypes values element.slot c hElement.slot hc
  exact store_map_of_probe (hProbe.trans hFit)

/-- Properties that fit are put into a record, whose check has nothing to add. -/
theorem store_object_of_fit {note : Annotation} {properties : List (String × Schema R)}
    {additional : Bool} {required : List String} {data : Entries Value} {name : String}
    {fields : Entries Content} (hFields : Content.FieldsHaveShape types (types.find name) fields)
    (hFit : fit types (.object note properties additional required) (.record name) = .ok ()) :
    store types (.object note properties additional required) (.object data) (.record name)
        (.record fields) =
      ((storeProperties types properties data (types.find name) fields).1,
        .record (storeProperties types properties data (types.find name) fields).2) := by
  have hCheck := check_eq hTypes (.object note properties additional required)
    (.record name) (.record fields) trivial (Content.hasShape_record_iff.mpr ⟨_, rfl, hFields⟩)
  simp only [store, hCheck, hFit, Value.entries?, Content.fields]

/-- To store a valid value has the verdict of the shape and keeps the shape. -/
theorem store_eq_fit (s : Schema R) :
    ∀ v ∈ s.valueSet, ∀ shape : Shape, shape.Standard →
      StoresAs types (store types s v) shape (fit types s shape) := by
  induction s using inductionOnParts with
  | leaf s hLeaf =>
      intro v hv shape hShape c hc
      by_cases hAny : shape = .any
      · subst hAny
        simp [Except.mapError, Content.HasShape.any]
      · rw [store_eq_storeLeaf hLeaf hAny, fit_of_isLeaf hLeaf hAny]
        by_cases hFits : fitsLeaf s shape = true
        · obtain ⟨stored, hStored, hStore⟩ := exists_storeLeaf_eq hLeaf hv hFits
          rw [hStore, if_pos hFits]
          exact ⟨rfl, hStored⟩
        · rw [storeLeaf_of_not_fitsLeaf hFits, if_neg hFits]
          exact ⟨rfl, hc⟩
  | array note items unique ih =>
      intro v hv shape hShape c hc
      obtain ⟨vs, rfl, hItems, _⟩ := mem_valueSet_array.mp hv
      cases shape with
      | any => simp [Except.mapError, Content.HasShape.any]
      | sequence element =>
          have hElement : element.Standard := hShape
          have hStore (w) (hw : w ∈ vs) := ih w (hItems w hw) element.slot hElement.slot
          cases hFit : fit types items element.slot with
          | ok =>
              rw [store_array_of_fit hTypes hElement hFit, fit, hFit]
              rw [hFit] at hStore
              exact refillItems_storeItem hTypes hElement hStore (fun _ => rfl) hc
          | error m =>
              have hProbe := probe_eq hTypes hElement
                fun c hc => check_eq hTypes items element.slot c hElement.slot hc
              simp only [store, fit, Value.items?, hProbe, hFit]
              rw [hFit] at hStore
              -- An empty sequence fails by its check, any other by its first item.
              cases vs with
              | nil => exact ⟨rfl, hc⟩
              | cons w vs => exact refillItems_storeItem hTypes hElement hStore (by simp) hc
      | _ => exact ⟨rfl, hc⟩
  | map note values ih =>
      intro v hv shape hShape c hc
      obtain ⟨entries, rfl, hEntries⟩ := mem_valueSet_map.mp hv
      cases shape with
      | any => simp [Except.mapError, Content.HasShape.any]
      | dictionary suffix element =>
          obtain ⟨rfl, hElement⟩ := hShape
          have hStore (entry) (hEntry : entry ∈ entries) :=
            ih entry.2 (hEntries entry hEntry) element.slot hElement.slot
          cases hFit : fit types values element.slot with
          | ok =>
              rw [store_map_of_fit hTypes hElement hFit, fit, hFit]
              rw [hFit] at hStore
              exact refillEntries_storeEntry hTypes hElement hStore (fun _ => rfl) hc
          | error m =>
              have hProbe := probe_eq hTypes hElement
                fun c hc => check_eq hTypes values element.slot c hElement.slot hc
              simp only [store, fit, Value.entries?, hProbe, hFit]
              rw [hFit] at hStore
              cases entries with
              | nil => exact ⟨rfl, hc⟩
              | cons entry entries =>
                  exact refillEntries_storeEntry hTypes hElement hStore (by simp) hc
      | _ => exact ⟨rfl, hc⟩
  | object note properties additional required ih =>
      intro v hv shape hShape c hc
      obtain ⟨data, rfl, hProperties, _⟩ := mem_valueSet_object.mp hv
      cases shape with
      | any => simp [Except.mapError, Content.HasShape.any]
      | record name =>
          cases hFit : fit types (.object note properties additional required)
              (.record name) with
          | error m =>
              have hCheck := check_eq hTypes (.object note properties additional required)
                (.record name) c hShape hc
              simp only [store, hCheck, hFit]
              exact ⟨rfl, hc⟩
          | ok =>
              obtain ⟨fields, rfl, hFields⟩ := Content.hasShape_record_iff.mp hc
              have hParts (property) (hProperty : property ∈ properties) (w)
                  (hw : Entries.get? data property.1 = some w) (slot : Shape)
                  (hSlot : slot.Standard) :=
                ih property hProperty w (hProperties property hProperty w hw) slot hSlot
              obtain ⟨hResult, hStored⟩ := storeProperties_eq_ok hTypes (hTypes.find name)
                hParts (fit_object_eq_ok_iff.mp hFit).2 hFields
              rw [store_object_of_fit hTypes hFields hFit]
              exact ⟨hResult, Content.hasShape_record_iff.mpr ⟨_, rfl, hStored⟩⟩
      | _ => exact ⟨rfl, hc⟩
  | combined combinator branches ih =>
      intro v hv shape hShape c hc
      by_cases hAny : shape = .any
      · subst hAny
        simp [Except.mapError, Content.HasShape.any]
      · rw [store_combined hAny, check_combined_eq, fit_combined hAny]
        exact ⟨rfl, hc⟩

end Values

section Mapping

variable {s : Schema R} {v : Value} {shape : Shape} {c : Content}

theorem mapInto_of_invalid {report : Report} (h : s.validate v = .error report) :
    s.mapInto types v shape c = (.error (.invalid report), c) := by
  simp only [mapInto, h]

/-- Storage of a shape that does not fit is left alone. -/
theorem mapInto_of_fit_eq_error (hTypes : types.Standard) (hShape : shape.Standard)
    (hc : Content.HasShape types shape c) (hv : s.validate v = .ok ()) {m : Mismatch}
    (hFit : fit types s shape.slot = .error m) :
    s.mapInto types v shape c = (.error (.mismatch m), c) := by
  simp only [mapInto, hv, inspected_check_eq hTypes s hShape hc, hFit]

theorem mapInto_of_fit_eq_ok (hTypes : types.Standard) (hShape : shape.Standard)
    (hc : Content.HasShape types shape c) (hv : s.validate v = .ok ())
    (hFit : fit types s shape.slot = .ok ()) :
    s.mapInto types v shape c = Content.throughSlot types (store types s v) shape c := by
  simp only [mapInto, hv, inspected_check_eq hTypes s hShape hc, hFit]

/-- A valid value goes into storage that fits. -/
theorem mapInto_eq_ok_of_fit (hTypes : types.Standard) (hShape : shape.Standard)
    (hc : Content.HasShape types shape c) (hv : s.validate v = .ok ())
    (hFit : fit types s shape.slot = .ok ()) :
    (s.mapInto types v shape c).1 = .ok () := by
  have hStore := store_eq_fit hTypes s v (mem_valueSet_of_validate hv) shape.slot hShape.slot
  rw [hFit] at hStore
  rw [mapInto_of_fit_eq_ok hTypes hShape hc hv hFit]
  exact (throughSlot_of_storesAs hTypes hShape hStore hc).1

/-- An invalid value fails with its report.  A valid one goes into storage of a compatible
shape; where the shape is not compatible it fails with a mismatch, which is the same for
all valid values and whatever the storage holds. -/
theorem mapInto_outcome (s : Schema R) (hTypes : types.Standard) (hShape : shape.Standard) :
    (∀ v c, Content.HasShape types shape c → ∀ report,
        (s.mapInto types v shape c).1 = .error (.invalid report) ↔
          s.validate v = .error report) ∧
      (Compatible types s shape →
        ∀ v c, Content.HasShape types shape c → s.validate v = .ok () →
          (s.mapInto types v shape c).1 = .ok ()) ∧
      (¬ Compatible types s shape →
        ∃ m, ∀ v c, Content.HasShape types shape c → s.validate v = .ok () →
          (s.mapInto types v shape c).1 = .error (.mismatch m)) := by
  rw [← fit_slot_eq_ok_iff hTypes s hShape]
  refine ⟨fun v c hc report => ⟨fun h => ?_, fun h => ?_⟩, fun hFit v c hc hv => ?_,
    fun hFit => ?_⟩
  · cases hv : s.validate v with
    | error other =>
        rw [mapInto_of_invalid hv] at h
        cases h
        rfl
    | ok =>
        -- A valid value fails with a mismatch or not at all.
        cases hFit : fit types s shape.slot with
        | ok =>
            rw [mapInto_eq_ok_of_fit hTypes hShape hc hv hFit] at h
            cases h
        | error m =>
            rw [mapInto_of_fit_eq_error hTypes hShape hc hv hFit] at h
            cases h
  · rw [mapInto_of_invalid h]
  · exact mapInto_eq_ok_of_fit hTypes hShape hc hv hFit
  · cases hVerdict : fit types s shape.slot with
    | ok => exact absurd hVerdict hFit
    | error m =>
        refine ⟨m, fun v c hc hv => ?_⟩
        rw [mapInto_of_fit_eq_error hTypes hShape hc hv hVerdict]

/-- A parcel that holds a parcel with a label, and with a colour that no record takes. -/
def colouredParcel : Value :=
  .object
    [("contents", .array [.object [("colour", .string "red"), ("label", .string "tea")]]),
      ("weight", .ofInt64 4)]

/-- A parcel goes into storage where there was none, unless heavier ones are allowed. -/
theorem mapInto_parcel :
    Catalog.parcels.Standard ∧ Shape.Standard (.optional (.record "parcel")) ∧
      ((parcel 200).mapInto .parcels colouredParcel (.optional (.record "parcel"))
        (.optional none)).1 = .ok () ∧
      ∃ m, ((parcel 300).mapInto .parcels colouredParcel (.optional (.record "parcel"))
        (.optional none)).1 = .error (.mismatch m) := by
  have hShape : Shape.Standard (.optional (.record "parcel")) := trivial
  have hLight := mapInto_outcome (parcel 200) Catalog.standard_parcels hShape
  have hHeavy := mapInto_outcome (parcel 300) Catalog.standard_parcels hShape
  refine ⟨Catalog.standard_parcels, hShape, ?_, ?_⟩
  · exact hLight.2.1 (.optional (compatible_parcel_iff.mpr (by decide))) _ _ .absent rfl
  · have hIncompatible : ¬ Compatible .parcels (parcel 300) (.optional (.record "parcel")) := by
      rw [← compatible_slot_iff hShape]
      exact fun h => absurd (compatible_parcel_iff.mp h) (by decide)
    obtain ⟨m, hm⟩ := hHeavy.2.2 hIncompatible
    exact ⟨m, hm _ _ .absent rfl⟩

/-- The double `2 ^ 128`, which is beyond the range of single precision. -/
def twoPow128 : FiniteDouble := ⟨false, 2 ^ 52, 76, by decide⟩

/-- From `2 ^ 128` down to zero there is no number.  Storage for single precision is taken to
hold them all, although their minimum is beyond its range. -/
theorem mapInto_downward :
    Catalog.Standard [] ∧ Shape.Standard (.sequence (.float .single)) ∧
      Content.HasShape [] (.sequence (.float .single)) (.sequence []) ∧
      ¬ FloatFormat.single.Contains (.finite twoPow128) ∧
      ((.array {} (.number {} (.finite twoPow128) (.finite (.zero false))) false :
          Schema .standard).mapInto [] (.array []) (.sequence (.float .single))
        (.sequence [])).1 = .ok () := by
  have hTypes : Catalog.Standard [] := List.forall_mem_nil _
  have hShape : Shape.Standard (.sequence (.float .single)) := trivial
  have hContent : Content.HasShape [] (.sequence (.float .single)) (.sequence []) :=
    .sequence (List.forall_mem_nil _)
  have hLeast : FloatFormat.single.least.AtMost (.finite twoPow128) :=
    Double.le_iff_atMost.mp (by decide +kernel)
  have hGreatest : (Double.finite (.zero false)).AtMost FloatFormat.single.greatest :=
    Double.le_iff_atMost.mp (by decide +kernel)
  have hAbove : ¬ (Double.finite twoPow128).AtMost FloatFormat.single.greatest := by
    rw [← Double.le_iff_atMost]
    decide +kernel
  refine ⟨hTypes, hShape, hContent, fun h => hAbove h.2, ?_⟩
  refine mapInto_eq_ok_of_fit hTypes hShape hContent rfl ?_
  exact (fit_slot_eq_ok_iff hTypes _ hShape).mpr
    (.array (compatible_number_iff.mpr ⟨hLeast, hGreatest⟩))

/-- Whatever the failure, storage is afterwards as it was before. -/
theorem mapInto_error_unchanged (hTypes : types.Standard) (hShape : shape.Standard)
    (hc : Content.HasShape types shape c) {fault : MapFault}
    (h : (s.mapInto types v shape c).1 = .error fault) :
    (s.mapInto types v shape c).2 = c := by
  cases hv : s.validate v with
  | error report => rw [mapInto_of_invalid hv]
  | ok =>
      cases hFit : fit types s shape.slot with
      | error m => rw [mapInto_of_fit_eq_error hTypes hShape hc hv hFit]
      | ok =>
          rw [mapInto_eq_ok_of_fit hTypes hShape hc hv hFit] at h
          cases h

/-- A parcel with its contents stays when the weight of another has no room. -/
theorem mapInto_parcel_unchanged :
    ((parcel 300).mapInto .parcels colouredParcel (.record "parcel")
        (.parcel (some "books") [.parcel none []])).1 =
        .error (.mismatch (mismatch (.integer {} 0 300 : Schema .standard) (.int .uint8))) ∧
      ((parcel 300).mapInto .parcels colouredParcel (.record "parcel")
        (.parcel (some "books") [.parcel none []])).2 =
        .parcel (some "books") [.parcel none []] := by
  have hFault : ((parcel 300).mapInto .parcels colouredParcel (.record "parcel")
      (.parcel (some "books") [.parcel none []])).1 =
      .error (.mismatch (mismatch (.integer {} 0 300 : Schema .standard) (.int .uint8))) := rfl
  have hInner : ∀ c ∈ [Content.parcel none []],
      Content.HasShape .parcels (.record "parcel") c := by
    rw [List.forall_mem_singleton]
    exact Content.hasShape_parcel (by simp)
  exact ⟨hFault,
    mapInto_error_unchanged Catalog.standard_parcels trivial (Content.hasShape_parcel hInner)
      hFault⟩

end Mapping

section Agreement

variable {s : Schema R} {v : Value} {shape : Shape} {c : Content}

/-- What comes of storing a valid value is what a look at the same slot says. -/
theorem store_eq_check (hTypes : types.Standard) (hShape : shape.Standard)
    (hc : Content.HasShape types shape c) (hv : s.validate v = .ok ()) :
    (store types s v shape.slot (c.opened types shape)).1 =
      (check types s shape.slot (c.opened types shape)).1.mapError .mismatch := by
  have hOpened := hc.opened hTypes hShape
  have hStore := store_eq_fit hTypes s v (mem_valueSet_of_validate hv) shape.slot hShape.slot
  rw [check_eq hTypes s shape.slot _ hShape.slot hOpened]
  exact (hStore _ hOpened).1

/-- To store a valid value without a look at the slot first succeeds exactly where the look
does, and fails with the very mismatch that the look fails with. -/
theorem store_agrees_with_check (hTypes : types.Standard) (hShape : shape.Standard)
    (hc : Content.HasShape types shape c) (hv : s.validate v = .ok ()) :
    ((store types s v shape.slot (c.opened types shape)).1 = .ok () ↔
        (check types s shape.slot (c.opened types shape)).1 = .ok ()) ∧
      ∀ fault,
        (store types s v shape.slot (c.opened types shape)).1 = .error fault ↔
          ∃ m, fault = .mismatch m ∧
            (check types s shape.slot (c.opened types shape)).1 = .error m := by
  rw [store_eq_check hTypes hShape hc hv]
  cases (check types s shape.slot (c.opened types shape)).1 with
  | ok => simp [Except.mapError]
  | error m =>
      refine ⟨by simp [Except.mapError], fun fault => ?_⟩
      simp [Except.mapError, eq_comm]

/-- A sequence of parcels takes no heavy parcels.  An empty array is told so by a look at a
scratch parcel, and another by its first item; the look at the slot says the same. -/
theorem store_parcels_agrees :
    (check .parcels (.array {} (parcel 300) false) (.sequence (.record "parcel"))
        (.sequence [.parcel (some "books") []])).1 =
        .error (mismatch (.integer {} 0 300 : Schema .standard) (.int .uint8)) ∧
      (store .parcels (.array {} (parcel 300) false) (.array []) (.sequence (.record "parcel"))
        (.sequence [.parcel (some "books") []])).1 =
        .error (.mismatch (mismatch (.integer {} 0 300 : Schema .standard) (.int .uint8))) ∧
      (store .parcels (.array {} (parcel 300) false) (.array [colouredParcel])
        (.sequence (.record "parcel")) (.sequence [.parcel (some "books") []])).1 =
        .error (.mismatch (mismatch (.integer {} 0 300 : Schema .standard) (.int .uint8))) := by
  have hShape : Shape.Standard (.sequence (.record "parcel")) := trivial
  have hc : Content.HasShape .parcels (.sequence (.record "parcel"))
      (.sequence [.parcel (some "books") []]) := by
    refine .sequence ?_
    rw [List.forall_mem_singleton]
    exact Content.hasShape_parcel (by simp)
  have hLook : (check .parcels (.array {} (parcel 300) false)
      (Shape.slot (.sequence (.record "parcel")))
      (Content.opened .parcels (.sequence (.record "parcel"))
        (.sequence [.parcel (some "books") []]))).1 =
      .error (mismatch (.integer {} 0 300 : Schema .standard) (.int .uint8)) := rfl
  have hEmpty : (Schema.array {} (parcel 300) false).validate (.array []) = .ok () := rfl
  have hFull : (Schema.array {} (parcel 300) false).validate (.array [colouredParcel]) =
      .ok () := rfl
  refine ⟨hLook, ?_, ?_⟩
  · exact ((store_agrees_with_check Catalog.standard_parcels hShape hc hEmpty).2 _).mpr
      ⟨_, rfl, hLook⟩
  · exact ((store_agrees_with_check Catalog.standard_parcels hShape hc hFull).2 _).mpr
      ⟨_, rfl, hLook⟩

end Agreement

end Schema
end DataContract
