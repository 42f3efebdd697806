import DataContract.Proofs.Mapping.Success
/-!
# Where a mapping stops

A look that passes does not promise success where storage is veiled.  The mapping may then
stop on the way: in a record at the first of the properties, in the order of names, that
cannot be stored.  Up to it the record is what it is after a success, and behind it what it
was before.  The field of the property itself is in the same case: it is a record that is
half written again, or storage that nothing was written to, such as a container one of whose
new parts failed.

**Results.**
* `exists_stopsAt`: a record that is half written, property by property.
* `halts`: what every failure leaves, down to the slot where it came from.
* `mapInto_stopsAt`: a mapping into a record that fails is a prefix of one that succeeds.
-/

namespace DataContract

variable {R : Readers}

namespace Schema

variable {kinds : String → String → Prop} {types types' : Catalog}

/-- What comes of a property that is put into the slot of its field. -/
def storeField (types : Catalog) (s : Schema R) (v : Value) (f : Field) (fields : Entries Content) :
    Stored :=
  store types s v f.shape.slot ((Content.ofField f fields).opened types f.shape)

/-- The properties of a value were put into the fields of a record in the order of names, up
to the property `p`, whose slot is left with the content `d`.  Properties before it lie over
their fields, and all other fields are as before. -/
structure StopsAt (types : Catalog) (properties : List (String × Schema R)) (data : Entries Value)
    (t : RecordType) (m : Mismatch) (fields left : Entries Content) (p : String × Schema R)
    (v : Value) (f : Field) (d : Content) : Prop where
  declared : p ∈ properties
  present : data.get? p.1 = some v
  leads : t.field? p.1 = some f
  fails : storeField types p.2 v f fields = (.error (.mismatch m), d)
  partly : left.get? f.name = some (Content.closed f.shape d)
  before : ∀ q ∈ properties, q.1 < p.1 → ∀ w g, data.get? q.1 = some w → t.field? q.1 = some g →
    (storeField types q.2 w g fields).1 = .ok () ∧
      left.get? g.name = some (overlay types q.2 w g.shape (.ofField g fields))
  after : ∀ q ∈ properties, p.1 < q.1 ∨ data.get? q.1 = none → ∀ g, t.field? q.1 = some g →
    left.get? g.name = fields.get? g.name
  elsewhere : ∀ field, (∀ q ∈ properties, ∀ g, t.field? q.1 = some g → g.name ≠ field) →
    left.get? field = fields.get? field

/-- A value that is put into a slot fails with a mismatch, and leaves the last content where
the first one was.  Either a look at the slot tells so, or one of the fresh parts of a
container fails, and nothing is changed; or a property of a record fails in the same way. -/
inductive Halts (types : Catalog) : Schema R → Value → Shape → Mismatch → Content → Content → Prop
  | refused {s : Schema R} {v : Value} {slot : Shape} {m : Mismatch} {c : Content}
      (look : check types s slot c = (.error m, c)) :
      Halts types s v slot m c c
  | sequence {note : Annotation} {items : Schema R} {unique : Bool} {vs : List Value} {w : Value}
      {element : Shape} {m : Mismatch} {c : Content} (item : w ∈ vs)
      (fails : storePart types (store types items w) element (.fresh types element) =
        .error (.mismatch m)) :
      Halts types (.array note items unique) (.array vs) (.sequence element) m c c
  | dictionary {note : Annotation} {values : Schema R} {entries : Entries Value} {name : String}
      {w : Value} {suffix : String} {element : Shape} {m : Mismatch} {c : Content}
      (entry : entries.get? name = some w)
      (fails : storePart types (store types values w) element (.fresh types element) =
        .error (.mismatch m)) :
      Halts types (.map note values) (.object entries) (.dictionary suffix element) m c c
  | record {note : Annotation} {properties : List (String × Schema R)} {additional : Bool}
      {required : List String} {data : Entries Value} {name : String} {m : Mismatch}
      {fields left : Entries Content} {p : String × Schema R} {v : Value} {f : Field} {d : Content}
      (stop : StopsAt types properties data (types.find name) m fields left p v f d)
      (inside : Halts types p.2 v f.shape.slot m
        ((Content.ofField f fields).opened types f.shape) d) :
      Halts types (.object note properties additional required) (.object data) (.record name) m
        (.record fields) (.record left)

/-- Nothing but a record is changed by a failure. -/
theorem Halts.eq_of_ne_record {s : Schema R} {v : Value} {slot : Shape} {m : Mismatch}
    {c d : Content} (h : Halts types s v slot m c d) (hSlot : ∀ name, slot ≠ .record name) :
    d = c := by
  cases h with
  | record stop inside => exact absurd rfl (hSlot _)
  | _ => rfl

/-- In every record that is put into, within records, different properties have different
fields. -/
inductive FieldsApart (types : Catalog) : Schema R → Shape → Prop
  | object {note : Annotation} {properties : List (String × Schema R)} {additional : Bool}
      {required : List String} {slot : Shape}
      (separate : ∀ name, slot = .record name →
        SeparateFields (types.find name) (Entries.names properties))
      (parts : ∀ name, slot = .record name → ∀ property ∈ properties, ∀ f,
        (types.find name).field? property.1 = some f → FieldsApart types property.2 f.shape.slot) :
      FieldsApart types (.object note properties additional required) slot
  | other {s : Schema R} {slot : Shape}
      (h : ∀ note properties additional required,
        s ≠ .object note properties additional required) :
      FieldsApart types s slot

/-- A mismatch is the same from outside. -/
theorem under_eq_mismatch_iff {segment : Segment} {fault : MapFault} {m : Mismatch} :
    fault.under segment = .mismatch m ↔ fault = .mismatch m := by
  cases fault <;> simp [MapFault.under]

theorem ofField_insert_of_ne {f g : Field} {fields : Entries Content} {c : Content}
    (h : g.name ≠ f.name) :
    Content.ofField g (fields.insert f.name c) = Content.ofField g fields := by
  rw [Content.ofField, Content.ofField, Entries.get?_insert_of_ne _ _ h]

section Stops

variable {t : RecordType} {properties : List (String × Schema R)} {data : Entries Value}
variable {m : Mismatch} {fields left : Entries Content} {p : String × Schema R} {v : Value}
variable {f : Field} {d : Content} {name : String} {s : Schema R}

/-- The field of a name is not that of any of some properties. -/
def AloneIn (t : RecordType) (name : String) (properties : List (String × Schema R)) : Prop :=
  ∀ f, t.field? name = some f → ∀ q ∈ properties, ∀ g, t.field? q.1 = some g → g.name ≠ f.name

theorem aloneIn_of_separateFields
    (hSorted : Entries.Sorted ((name, s) :: properties))
    (hSeparate : SeparateFields t (Entries.names ((name, s) :: properties))) :
    AloneIn t name properties := by
  intro f hf q hq g hg hName
  have hSame : g = f := RecordType.field?_inj hg hf hName
  have hMem : q.1 ∈ Entries.names properties := Entries.mem_names_of_mem hq
  have hEq : name = q.1 :=
    hSeparate name List.mem_cons_self q.1 (List.mem_cons_of_mem _ hMem) f hf (hSame ▸ hg)
  exact hSorted.head_not_mem (hEq ▸ hMem)

/-- The first property fails. -/
theorem stopsAt_of_error {w : Value} {g : Field} {d : Content}
    (hFirst : ∀ q ∈ properties, name < q.1) (hAlone : AloneIn t name properties)
    (hValue : data.get? name = some w) (hField : t.field? name = some g)
    (hError : storeField types s w g fields = (.error (.mismatch m), d)) :
    StopsAt types ((name, s) :: properties) data t m fields
      (fields.insert g.name (Content.closed g.shape d)) (name, s) w g d where
  declared := List.mem_cons_self
  present := hValue
  leads := hField
  fails := hError
  partly := Entries.get?_insert_self _ _ _
  before := by
    intro q hq hLess
    rcases List.mem_cons.mp hq with rfl | hq
    · exact absurd hLess (lt_irrefl _)
    · exact absurd hLess (lt_asymm (hFirst q hq))
  after := by
    intro q hq hAfter f hf
    rcases List.mem_cons.mp hq with rfl | hq
    · rcases hAfter with hLess | hAbsent
      · exact absurd hLess (lt_irrefl _)
      · rw [hValue] at hAbsent
        cases hAbsent
    · exact Entries.get?_insert_of_ne _ _ (hAlone g hField q hq f hf)
  elsewhere := by
    intro field hNone
    exact Entries.get?_insert_of_ne _ _ (hNone _ List.mem_cons_self g hField).symm

/-- A first property that is passed over leaves its field as it is. -/
theorem StopsAt.cons_of_none (hAlone : AloneIn t name properties)
    (hNone : ∀ w g, data.get? name = some w → t.field? name = some g → False)
    (h : StopsAt types properties data t m fields left p v f d) :
    StopsAt types ((name, s) :: properties) data t m fields left p v f d where
  declared := List.mem_cons_of_mem _ h.declared
  present := h.present
  leads := h.leads
  fails := h.fails
  partly := h.partly
  before := by
    intro q hq hLess w g hw hg
    rcases List.mem_cons.mp hq with rfl | hq
    · exact (hNone w g hw hg).elim
    · exact h.before q hq hLess w g hw hg
  after := by
    intro q hq hAfter g hg
    rcases List.mem_cons.mp hq with rfl | hq
    · exact h.elsewhere g.name (hAlone g hg)
    · exact h.after q hq hAfter g hg
  elsewhere := fun field hOther => h.elsewhere field (List.forall_mem_cons.mp hOther).2

/-- A first property that is stored lies over its field in the end, and does not matter to
what comes after it. -/
theorem StopsAt.cons_of_ok {w : Value} {g : Field} (hFirst : ∀ q ∈ properties, name < q.1)
    (hAlone : AloneIn t name properties) (hValue : data.get? name = some w)
    (hField : t.field? name = some g) (hOk : (storeField types s w g fields).1 = .ok ())
    (h : StopsAt types properties data t m
      (fields.insert g.name (overlay types s w g.shape (.ofField g fields))) left p v f d) :
    StopsAt types ((name, s) :: properties) data t m fields left p v f d := by
  have hOther {q : String × Schema R} (hq : q ∈ properties) {e : Field}
      (he : t.field? q.1 = some e) : e.name ≠ g.name :=
    hAlone g hField q hq e he
  have hSame {q : String × Schema R} (hq : q ∈ properties) {e : Field}
      (he : t.field? q.1 = some e) (c : Content) :
      Content.ofField e (fields.insert g.name c) = Content.ofField e fields :=
    ofField_insert_of_ne (hOther hq he)
  have hFails := h.fails
  rw [storeField, hSame h.declared h.leads] at hFails
  refine
    { declared := List.mem_cons_of_mem _ h.declared
      present := h.present
      leads := h.leads
      fails := hFails
      partly := h.partly
      before := fun q hq hLess u e hu he => ?_
      after := fun q hq hAfter e he => ?_
      elsewhere := fun field hNone => ?_ }
  · rcases List.mem_cons.mp hq with rfl | hq
    · obtain rfl : w = u := Option.some.inj (hValue.symm.trans hu)
      obtain rfl : g = e := Option.some.inj (hField.symm.trans he)
      refine ⟨hOk, ?_⟩
      rw [h.elsewhere g.name (hAlone g hField), Entries.get?_insert_self]
    · have hBefore := h.before q hq hLess u e hu he
      rwa [storeField, hSame hq he] at hBefore
  · rcases List.mem_cons.mp hq with rfl | hq
    · rcases hAfter with hLess | hAbsent
      · exact absurd hLess (lt_asymm (hFirst p h.declared))
      · rw [hValue] at hAbsent
        cases hAbsent
    · rw [h.after q hq hAfter e he, Entries.get?_insert_of_ne _ _ (hOther hq he)]
  · rw [List.forall_mem_cons] at hNone
    rw [h.elsewhere field hNone.2, Entries.get?_insert_of_ne _ _ (hNone.1 g hField).symm]

end Stops

section Records

variable (hTypes : types.Standard) (hVeils : types.VeiledAs kinds types')
variable {t t' : RecordType} (hRecord : t.Standard types) (hVeiled : t.VeiledAs kinds t')
variable {data : Entries Value} {properties : List (String × Schema R)}
include hTypes hVeils hRecord hVeiled

/-- A failure leaves the record half written, up to the first property that fails. -/
theorem exists_stopsAt (hSorted : Entries.Sorted properties)
    (hSeparate : SeparateFields t' (Entries.names properties))
    (hParts : ∀ property ∈ properties, ∀ w, data.get? property.1 = some w →
      ∀ slot slot' : Shape, slot.SlotVeiledAs kinds slot' → slot.Standard →
        StoresSafely types types' property.2 w slot slot' ∧
          LaysOverVeiled types types' property.2 w slot slot')
    {m : Mismatch} {left : Entries Content} :
    ∀ {fields : Entries Content}, Content.FieldsHaveShape types t fields →
      storeProperties types' properties data t' fields = (.error (.mismatch m), left) →
        ∃ p v f d, StopsAt types' properties data t' m fields left p v f d := by
  -- The properties that are stored leave the others as they would be without them.
  induction properties with
  | nil => exact fun _ hStore => by cases hStore
  | cons property properties ih =>
      intro fields hFields hStore
      obtain ⟨name, s⟩ := property
      have hAlone := aloneIn_of_separateFields hSorted hSeparate
      have hFirst (q) (hq : q ∈ properties) : name < q.1 :=
        hSorted.head_lt (Entries.mem_names_of_mem hq)
      have hSeparate' : SeparateFields t' (Entries.names properties) :=
        fun p hp q hq => hSeparate p (List.mem_cons_of_mem _ hp) q (List.mem_cons_of_mem _ hq)
      rw [List.forall_mem_cons] at hParts
      have hRest {fields} := @ih hSorted.tail hSeparate' hParts.2 fields
      by_cases hLeads : ∃ w f', data.get? name = some w ∧ t'.field? name = some f'
      · obtain ⟨w, f', hValue, hField'⟩ := hLeads
        obtain ⟨hTyped, _, hOverlay⟩ := throughField_of_laysOverVeiled hTypes hVeils hRecord
          hVeiled hField' (hParts.1 w hValue) hFields
        cases hResult : (storeField types' s w f' fields).1 with
        | ok =>
            rw [storeProperties_cons_of_ok hValue hField' hResult] at hStore
            obtain ⟨p, v, f, d, hStop⟩ := hRest hTyped hStore
            rw [hOverlay hResult] at hStop
            exact ⟨p, v, f, d, hStop.cons_of_ok hFirst hAlone hValue hField' hResult⟩
        | error fault =>
            rw [storeProperties_cons_of_error hValue hField' hResult] at hStore
            obtain ⟨hFault, rfl⟩ := Prod.mk.inj hStore
            rw [Except.error.injEq, under_eq_mismatch_iff] at hFault
            subst hFault
            exact
              ⟨_, w, f', _, stopsAt_of_error hFirst hAlone hValue hField' (Prod.ext hResult rfl)⟩
      · have hNone (w) (f') (hw : data.get? name = some w) (hf : t'.field? name = some f') :
            False :=
          hLeads ⟨w, f', hw, hf⟩
        rw [storeProperties_cons_of_none hNone] at hStore
        obtain ⟨p, v, f, d, hStop⟩ := hRest hFields hStore
        exact ⟨p, v, f, d, hStop.cons_of_none hAlone hNone⟩

end Records

/-- A mismatch of a value in a veiled slot is explained for every typed content. -/
def HaltsIn (types types' : Catalog) (s : Schema R) (v : Value) (slot slot' : Shape) : Prop :=
  ∀ c d m, Content.HasShape types slot c → store types' s v slot' c = (.error (.mismatch m), d) →
    Halts types' s v slot' m c d

section Values

variable {s : Schema R} {v : Value} {slot slot' : Shape}

theorem probeEmpty_eq_error {isEmpty : Bool} {look : Except Mismatch Unit} {m : Mismatch}
    (h : probeEmpty isEmpty look = .error m) :
    look = .error m := by
  cases isEmpty with
  | true => exact h
  | false => cases h

theorem haltsIn_any : HaltsIn types types' s v slot .any := by
  intro c d m _ hStore
  rw [store_any] at hStore
  cases hStore

/-- A value without parts does not fit, or is stored. -/
theorem haltsIn_of_isLeaf (hLeaf : s.IsLeaf) (hv : v ∈ s.valueSet) :
    HaltsIn types types' s v slot slot' := by
  intro c d m hc hStore
  by_cases hAny : slot' = .any
  · subst hAny
    exact haltsIn_any c d m hc hStore
  · rw [store_eq_storeLeaf hLeaf hAny] at hStore
    by_cases hFits : fitsLeaf s slot' = true
    · obtain ⟨stored, _, hStored⟩ := @exists_storeLeaf_eq R types s v slot' hLeaf hv hFits
      rw [hStored] at hStore
      cases hStore
    · rw [storeLeaf_of_not_fitsLeaf hFits] at hStore
      cases hStore
      refine .refused ?_
      rw [check_eq_of_isLeaf hLeaf, fit_of_isLeaf hLeaf hAny, if_neg hFits]

theorem haltsIn_combined {combinator : Combinator} {branches : List (Schema R)} :
    HaltsIn types types' (.combined combinator branches) v slot slot' := by
  intro c d m hc hStore
  by_cases hAny : slot' = .any
  · subst hAny
    exact haltsIn_any c d m hc hStore
  · rw [store_combined hAny, check_combined_eq, fit_combined hAny] at hStore
    cases hStore
    exact .refused (by rw [check_combined_eq, fit_combined hAny])

/-- A slot for something else is refused, and left alone. -/
theorem haltsIn_of_refused {m : Mismatch}
    (hStore : ∀ c, store types' s v slot' c = (.error (.mismatch m), c))
    (hLook : ∀ c, check types' s slot' c = (.error m, c)) :
    HaltsIn types types' s v slot slot' := by
  intro c d m' _ hFails
  rw [hStore] at hFails
  cases hFails
  exact .refused (hLook c)

theorem haltsIn_of_isScalar (hv : v ∈ s.valueSet) (hScalar : slot.IsScalar) :
    HaltsIn types types' s v slot slot := by
  by_cases hLeaf : s.IsLeaf
  · exact haltsIn_of_isLeaf hLeaf hv
  · cases s <;> first
      | exact absurd trivial hLeaf
      | exact haltsIn_combined
      | (cases slot <;> first
          | exact hScalar.elim
          | exact haltsIn_any
          | exact haltsIn_of_refused (fun c => rfl) fun c => rfl)

theorem haltsIn_array {note : Annotation} {items : Schema R} {unique : Bool} {vs : List Value}
    {element element' : Shape} :
    HaltsIn types types' (.array note items unique) (.array vs) (.sequence element)
      (.sequence element') := by
  intro c d m _ hStore
  simp only [store, Value.items?] at hStore
  split at hStore
  · rename_i hProbe
    cases hStore
    refine .refused ?_
    simp only [check, probeEmpty_eq_error hProbe]
  · rcases refillItems_storeItem_cases types' vs with
      ⟨ds, _, hRefill⟩ | ⟨w, hw, fault, segment, hPart, hRefill⟩
    · rw [hRefill] at hStore
      cases hStore
    · rw [hRefill] at hStore
      obtain ⟨hFault, rfl⟩ := Prod.mk.inj hStore
      rw [Except.error.injEq, under_eq_mismatch_iff] at hFault
      exact .sequence hw (hFault ▸ hPart)

theorem haltsIn_map {note : Annotation} {values : Schema R} {entries : Entries Value}
    {element element' : Shape} :
    HaltsIn types types' (.map note values) (.object entries) (.dictionary "" element)
      (.dictionary "" element') := by
  intro c d m _ hStore
  simp only [store, Value.entries?] at hStore
  split at hStore
  · rename_i hProbe
    cases hStore
    refine .refused ?_
    simp only [check, probeEmpty_eq_error hProbe]
  · rcases refillEntries_storeEntry_cases types' entries with
      ⟨ds, _, hRefill⟩ | ⟨name, w, hw, fault, segment, hPart, hRefill⟩
    · rw [hRefill] at hStore
      cases hStore
    · rw [hRefill] at hStore
      obtain ⟨hFault, rfl⟩ := Prod.mk.inj hStore
      rw [Except.error.injEq, under_eq_mismatch_iff] at hFault
      exact .dictionary hw (hFault ▸ hPart)

end Values

section Halting

variable (hTypes : types.Standard) (hVeils : types.VeiledAs kinds types')
include hTypes hVeils

/-- A record that is refused is not touched, and one that is not is half written. -/
theorem haltsIn_object {note : Annotation} {properties : List (String × Schema R)}
    {additional : Bool} {required : List String} {data : Entries Value} {name name' : String}
    (hs : (Schema.object note properties additional required).WellFormed)
    (hv : .object data ∈ (Schema.object note properties additional required).valueSet)
    (hWellFormed : (Value.object data).WellFormed) (hKinds : kinds name name')
    (hApart : FieldsApart types' (.object note properties additional required) (.record name'))
    (hParts : ∀ property ∈ properties, ∀ w, data.get? property.1 = some w →
      ∀ slot slot' : Shape, slot.SlotVeiledAs kinds slot' → slot.Standard →
        FieldsApart types' property.2 slot' → HaltsIn types types' property.2 w slot slot') :
    HaltsIn types types' (.object note properties additional required) (.object data)
      (.record name) (.record name') := by
  intro c d m hc hStore
  obtain ⟨data', hData, hProperties, _⟩ := mem_valueSet_object.mp hv
  cases hData
  obtain ⟨_, hEntries⟩ := Value.wellFormed_object_iff.mp hWellFormed
  obtain ⟨r, _, hLook⟩ := looksThrough hTypes hVeils
    (.object note properties additional required) _ _ (.record hKinds) trivial
  obtain ⟨fields, rfl, hFields⟩ := Content.hasShape_record_iff.mp hc
  cases r with
  | error m' =>
      simp only [store, hLook _ hc] at hStore
      cases hStore
      exact .refused (hLook _ hc)
  | ok =>
      simp only [store, hLook _ hc, Value.entries?, Content.fields] at hStore
      obtain ⟨hResult, rfl⟩ := Prod.mk.inj hStore
      cases hApart with
      | other h => exact absurd rfl (h _ _ _ _)
      | object separate parts =>
          have hRecord := hTypes.find name
          have hVeiled := hVeils name name' hKinds
          obtain ⟨p, v, f', d, hStop⟩ := exists_stopsAt hTypes hVeils hRecord hVeiled hs.1
            (separate name' rfl) (fun property hProperty w hw slot slot' h hSlot =>
              have hValid := hProperties property hProperty w hw
              have hPart := hEntries (property.1, w) (Entries.mem_of_get? hw)
              ⟨storesSafely hTypes hVeils _ w hValid _ _ h hSlot,
                laysOverVeiled hTypes hVeils _ w hValid hPart _ _ h hSlot⟩)
            hFields (Prod.ext hResult rfl)
          refine .record hStop ?_
          -- The content of the field is typed below its veils, so that its failure is explained.
          obtain ⟨_, hNone⟩ | ⟨f, g', hField, hField', hVeil⟩ := hVeiled.field?_cases p.1
          · rw [hStop.leads] at hNone
            cases hNone
          · obtain rfl : f' = g' := Option.some.inj (hStop.leads.symm.trans hField')
            have hMem := RecordType.mem_fields_of_field? hField
            have hShape := hRecord.shapes f hMem
            have hOpened := (hFields.hasShape_ofField hMem).opened hTypes hShape
            rw [← hVeil.ofField_eq, ← hVeil.shape.opened_eq hVeils] at hOpened
            exact hParts p hStop.declared v hStop.present _ _ hVeil.shape.slot hShape.slot
              (parts name' rfl p hStop.declared f' hStop.leads) _ _ _ hOpened hStop.fails

/-- Every mismatch of a valid value is explained, down to the slot where it came from. -/
theorem halts (s : Schema R) :
    s.WellFormed → ∀ v ∈ s.valueSet, v.WellFormed → ∀ slot slot' : Shape,
      slot.SlotVeiledAs kinds slot' → slot.Standard → FieldsApart types' s slot' →
        HaltsIn types types' s v slot slot' := by
  induction s using inductionOnParts with
  | leaf s hLeaf => exact fun _ v hv _ slot slot' _ _ _ => haltsIn_of_isLeaf hLeaf hv
  | array note items unique ih =>
      intro _ v hv _ slot slot' h _ _
      obtain ⟨vs, rfl, _⟩ := mem_valueSet_array.mp hv
      cases h with
      | sequence hVeiled => exact haltsIn_array
      | scalar hScalar => exact haltsIn_of_isScalar hv hScalar
      | _ => exact haltsIn_of_refused (fun c => rfl) fun c => rfl
  | map note values ih =>
      intro _ v hv _ slot slot' h hSlot _
      obtain ⟨entries, rfl, _⟩ := mem_valueSet_map.mp hv
      cases h with
      | dictionary hVeiled =>
          obtain ⟨rfl, _⟩ := hSlot
          exact haltsIn_map
      | scalar hScalar => exact haltsIn_of_isScalar hv hScalar
      | _ => exact haltsIn_of_refused (fun c => rfl) fun c => rfl
  | object note properties additional required ih =>
      intro hs v hv hWellFormed slot slot' h hSlot hApart
      obtain ⟨data, rfl, hProperties, _⟩ := mem_valueSet_object.mp hv
      obtain ⟨_, hEntries⟩ := Value.wellFormed_object_iff.mp hWellFormed
      cases h with
      | record hKinds =>
          exact haltsIn_object hTypes hVeils hs hv hWellFormed hKinds hApart
            fun property hProperty w hw =>
              ih property hProperty (propertiesWellFormed_iff.mp hs.2 property hProperty) w
                (hProperties property hProperty w hw)
                (hEntries (property.1, w) (Entries.mem_of_get? hw))
      | scalar hScalar => exact haltsIn_of_isScalar hv hScalar
      | _ => exact haltsIn_of_refused (fun c => rfl) fun c => rfl
  | combined combinator branches ih => exact fun _ v _ _ slot slot' _ _ _ => haltsIn_combined

end Halting

/-- A mapping into a veiled record whose look passes leaves the overlay if it succeeds.  If it
fails, then with a mismatch at the first present property, in the order of names, that cannot
be stored: the record holds what a success would have left up to there and what it held before
elsewhere, and the field of the property holds what its own failure leaves. -/
theorem mapInto_stopsAt (hTypes : types.Standard) (hVeils : types.VeiledAs kinds types')
    {name name' : String} (hKinds : kinds name name') {s : Schema R} (hs : s.WellFormed)
    (hApart : FieldsApart types' s (.record name')) {v : Value} (hv : v.WellFormed)
    (hValid : s.validate v = .ok ()) {c : Content} (hc : Content.HasShape types (.record name) c)
    (hLook : (Content.inspected types' (check types' s) (.record name') c).1 = .ok ()) :
    (∀ d, s.mapInto types' v (.record name') c = (.ok (), d) →
        d = overlay types' s v (.record name') c) ∧
      ∀ fault d, s.mapInto types' v (.record name') c = (.error fault, d) →
        ∃ note properties additional required data fields left m,
          s = .object note properties additional required ∧ v = .object data ∧
            c = .record fields ∧ fault = .mismatch m ∧ d = .record left ∧
            ∃ p w f inside,
              StopsAt types' properties data (types'.find name') m fields left p w f inside ∧
                Halts types' p.2 w f.shape.slot m
                  ((Content.ofField f fields).opened types' f.shape) inside ∧
                ((∀ name, f.shape.slot ≠ .record name) →
                  inside = (Content.ofField f fields).opened types' f.shape) := by
  have hShape : Shape.Standard (.record name) := trivial
  have hSlot : Shape.SlotVeiledAs kinds (.record name) (.record name') := .record hKinds
  have hMember := mem_valueSet_of_validate hValid
  obtain ⟨r, _, hCheck⟩ := looksThrough hTypes hVeils s _ _ hSlot hShape
  have hInspected : Content.inspected types' (check types' s) (.record name') c = (r, c) :=
    hCheck c hc
  rw [hInspected] at hLook
  obtain rfl : r = .ok () := hLook
  have hMap : s.mapInto types' v (.record name') c = store types' s v (.record name') c := by
    simp only [mapInto, hValid, hInspected]
    rfl
  rw [hMap]
  refine ⟨fun d hStore => ?_, fun fault d hStore => ?_⟩
  · exact laysOverVeiled hTypes hVeils s v hMember hv _ _ hSlot hShape c d hc hStore
  · have hSafe := (storesSafely hTypes hVeils s v hMember _ _ hSlot hShape c hc).valid
    rw [hStore] at hSafe
    obtain ⟨m, rfl⟩ := notInvalid_error_iff.mp hSafe
    have hHalts := halts hTypes hVeils s hs v hMember hv _ _ hSlot hShape hApart c d m hc hStore
    cases hHalts with
    | refused look =>
        rw [hCheck c hc] at look
        cases look
    | record stop inside =>
        exact ⟨_, _, _, _, _, _, _, _, rfl, rfl, rfl, rfl, rfl, _, _, _, _, stop, inside,
          inside.eq_of_ne_record⟩

theorem fieldsApart_parcel {heaviest : Int64} :
    FieldsApart .veiledParcels (parcel heaviest) (.record "parcel") := by
  have hSeparate : SeparateFields (Catalog.veiledParcels.find "parcel") ["contents", "weight"] :=
    separateFields_of_nodup (by decide)
  refine .object ?_ ?_
  · rintro name ⟨⟩
    exact hSeparate
  · intro name _
    simp only [List.forall_mem_cons]
    exact ⟨fun f _ => .other (by simp), fun f _ => .other (by simp), by simp⟩

/-- The contents of a heavy parcel replace those of another before its weight fails. -/
theorem mapInto_stopsAt_parcel :
    ∃ properties data fields m p w f d,
      parcel 300 = .object {} properties false ["weight"] ∧ colouredParcel = .object data ∧
        Content.parcel (some "books") [.parcel none []] = .record fields ∧
        (parcel 300).mapInto .veiledParcels colouredParcel (.record "parcel") (.record fields) =
          (.error (.mismatch m), .parcel (some "books")
            [.record [("contents", .sequence []), ("label", .optional (some (.text "tea"))),
              ("weight", .int 0)]]) ∧
        p.1 = "weight" ∧
        StopsAt .veiledParcels properties data (Catalog.veiledParcels.find "parcel") m fields
          (Content.parcel (some "books")
            [.record [("contents", .sequence []), ("label", .optional (some (.text "tea"))),
              ("weight", .int 0)]]).fields p w f d := by
  have hInner : ∀ c ∈ [Content.parcel none []],
      Content.HasShape .parcels (.record "parcel") c := by
    rw [List.forall_mem_singleton]
    exact Content.hasShape_parcel (by simp)
  have hTyped : Content.HasShape .parcels (.record "parcel")
      (.parcel (some "books") [.parcel none []]) :=
    Content.hasShape_parcel hInner
  have hStops := (mapInto_stopsAt Catalog.standard_parcels Catalog.veiledAs_veiledParcels
    ⟨rfl, rfl⟩ (@wellFormed_parcel 300) fieldsApart_parcel wellFormed_colouredParcel rfl hTyped
    rfl).2
  obtain ⟨_, properties, _, _, data, fields, left, m, hs, hv, hc, hm, hd, p, w, f, inside, hStop,
    _⟩ := hStops (.mismatch (mismatch (.integer {} 0 300) (.int .uint8))) _ rfl
  cases hs
  cases hv
  cases hc
  cases hm
  cases hd
  refine ⟨_, _, _, _, p, w, f, inside, rfl, rfl, rfl, rfl, ?_, hStop⟩
  have hDeclared := hStop.declared
  have hPresent := hStop.present
  have hLeads := hStop.leads
  simp only [List.mem_cons, List.not_mem_nil, or_false] at hDeclared
  rcases hDeclared with rfl | rfl
  · -- The contents are stored.
    cases hPresent
    cases hLeads
    cases hStop.fails
  · rfl

end Schema
end DataContract
