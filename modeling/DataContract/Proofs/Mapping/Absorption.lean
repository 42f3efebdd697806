import DataContract.Proofs.Mapping.Overlay
/-!
# The last mapping wins

A value that is mapped after another leaves nothing of it, as long as it has all the
declared properties that the other has: what the first one wrote into a record is written
again, and everything else in its way is replaced.

Several properties may lead to one field.  Between the property that wrote a field first and
the same property of the second value, the others write it as well.  Therefore a value is
absorbed by a later one through any number of layers that stand between them.

**Results.**
* `fields_of_layers`: layers over a record are layers over each of its fields.
* `overlay_absorbs`: what is laid over storage is absorbed, through layers, by a later value.
* `mapInto_twice`: the last of two values that are mapped decides what storage holds.
-/

namespace DataContract

variable {R : Readers}

/-- What is found along a path of names into objects. -/
def Value.at? : Value → List String → Option Value
  | v, [] => some v
  | .object data, name :: path => (Entries.get? data name).bind fun v => v.at? path
  | _, _ :: _ => none

namespace Schema

/-- The schema declares a property, within objects, at the end of the path. -/
inductive Declares : Schema R → List String → Prop
  | here {s : Schema R} : Declares s []
  | property {note : Annotation} {properties : List (String × Schema R)} {additional : Bool}
      {required path : List String} {property : String × Schema R}
      (declared : property ∈ properties) (inside : Declares property.2 path) :
      Declares (.object note properties additional required) (property.1 :: path)

/-- The second value has every declared property that the first one has. -/
def Covers (s : Schema R) (v w : Value) : Prop :=
  ∀ path, Declares s path → (v.at? path).isSome → (w.at? path).isSome

theorem Covers.refl (s : Schema R) (v : Value) : Covers s v v :=
  fun _ _ h => h

section Covering

variable {note : Annotation} {properties : List (String × Schema R)} {additional : Bool}
variable {required : List String} {data other : Entries Value}

theorem covers_object_iff :
    Covers (.object note properties additional required) (.object data) (.object other) ↔
      ∀ property ∈ properties, ∀ v, data.get? property.1 = some v →
        ∃ w, other.get? property.1 = some w ∧ Covers property.2 v w := by
  constructor
  · intro h property hProperty v hv
    have hHere := h [property.1] (.property hProperty .here) (by simp [Value.at?, hv])
    cases hw : other.get? property.1 with
    | none => simp [Value.at?, hw] at hHere
    | some w =>
        refine ⟨w, rfl, fun path hPath hSome => ?_⟩
        have hPart := h (property.1 :: path) (.property hProperty hPath)
        simp only [Value.at?, hv, hw, Option.bind_some] at hPart
        exact hPart hSome
  · intro h path hPath hSome
    cases hPath with
    | here => rfl
    | @property _ _ _ _ path property hProperty hInside =>
        rw [Value.at?] at hSome ⊢
        cases hv : data.get? property.1 with
        | none => simp [hv] at hSome
        | some v =>
            obtain ⟨w, hw, hCovers⟩ := h property hProperty v hv
            rw [hv] at hSome
            rw [hw]
            exact hCovers path hInside hSome

/-- Only objects have declared properties. -/
theorem covers_of_not_object {s : Schema R} {v w : Value}
    (h : ∀ note properties additional required, s ≠ .object note properties additional required) :
    Covers s v w := by
  intro path hPath _
  cases hPath with
  | here => rfl
  | property declared inside => exact absurd rfl (h _ _ _ _)

end Covering

variable {types : Catalog}

/-- Values laid one after the other over storage of a shape. -/
inductive Layers (R : Readers) (types : Catalog) (shape : Shape) : (Content → Content) → Prop
  | none : Layers R types shape fun c => c
  | next {g : Content → Content} (s : Schema R) (v : Value) (before : Layers R types shape g) :
      Layers R types shape fun c => overlay types s v shape (g c)

theorem Layers.comp {shape : Shape} {g h : Content → Content} (hg : Layers R types shape g)
    (hh : Layers R types shape h) :
    Layers R types shape fun c => g (h c) := by
  induction hg with
  | none => exact hh
  | next s v before ih => exact .next s v ih

/-- The properties that lead to a field are layers over it. -/
theorem layers_overlayField {t : RecordType} {data : Entries Value} {property : String} {f : Field}
    (hf : t.field? property = some f) (properties : List (String × Schema R)) :
    Layers R types f.shape (overlayField types properties data t f.name) := by
  induction properties with
  | nil => exact .none
  | cons first properties ih =>
      obtain ⟨name, s⟩ := first
      by_cases hLeads : ∃ v, data.get? name = some v ∧ t.field? name = some f
      · obtain ⟨v, hv, hField⟩ := hLeads
        have hCons : overlayField types ((name, s) :: properties) data t f.name = fun c =>
            overlayField types properties data t f.name (overlay types s v f.shape c) := by
          funext c
          exact overlayField_cons hv hField
        rw [hCons]
        exact ih.comp (.next s v .none)
      · have hCons : overlayField types ((name, s) :: properties) data t f.name =
            overlayField types properties data t f.name := by
          funext c
          refine overlayField_cons_of_ne fun v g hv hg hName => hLeads ⟨v, hv, ?_⟩
          rw [hg, RecordType.field?_inj hf hg hName]
        rw [hCons]
        exact ih

theorem opened_overlay {s : Schema R} {v : Value} {shape : Shape} {c : Content} :
    (overlay types s v shape c).opened types shape =
      overlaySlot types s v shape.slot (c.opened types shape) := by
  rw [overlay, changed_eq_closed, Content.opened_closed]

/-- Nothing but an object is laid over a record. -/
theorem overlaySlot_record {s : Schema R} {v : Value} {name : String} :
    (∃ note properties additional required data,
        s = .object note properties additional required ∧ v = .object data) ∨
      ∀ c, overlaySlot types s v (.record name) c = c := by
  cases s with
  | object note properties additional required =>
      cases v with
      | object data => exact .inl ⟨_, _, _, _, _, rfl, rfl⟩
      | _ => exact .inr fun c => rfl
  | _ => exact .inr fun c => rfl

/-- Layers over a record are layers over each of its fields. -/
theorem fields_of_layers {shape : Shape} {name : String} {g : Content → Content}
    (hg : Layers R types shape g) (hSlot : shape.slot = .record name) :
    ∃ k : String → Content → Content,
      (∀ property f, (types.find name).field? property = some f →
        Layers R types f.shape (k f.name)) ∧
      ∀ c, ((g c).opened types shape).fields =
        Entries.mapNamed k (c.opened types shape).fields := by
  induction hg with
  | none =>
      refine ⟨fun _ c => c, fun property f _ => .none, fun c => ?_⟩
      simp [Entries.mapNamed]
  | @next g s v before ih =>
      obtain ⟨k, hLayers, hFields⟩ := ih
      obtain ⟨note, properties, additional, required, data, rfl, rfl⟩ | hSame :=
        @overlaySlot_record R types s v name
      · refine ⟨fun field c =>
          overlayField types properties data (types.find name) field (k field c),
          fun property f hf => (layers_overlayField hf properties).comp (hLayers property f hf),
          fun c => ?_⟩
        rw [opened_overlay, hSlot, overlaySlot, Content.fields, hFields, Entries.mapNamed_mapNamed]
      · refine ⟨k, hLayers, fun c => ?_⟩
        rw [opened_overlay, hSlot, hSame, hFields]

/-- A valid value replaces whatever a slot holds that is not a record. -/
theorem overlaySlot_eq_of_not_record {s : Schema R} {v : Value} {shape : Shape}
    (hv : v ∈ s.valueSet) (hFit : fit types s shape = .ok ())
    (hRecord : ∀ name, shape ≠ .record name) (c d : Content) :
    overlaySlot types s v shape c = overlaySlot types s v shape d := by
  by_cases hAny : shape = .any
  · subst hAny
    rw [overlaySlot_any, overlaySlot_any]
  · induction s using inductionOnParts with
    | leaf s hLeaf =>
        obtain ⟨stored, hDecoded, _⟩ := exists_decoded?_eq hLeaf hAny hv hFit
        rw [overlaySlot_of_isLeaf hLeaf hAny, overlaySlot_of_isLeaf hLeaf hAny, hDecoded,
          Option.getD_some, Option.getD_some]
    | array note items unique ih =>
        obtain ⟨vs, rfl, _⟩ := mem_valueSet_array.mp hv
        cases shape <;> first | rfl | cases hFit
    | map note values ih =>
        obtain ⟨entries, rfl, _⟩ := mem_valueSet_map.mp hv
        cases shape <;> first | rfl | cases hFit
    | object note properties additional required ih =>
        cases shape with
        | record name => exact absurd rfl (hRecord name)
        | any => exact absurd rfl hAny
        | _ => cases hFit
    | combined combinator branches ih =>
        rw [fit_combined hAny] at hFit
        cases hFit

/-- Storage whose slot is not that of a record has no memory. -/
theorem overlay_absorbs_of_not_record {s : Schema R} {v : Value} {shape : Shape}
    (hv : v ∈ s.valueSet) (hFit : fit types s shape.slot = .ok ())
    (hRecord : ∀ name, shape.slot ≠ .record name) (c d : Content) :
    overlay types s v shape c = overlay types s v shape d := by
  rw [overlay, overlay, changed_eq_closed, changed_eq_closed,
    overlaySlot_eq_of_not_record hv hFit hRecord]

/-- What the properties of a value lay over a field is absorbed by those of a later value,
if each of them is absorbed by itself. -/
theorem overlayField_absorbs {t : RecordType} {data other : Entries Value} {property : String}
    {f : Field} (hf : t.field? property = some f) {properties : List (String × Schema R)}
    (hParts : ∀ property ∈ properties, ∀ v, data.get? property.1 = some v →
      ∃ w, other.get? property.1 = some w ∧
        (t.field? property.1 = some f → ∀ g, Layers R types f.shape g → ∀ c,
          overlay types property.2 w f.shape (g (overlay types property.2 v f.shape c)) =
            overlay types property.2 w f.shape (g c))) :
    ∀ g, Layers R types f.shape g → ∀ c,
      overlayField types properties other t f.name
          (g (overlayField types properties data t f.name c)) =
        overlayField types properties other t f.name (g c) := by
  -- The first property of the later value joins the layers before the others are looked at.
  induction properties with
  | nil => exact fun g _ c => rfl
  | cons first properties ih =>
      intro g hg c
      obtain ⟨name, s⟩ := first
      rw [List.forall_mem_cons] at hParts
      have hRest := ih hParts.2
      by_cases hLeads : t.field? name = some f
      · cases hw : other.get? name with
        | none =>
            have hv : data.get? name = none := by
              by_contra hSome
              obtain ⟨v, hv⟩ := Option.ne_none_iff_exists'.mp hSome
              obtain ⟨w, hw', _⟩ := hParts.1 v hv
              rw [hw] at hw'
              cases hw'
            have hSkip (d : Content) :
                overlayField types ((name, s) :: properties) other t f.name d =
                  overlayField types properties other t f.name d :=
              overlayField_cons_of_ne (by simp [hw])
            rw [hSkip, hSkip, overlayField_cons_of_ne (by simp [hv])]
            exact hRest g hg c
        | some w =>
            rw [overlayField_cons hw hLeads, overlayField_cons hw hLeads]
            cases hv : data.get? name with
            | none =>
                rw [overlayField_cons_of_ne (by simp [hv])]
                exact hRest _ (.next s w hg) c
            | some v =>
                obtain ⟨w', hw', hAbsorbs⟩ := hParts.1 v hv
                obtain rfl : w = w' := Option.some.inj (hw.symm.trans hw')
                rw [overlayField_cons hv hLeads, hRest _ (.next s w hg),
                  hAbsorbs hLeads g hg c]
      · have hSkip (entries : Entries Value) (d : Content) :
            overlayField types ((name, s) :: properties) entries t f.name d =
              overlayField types properties entries t f.name d := by
          refine overlayField_cons_of_ne fun v g _ hg hName => hLeads ?_
          rw [hg, RecordType.field?_inj hf hg hName]
        rw [hSkip, hSkip, hSkip]
        exact hRest g hg c

theorem overlay_absorbs_of_not_object {s : Schema R} {v : Value} {shape : Shape}
    (hObject : ∀ note properties additional required,
      s ≠ .object note properties additional required)
    (hv : v ∈ s.valueSet) (hFit : fit types s shape.slot = .ok ()) (c d : Content) :
    overlay types s v shape c = overlay types s v shape d := by
  refine overlay_absorbs_of_not_record hv hFit (fun name hSlot => ?_) c d
  rw [hSlot] at hFit
  obtain ⟨note, properties, additional, required, hs⟩ := exists_object_of_fit_record hFit
  exact hObject note properties additional required hs

theorem overlay_record {note : Annotation} {properties : List (String × Schema R)}
    {additional : Bool} {required : List String} {data : Entries Value} {shape : Shape}
    {name : String} (hSlot : shape.slot = .record name) (c : Content) :
    overlay types (.object note properties additional required) (.object data) shape c =
      Content.closed shape (.record (Entries.mapNamed
        (overlayField types properties data (types.find name)) (c.opened types shape).fields)) := by
  rw [overlay, changed_eq_closed, hSlot, overlaySlot]

/-- Objects are absorbed in records if their properties are absorbed in fields. -/
theorem overlay_absorbs_record {note : Annotation} {properties : List (String × Schema R)}
    {additional : Bool} {required : List String} {data other : Entries Value} {shape : Shape}
    {name : String} (hSlot : shape.slot = .record name)
    (hParts : ∀ property ∈ properties, ∀ v, data.get? property.1 = some v →
      ∃ w, other.get? property.1 = some w ∧
        ∀ f, (types.find name).field? property.1 = some f → ∀ g, Layers R types f.shape g → ∀ c,
          overlay types property.2 w f.shape (g (overlay types property.2 v f.shape c)) =
            overlay types property.2 w f.shape (g c))
    {g : Content → Content} (hg : Layers R types shape g) (c : Content) :
    overlay types (.object note properties additional required) (.object other) shape
        (g (overlay types (.object note properties additional required) (.object data) shape c)) =
      overlay types (.object note properties additional required) (.object other) shape (g c) := by
  obtain ⟨k, hLayers, hFields⟩ := fields_of_layers hg hSlot
  rw [overlay_record hSlot, overlay_record hSlot, overlay_record hSlot, hFields, hFields,
    Content.opened_closed, Content.fields, Entries.mapNamed_mapNamed, Entries.mapNamed_mapNamed,
    Entries.mapNamed_mapNamed]
  congr 3
  funext field d
  by_cases hLeads : ∃ property f, (types.find name).field? property = some f ∧ field = f.name
  · obtain ⟨property, f, hf, rfl⟩ := hLeads
    refine overlayField_absorbs hf (fun p hp v hv => ?_) _ (hLayers property f hf) d
    obtain ⟨w, hw, hAbsorbs⟩ := hParts p hp v hv
    exact ⟨w, hw, hAbsorbs f⟩
  · have hKept (entries : Entries Value) (e : Content) :
        overlayField types properties entries (types.find name) field e = e :=
      overlayField_of_ne fun p _ w f _ hf hName => hLeads ⟨p.1, f, hf, hName⟩
    rw [hKept data]

/-- What a value lays over storage is absorbed, through layers, by a value that has all its
declared properties. -/
theorem overlay_absorbs (s : Schema R) :
    ∀ v ∈ s.valueSet, ∀ w ∈ s.valueSet, Covers s v w → ∀ shape : Shape,
      fit types s shape.slot = .ok () → ∀ g, Layers R types shape g → ∀ c,
        overlay types s w shape (g (overlay types s v shape c)) =
          overlay types s w shape (g c) := by
  induction s using inductionOnParts with
  | object note properties additional required ih =>
      intro v hv w hw hCovers shape hFit g hg c
      by_cases hRecord : ∃ name, shape.slot = .record name
      · obtain ⟨name, hSlot⟩ := hRecord
        obtain ⟨data, rfl, hData, _⟩ := mem_valueSet_object.mp hv
        obtain ⟨other, rfl, hOther, _⟩ := mem_valueSet_object.mp hw
        rw [hSlot] at hFit
        have hFits := fitProperties_eq_ok_iff.mp (fit_object_eq_ok_iff.mp hFit).2
        refine overlay_absorbs_record hSlot (fun property hProperty x hx => ?_) hg c
        obtain ⟨y, hy, hPart⟩ := covers_object_iff.mp hCovers property hProperty x hx
        exact ⟨y, hy, fun f hf => ih property hProperty x (hData property hProperty x hx) y
          (hOther property hProperty y hy) hPart f.shape (hFits property hProperty f hf)⟩
      · exact overlay_absorbs_of_not_record hw hFit (fun name hSlot => hRecord ⟨name, hSlot⟩) _ _
  | leaf s hLeaf =>
      intro v _ w hw _ shape hFit g _ c
      refine overlay_absorbs_of_not_object ?_ hw hFit _ _
      rintro _ _ _ _ rfl
      exact hLeaf
  | _ =>
      intro v _ w hw _ shape hFit g _ c
      exact overlay_absorbs_of_not_object (by simp) hw hFit _ _

/-- Of two values that are mapped, the last decides what storage holds, if it has all the
declared properties of the first.  A value that is mapped again changes nothing, and what
cannot be mapped cannot be mapped the second time. -/
theorem mapInto_twice {s : Schema R} {shape : Shape} {c : Content} (hTypes : types.Standard)
    (hShape : shape.Standard) (hc : Content.HasShape types shape c) :
    (∀ v w : Value, v.WellFormed → w.WellFormed → Covers s v w →
        (s.mapInto types v shape c).1 = .ok () → (s.mapInto types w shape c).1 = .ok () →
          s.mapInto types w shape (s.mapInto types v shape c).2 = s.mapInto types w shape c) ∧
      ∀ v : Value, v.WellFormed →
        s.mapInto types v shape (s.mapInto types v shape c).2 = s.mapInto types v shape c := by
  have hLast (v w : Value) (hv : v.WellFormed) (hw : w.WellFormed) (hCovers : Covers s v w)
      (hFirst : (s.mapInto types v shape c).1 = .ok ())
      (hSecond : (s.mapInto types w shape c).1 = .ok ()) :
      s.mapInto types w shape (s.mapInto types v shape c).2 = s.mapInto types w shape c := by
    obtain ⟨hValidV, hFit⟩ := validate_and_fit_of_mapInto hTypes hShape hc hFirst
    obtain ⟨hValidW, _⟩ := validate_and_fit_of_mapInto hTypes hShape hc hSecond
    have hAbsorbs := overlay_absorbs s v (mem_valueSet_of_validate hValidV) w
      (mem_valueSet_of_validate hValidW) hCovers shape hFit _ .none c
    rw [mapInto_eq_ok_overlay hTypes hShape hc hv hValidV hFit,
      mapInto_eq_ok_overlay hTypes hShape (hasShape_overlay hTypes hShape hc hv hValidV hFit) hw
        hValidW hFit,
      mapInto_eq_ok_overlay hTypes hShape hc hw hValidW hFit, hAbsorbs]
  refine ⟨hLast, fun v hv => ?_⟩
  cases hResult : (s.mapInto types v shape c).1 with
  | ok => exact hLast v v hv hv (.refl s v) hResult hResult
  | error fault =>
      -- A failure leaves what the second attempt finds.
      cases hValid : s.validate v with
      | error report => rw [mapInto_of_invalid hValid, mapInto_of_invalid hValid]
      | ok =>
          cases hFit : fit types s shape.slot with
          | error m =>
              have hFault := mapInto_of_fit_eq_error hTypes hShape hc hValid hFit
              rw [hFault, hFault]
          | ok =>
              rw [mapInto_eq_ok_of_fit hTypes hShape hc hValid hFit] at hResult
              cases hResult

/-- A parcel of which only the weight is known. -/
def bareParcel : Value := .object [("weight", .ofInt64 9)]

theorem covers_bareParcel {heaviest : Int64} :
    Covers (parcel heaviest) bareParcel colouredParcel := by
  refine covers_object_iff.mpr ?_
  rw [List.forall_mem_cons, List.forall_mem_singleton]
  refine ⟨fun v hv => ?_, fun v _ => ⟨.ofInt64 4, rfl, covers_of_not_object (by simp)⟩⟩
  cases hv

/-- The weight of a parcel is forgotten once another is mapped. -/
theorem mapInto_twice_parcel :
    (parcel 200).mapInto .parcels colouredParcel (.optional (.record "parcel"))
        ((parcel 200).mapInto .parcels bareParcel (.optional (.record "parcel"))
          (.optional none)).2 =
      (.ok (), .optional (some (.record
        [("contents", .sequence [.record [("contents", .sequence []),
            ("label", .optional (some (.text "tea"))), ("weight", .int 0)]]),
          ("label", .optional none), ("weight", .int 4)]))) := by
  have hShape : Shape.Standard (.optional (.record "parcel")) := trivial
  have hBare : bareParcel.WellFormed := ⟨List.pairwise_singleton _ _, trivial, trivial⟩
  exact (mapInto_twice Catalog.standard_parcels hShape .absent).1 bareParcel colouredParcel hBare
    wellFormed_colouredParcel covers_bareParcel rfl rfl

end Schema
end DataContract
