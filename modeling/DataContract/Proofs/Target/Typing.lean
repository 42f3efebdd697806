import DataContract.Proofs.Entries
import DataContract.Target.Content
/-!
# Typed storage

Content has a shape when it is what storage of that shape can hold.  Shapes are standard
when nothing in them is veiled and every dictionary asks for names as they are; kinds of
records are standard when their tables lead to fields of their own, whose first contents
have their shapes.

**Results.**
* `hasShape_fresh`: new storage of a standard shape has the shape.
* `HasShape.opened`, `HasShape.closed`: to open and close a slot keeps the shape.
* `inspected_eq`: a look that leaves slots as they are leaves storage as it is.
-/

namespace DataContract

namespace Shape

/-- No part is veiled, and dictionaries ask for names as they are. -/
def Standard : Shape → Prop
  | .optional inner => inner.Standard
  | .sequence element => element.Standard
  | .dictionary suffix element => suffix = "" ∧ element.Standard
  | .veiled _ => False
  | _ => True

theorem Standard.slot {s : Shape} (h : s.Standard) : s.slot.Standard := by
  induction s with
  | optional inner ih => exact ih h
  | veiled inner ih => exact h.elim
  | _ => exact h

/-- A slot is not optional any more. -/
theorem slot_ne_optional (s inner : Shape) : s.slot ≠ .optional inner := by
  induction s with
  | optional s ih => exact ih
  | veiled s ih => exact ih
  | _ => simp [slot]

theorem slot_slot (s : Shape) : s.slot.slot = s.slot := by
  induction s with
  | optional s ih => exact ih
  | veiled s ih => exact ih
  | _ => rfl

end Shape

namespace Content

/-- Storage of a shape can hold the content. -/
inductive HasShape (types : Catalog) : Shape → Content → Prop
  | int {f : IntFormat} {n : Int} (inRange : f.holds n = true) : HasShape types (.int f) (.int n)
  | float {f : FloatFormat} {x : Double} : HasShape types (.float f) (.float x)
  | bool {b : Bool} : HasShape types .bool (.bool b)
  | text {s : String} : HasShape types .text (.text s)
  | uri {u : Uri} : HasShape types .uri (.uri u)
  | optionalUri {u : Option Uri} : HasShape types .optionalUri (.optionalUri u)
  | zonedMoment {t : ZonedMoment} : HasShape types .zonedMoment (.zonedMoment t)
  | moment {t : Moment} : HasShape types .moment (.moment t)
  | duration {d : Duration} : HasShape types .duration (.duration d)
  | any {v : Value} : HasShape types .any (.any v)
  | absent {inner : Shape} : HasShape types (.optional inner) (.optional none)
  | present {inner : Shape} {c : Content} (inside : HasShape types inner c) :
      HasShape types (.optional inner) (.optional (some c))
  | sequence {element : Shape} {items : List Content}
      (parts : ∀ c ∈ items, HasShape types element c) :
      HasShape types (.sequence element) (.sequence items)
  | dictionary {suffix : String} {element : Shape} {entries : Entries Content}
      (sorted : Entries.Sorted entries)
      (parts : ∀ entry ∈ entries, HasShape types element entry.2) :
      HasShape types (.dictionary suffix element) (.dictionary entries)
  | record {name : String} {fields : Entries Content}
      (sorted : Entries.Sorted fields)
      (names : ∀ field, field ∈ Entries.names fields ↔
        field ∈ (types.find name).fields.map Field.name)
      (parts : ∀ f ∈ (types.find name).fields, ∀ c,
        Entries.get? fields f.name = some c → HasShape types f.shape c) :
      HasShape types (.record name) (.record fields)

/-- The fields of a record stand in order, are those of its kind and have their shapes. -/
structure FieldsHaveShape (types : Catalog) (t : RecordType) (fields : Entries Content) :
    Prop where
  sorted : Entries.Sorted fields
  names : ∀ field, field ∈ Entries.names fields ↔ field ∈ t.fields.map Field.name
  parts : ∀ f ∈ t.fields, ∀ c, Entries.get? fields f.name = some c → HasShape types f.shape c

end Content

/-- The table leads to fields of the record, whose names differ, whose shapes are
standard and whose first contents have their shapes. -/
structure RecordType.Standard (types : Catalog) (t : RecordType) : Prop where
  distinct : (t.fields.map Field.name).Nodup
  bound : ∀ entry ∈ t.table, ∃ f ∈ t.fields, entry.2 = some f.name
  shapes : ∀ f ∈ t.fields, f.shape.Standard
  initial : ∀ f ∈ t.fields, Content.HasShape types f.shape f.initial

/-- Every kind of records in the catalog is standard. -/
def Catalog.Standard (types : Catalog) : Prop :=
  ∀ entry ∈ types, entry.2.Standard types

theorem RecordType.standard_empty (types : Catalog) : RecordType.empty.Standard types where
  distinct := List.nodup_nil
  bound := by simp [RecordType.empty]
  shapes := by simp [RecordType.empty]
  initial := by simp [RecordType.empty]

theorem Catalog.Standard.find {types : Catalog} (h : types.Standard) (name : String) :
    (types.find name).Standard types := by
  unfold Catalog.find
  cases hLookup : types.lookup name with
  | none => exact RecordType.standard_empty types
  | some t => exact h (name, t) (Entries.mem_of_get? hLookup)

namespace RecordType

/-- The table leads only to fields of the record. -/
theorem mem_fields_of_field? {t : RecordType} {property : String} {f : Field}
    (h : t.field? property = some f) :
    f ∈ t.fields := by
  obtain ⟨name, _, hFind⟩ := Option.bind_eq_some_iff.mp h
  exact List.mem_of_find?_eq_some hFind

/-- The table leads to the first field of a name. -/
theorem field?_inj {t : RecordType} {p q : String} {f g : Field} (hf : t.field? p = some f)
    (hg : t.field? q = some g) (hName : f.name = g.name) :
    f = g := by
  have hFound {property : String} {h : Field} (hField : t.field? property = some h) :
      (t.fields.find? fun e => e.name == h.name) = some h := by
    obtain ⟨name, _, hFind⟩ := Option.bind_eq_some_iff.mp hField
    have hSame : h.name = name := by simpa using List.find?_some hFind
    rw [hSame]
    exact hFind
  have hBoth := hFound hf
  rw [hName, hFound hg] at hBoth
  exact (Option.some.inj hBoth).symm

/-- Every name that a standard table lists leads to a field. -/
theorem Standard.exists_field? {types : Catalog} {t : RecordType} (h : t.Standard types)
    {property : String} (hName : property ∈ t.names) :
    ∃ f, t.field? property = some f := by
  have hTable : property ∈ Entries.names t.table := hName
  obtain ⟨target, hLookup⟩ := Entries.exists_get?_of_mem_names hTable
  obtain ⟨f, hf, rfl⟩ := h.bound _ (Entries.mem_of_get? hLookup)
  have hSome : (t.fields.find? fun g => g.name == f.name).isSome = true := by
    rw [List.find?_isSome]
    exact ⟨f, hf, beq_self_eq_true _⟩
  obtain ⟨g, hg⟩ := Option.isSome_iff_exists.mp hSome
  refine ⟨g, ?_⟩
  unfold field?
  rw [show t.table.lookup property = some (some f.name) from hLookup]
  exact hg

/-- Fields of one name are one field. -/
theorem Standard.eq_of_name_eq {types : Catalog} {t : RecordType} (h : t.Standard types)
    {f g : Field} (hf : f ∈ t.fields) (hg : g ∈ t.fields) (hName : f.name = g.name) :
    f = g :=
  List.inj_on_of_nodup_map h.distinct hf hg hName

end RecordType

namespace Content

variable {types : Catalog}

theorem hasShape_record_iff {name : String} {c : Content} :
    HasShape types (.record name) c ↔
      ∃ fields, c = .record fields ∧ FieldsHaveShape types (types.find name) fields := by
  constructor
  · intro h
    cases h with
    | record sorted names parts => exact ⟨_, rfl, sorted, names, parts⟩
  · rintro ⟨fields, rfl, h⟩
    exact .record h.sorted h.names h.parts

namespace FieldsHaveShape

variable {t : RecordType} {fields : Entries Content}

/-- Every field is there, and has its shape. -/
theorem exists_get? (h : FieldsHaveShape types t fields) {f : Field} (hf : f ∈ t.fields) :
    ∃ c, fields.get? f.name = some c ∧ HasShape types f.shape c := by
  have hName : f.name ∈ fields.names := (h.names f.name).mpr (List.mem_map_of_mem hf)
  obtain ⟨c, hc⟩ := Entries.exists_get?_of_mem_names hName
  exact ⟨c, hc, h.parts f hf c hc⟩

theorem hasShape_ofField (h : FieldsHaveShape types t fields) {f : Field} (hf : f ∈ t.fields) :
    HasShape types f.shape (ofField f fields) := by
  obtain ⟨c, hGet, hc⟩ := h.exists_get? hf
  rw [ofField, hGet]
  exact hc

/-- To write a field back as it was changes nothing. -/
theorem insert_ofField (h : FieldsHaveShape types t fields) {f : Field} (hf : f ∈ t.fields) :
    fields.insert f.name (ofField f fields) = fields := by
  obtain ⟨c, hGet, _⟩ := h.exists_get? hf
  rw [ofField, hGet]
  exact h.sorted.insert_of_get? hGet

/-- To write a field with content of its shape keeps the shapes of all fields. -/
theorem insert (h : FieldsHaveShape types t fields) (hStandard : t.Standard types) {f : Field}
    (hf : f ∈ t.fields) {c : Content} (hc : HasShape types f.shape c) :
    FieldsHaveShape types t (fields.insert f.name c) where
  sorted := h.sorted.insert f.name c
  names field := by
    rw [Entries.mem_names_insert, h.names]
    constructor
    · rintro (rfl | hMem)
      · exact List.mem_map_of_mem hf
      · exact hMem
    · exact Or.inr
  parts g hg d hGet := by
    rw [Entries.get?_insert] at hGet
    by_cases hName : g.name = f.name
    · rw [if_pos hName] at hGet
      cases hGet
      rw [hStandard.eq_of_name_eq hg hf hName]
      exact hc
    · rw [if_neg hName] at hGet
      exact h.parts g hg d hGet

end FieldsHaveShape

/-- The first content of a standard record has the shapes of its fields. -/
theorem fieldsHaveShape_initial {t : RecordType} (h : t.Standard types) :
    FieldsHaveShape types t (Entries.ofList (t.fields.map fun f => (f.name, f.initial))) := by
  have hNames : (t.fields.map fun f => (f.name, f.initial)).map Prod.fst =
      t.fields.map Field.name := by
    rw [List.map_map]
    rfl
  refine ⟨Entries.sorted_ofList _, fun field => ?_, fun f hf c hGet => ?_⟩
  · rw [Entries.mem_names_ofList, hNames]
  · have hInitial := Entries.get?_ofList (hNames ▸ h.distinct)
      (List.mem_map_of_mem (f := fun f : Field => (f.name, f.initial)) hf)
    obtain rfl : f.initial = c := Option.some.inj (hInitial.symm.trans hGet)
    exact h.initial f hf

theorem hasShape_fresh (hTypes : types.Standard) {shape : Shape} (hShape : shape.Standard) :
    HasShape types shape (fresh types shape) := by
  cases shape with
  | int f => exact .int (by cases f <;> decide)
  | float f => exact .float
  | bool => exact .bool
  | text => exact .text
  | uri => exact .uri
  | optionalUri => exact .optionalUri
  | zonedMoment => exact .zonedMoment
  | moment => exact .moment
  | duration => exact .duration
  | any => exact .any
  | optional inner => exact .absent
  | sequence element => exact .sequence (by simp)
  | dictionary suffix element => exact .dictionary List.Pairwise.nil (by simp)
  | veiled inner => exact hShape.elim
  | record name =>
      exact hasShape_record_iff.mpr ⟨_, rfl, fieldsHaveShape_initial (hTypes.find name)⟩

/-- What is inside an opened slot has the shape of the slot. -/
theorem HasShape.opened (hTypes : types.Standard) {shape : Shape} (hShape : shape.Standard) :
    ∀ {c : Content}, HasShape types shape c →
      HasShape types shape.slot (opened types shape c) := by
  induction shape with
  | optional inner ih =>
      intro c h
      cases h with
      | absent => exact ih hShape (hasShape_fresh hTypes hShape)
      | present inside => exact ih hShape inside
  | veiled inner ih => exact hShape.elim
  | _ => exact fun h => h

/-- A closed slot has the shape of the storage. -/
theorem HasShape.closed {shape : Shape} (hShape : shape.Standard) :
    ∀ {c : Content}, HasShape types shape.slot c →
      HasShape types shape (closed shape c) := by
  induction shape with
  | optional inner ih => exact fun h => .present (ih hShape h)
  | veiled inner ih => exact hShape.elim
  | _ => exact fun h => h

/-- What is put into a slot is found there. -/
@[simp] theorem opened_closed (shape : Shape) (c : Content) :
    opened types shape (closed shape c) = c := by
  induction shape with
  | optional inner ih => exact ih
  | veiled inner ih => exact ih
  | _ => rfl

/-- A look that leaves slots as they are leaves storage as it is, present or not. -/
theorem inspected_eq (hTypes : types.Standard) {α : Type} {look : Shape → Content → α × Content}
    {r : α} {shape : Shape} (hShape : shape.Standard)
    (hLook : ∀ c, HasShape types shape.slot c → look shape.slot c = (r, c)) :
    ∀ {c : Content}, HasShape types shape c → inspected types look shape c = (r, c) := by
  induction shape with
  | optional inner ih =>
      intro c h
      cases h with
      | absent => rw [inspected, ih hShape hLook (hasShape_fresh hTypes hShape)]; simp
      | present inside => rw [inspected, ih hShape hLook inside]
  | veiled inner ih => exact hShape.elim
  | _ =>
      intro c h
      rw [inspected]
      · exact hLook c h
      all_goals simp

end Content

/-- Records that hold records of their own kind: a parcel has a weight, may have a label
and has other parcels for its contents. -/
def Catalog.parcels : Catalog :=
  [("parcel",
    { fields :=
        [⟨"weight", .int .uint8, .int 0⟩, ⟨"label", .optional .text, .optional none⟩,
          ⟨"contents", .sequence (.record "parcel"), .sequence []⟩]
      table :=
        [("weight", some "weight"), ("label", some "label"), ("contents", some "contents")] })]

theorem Catalog.standard_parcels : Catalog.parcels.Standard := by
  intro entry hEntry
  obtain rfl := List.mem_singleton.mp hEntry
  have hInitial : Content.HasShape Catalog.parcels (.int .uint8) (.int 0) := .int (by decide)
  exact
    { distinct := by decide
      bound := by decide
      shapes := by simp [Shape.Standard]
      initial := by simp [hInitial, Content.HasShape.absent, Content.HasShape.sequence] }

namespace Content

/-- What a parcel of weight one holds. -/
def parcel (label : Option String) (contents : List Content) : Content :=
  .record [("contents", .sequence contents), ("label", .optional (label.map .text)),
    ("weight", .int 1)]

theorem hasShape_parcel {label : Option String} {contents : List Content}
    (hContents : ∀ c ∈ contents, HasShape .parcels (.record "parcel") c) :
    HasShape .parcels (.record "parcel") (parcel label contents) := by
  have hFields : (Catalog.parcels.find "parcel").fields =
      [⟨"weight", .int .uint8, .int 0⟩, ⟨"label", .optional .text, .optional none⟩,
        ⟨"contents", .sequence (.record "parcel"), .sequence []⟩] := rfl
  refine .record ?_ ?_ ?_
  · rw [Entries.sorted_iff_pairwise_names]
    exact show List.Pairwise (· < ·) ["contents", "label", "weight"] by decide
  · intro field
    rw [hFields]
    simp only [Entries.names, List.map_cons, List.map_nil, List.mem_cons, List.not_mem_nil]
    tauto
  · simp only [hFields, List.forall_mem_cons]
    refine ⟨?_, ?_, ?_, by simp⟩
    · rintro c ⟨⟩
      exact .int (by decide)
    · rintro c ⟨⟩
      cases label with
      | none => exact .absent
      | some text => exact .present .text
    · rintro c ⟨⟩
      exact .sequence hContents

end Content
end DataContract
