import DataContract.Proofs.Target.Typing
/-!
# Veiled storage

Storage may hide any of its parts from a look that is taken ahead: the whole, the fields of
records, the parts of containers, what is inside when it is optional.  It holds the same
contents as storage in which nothing is hidden, begins with the same, and is opened and
closed like it, since a veil falls as soon as a slot is asked for.

A kind of records whose fields are veiled is a kind of its own, with the table and the field
names of the one that is not.  One kind may be veiled in several ways.

**Results.**
* `VeiledAs.fresh_eq`, `VeiledAs.opened_eq`, `VeiledAs.closed_eq`: veils change no contents.
* `RecordType.VeiledAs.field?_cases`: names lead to the same fields.
* `VeiledAs.slot`: a slot has no veil left, whatever is veiled inside.
-/

namespace DataContract

/-- Storage without parts. -/
def Shape.IsScalar : Shape → Prop
  | .optional _ | .sequence _ | .dictionary .. | .veiled _ | .record _ => False
  | _ => True

/-- The second shape is the first one with some parts veiled, where `kinds` says which kinds
of records are veiled versions of which. -/
inductive Shape.VeiledAs (kinds : String → String → Prop) : Shape → Shape → Prop
  | scalar {shape : Shape} (h : shape.IsScalar) : VeiledAs kinds shape shape
  | optional {inner inner' : Shape} (inside : VeiledAs kinds inner inner') :
      VeiledAs kinds (.optional inner) (.optional inner')
  | sequence {element element' : Shape} (parts : VeiledAs kinds element element') :
      VeiledAs kinds (.sequence element) (.sequence element')
  | dictionary {suffix : String} {element element' : Shape}
      (parts : VeiledAs kinds element element') :
      VeiledAs kinds (.dictionary suffix element) (.dictionary suffix element')
  | record {name name' : String} (h : kinds name name') :
      VeiledAs kinds (.record name) (.record name')
  | veiled {shape inner' : Shape} (inside : VeiledAs kinds shape inner') :
      VeiledAs kinds shape (.veiled inner')

/-- The same of slots, which themselves have no veil any more. -/
inductive Shape.SlotVeiledAs (kinds : String → String → Prop) : Shape → Shape → Prop
  | scalar {shape : Shape} (h : shape.IsScalar) : SlotVeiledAs kinds shape shape
  | sequence {element element' : Shape} (parts : element.VeiledAs kinds element') :
      SlotVeiledAs kinds (.sequence element) (.sequence element')
  | dictionary {suffix : String} {element element' : Shape}
      (parts : element.VeiledAs kinds element') :
      SlotVeiledAs kinds (.dictionary suffix element) (.dictionary suffix element')
  | record {name name' : String} (h : kinds name name') :
      SlotVeiledAs kinds (.record name) (.record name')

/-- A field whose storage is veiled. -/
structure Field.VeiledAs (kinds : String → String → Prop) (f f' : Field) : Prop where
  name : f'.name = f.name
  initial : f'.initial = f.initial
  shape : f.shape.VeiledAs kinds f'.shape

/-- A kind of records with veils in its fields. -/
structure RecordType.VeiledAs (kinds : String → String → Prop) (t t' : RecordType) : Prop where
  table : t'.table = t.table
  fields : List.Forall₂ (Field.VeiledAs kinds) t.fields t'.fields

/-- The related kinds of two catalogs differ in veils only. -/
def Catalog.VeiledAs (kinds : String → String → Prop) (types types' : Catalog) : Prop :=
  ∀ name name', kinds name name' → (types.find name).VeiledAs kinds (types'.find name')

variable {kinds : String → String → Prop}

namespace RecordType

variable {t t' : RecordType}

theorem VeiledAs.names_eq (h : t.VeiledAs kinds t') : t'.names = t.names := by
  rw [names, names, h.table]

/-- Veiled fields are found where the others are. -/
theorem rel_find? {name : String} {fields fields' : List Field}
    (h : List.Forall₂ (Field.VeiledAs kinds) fields fields') :
    Option.Rel (Field.VeiledAs kinds) (fields.find? fun f => f.name == name)
      (fields'.find? fun f => f.name == name) := by
  induction h with
  | nil => exact .none
  | @cons f f' fields fields' hField hFields ih =>
      rw [List.find?_cons, List.find?_cons, hField.name]
      cases f.name == name with
      | true => exact .some hField
      | false => exact ih

/-- A name leads to the same field, veiled or not. -/
theorem VeiledAs.field?_cases (h : t.VeiledAs kinds t') (property : String) :
    (t.field? property = none ∧ t'.field? property = none) ∨
      ∃ f f', t.field? property = some f ∧ t'.field? property = some f' ∧
        f.VeiledAs kinds f' := by
  have hRel : Option.Rel (Field.VeiledAs kinds) (t.field? property) (t'.field? property) := by
    unfold field?
    rw [h.table]
    cases (t.table.lookup property).join with
    | none => exact .none
    | some name => exact rel_find? h.fields
  generalize t.field? property = found, t'.field? property = found' at hRel
  cases hRel with
  | none => exact .inl ⟨rfl, rfl⟩
  | some hField => exact .inr ⟨_, _, rfl, rfl, hField⟩

theorem VeiledAs.initial_eq (h : t.VeiledAs kinds t') : t'.initial = t.initial := by
  have hPairs : t'.fields.map (fun f => (f.name, f.initial)) =
      t.fields.map fun f => (f.name, f.initial) := by
    have hFields := h.fields
    generalize t.fields = fields, t'.fields = fields' at hFields
    induction hFields with
    | nil => rfl
    | cons hField hFields ih =>
        rw [List.map_cons, List.map_cons, ih, hField.name, hField.initial]
  rw [initial, initial, hPairs]

end RecordType

theorem Field.VeiledAs.ofField_eq {f f' : Field} (h : f.VeiledAs kinds f')
    (fields : Entries Content) :
    Content.ofField f' fields = Content.ofField f fields := by
  rw [Content.ofField, Content.ofField, h.name, h.initial]

namespace Shape.VeiledAs

variable {types types' : Catalog} {shape shape' : Shape}

/-- New storage is the same. -/
theorem fresh_eq (hTypes : types.VeiledAs kinds types') (h : shape.VeiledAs kinds shape') :
    Content.fresh types' shape' = Content.fresh types shape := by
  induction h with
  | @scalar shape hScalar => cases shape <;> first | rfl | exact hScalar.elim
  | optional inside ih => rfl
  | sequence parts ih => rfl
  | dictionary parts ih => rfl
  | @record name name' hKinds =>
      rw [Content.fresh, Content.fresh, (hTypes name name' hKinds).initial_eq]
  | veiled inside ih => rw [Content.fresh, ih]

theorem opened_eq (hTypes : types.VeiledAs kinds types') (h : shape.VeiledAs kinds shape') :
    ∀ c : Content, c.opened types' shape' = c.opened types shape := by
  induction h with
  | @scalar shape hScalar =>
      intro c
      cases shape <;> first | rfl | exact hScalar.elim
  | optional inside ih =>
      intro c
      rw [Content.opened.eq_def, Content.opened.eq_def types]
      cases c with
      | optional inner => cases inner <;> simp only [ih, inside.fresh_eq hTypes]
      | _ => simp only [ih, inside.fresh_eq hTypes]
  | sequence parts ih => exact fun c => rfl
  | dictionary parts ih => exact fun c => rfl
  | record hKinds => exact fun c => rfl
  | veiled inside ih =>
      intro c
      rw [Content.opened, ih]

theorem closed_eq (h : shape.VeiledAs kinds shape') :
    ∀ c : Content, Content.closed shape' c = Content.closed shape c := by
  induction h with
  | scalar hScalar => exact fun c => rfl
  | optional inside ih =>
      intro c
      rw [Content.closed, Content.closed, ih]
  | sequence parts ih => exact fun c => rfl
  | dictionary parts ih => exact fun c => rfl
  | record hKinds => exact fun c => rfl
  | veiled inside ih =>
      intro c
      rw [Content.closed, ih]

theorem slot_of_isScalar (h : shape.IsScalar) : shape.slot = shape := by
  cases shape <;> first | rfl | exact h.elim

/-- A slot is a scalar, or a container or a record whose parts may be veiled. -/
theorem slot (h : shape.VeiledAs kinds shape') : shape.slot.SlotVeiledAs kinds shape'.slot := by
  induction h with
  | scalar hScalar =>
      rw [slot_of_isScalar hScalar]
      exact .scalar hScalar
  | optional inside ih => exact ih
  | sequence parts ih => exact .sequence parts
  | dictionary parts ih => exact .dictionary parts
  | record hKinds => exact .record hKinds
  | veiled inside ih => exact ih

end Shape.VeiledAs

/-- Parcels with a veil over the weight, over the text of a label and over each parcel in
the contents. -/
def Catalog.veiledParcels : Catalog :=
  [("parcel",
    { fields :=
        [⟨"weight", .veiled (.int .uint8), .int 0⟩,
          ⟨"label", .optional (.veiled .text), .optional none⟩,
          ⟨"contents", .sequence (.veiled (.record "parcel")), .sequence []⟩]
      table :=
        [("weight", some "weight"), ("label", some "label"), ("contents", some "contents")] })]

theorem Catalog.veiledAs_veiledParcels :
    Catalog.VeiledAs (fun name name' => name = "parcel" ∧ name' = "parcel") .parcels
      .veiledParcels := by
  rintro name name' ⟨rfl, rfl⟩
  refine ⟨rfl, ?_⟩
  exact .cons ⟨rfl, rfl, .veiled (.scalar trivial)⟩
    (.cons ⟨rfl, rfl, .optional (.veiled (.scalar trivial))⟩
      (.cons ⟨rfl, rfl, .sequence (.veiled (.record ⟨rfl, rfl⟩))⟩ .nil))

end DataContract
