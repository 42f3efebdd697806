import DataContract.Mapping.Storing
import DataContract.Proofs.Schema.Induction
import DataContract.Proofs.Target.Typing
import DataContract.Proofs.Value.Sameness
/-!
# Reading storage back

Storage is read back along a schema as a value: scalars as they are, what is optional when
it is present, sequences item by item, dictionaries entry by entry.  A record gives the
declared properties that a value holds at its place, each from the field that its name
leads to.  A value without the names that no record takes is what one can hope to read.

**Results.**
* `exists_readItems`, `exists_readEntries`, `exists_readProperties`: containers and records
  can be read when their parts can, and have the same content when their parts have.
-/

namespace DataContract

variable {R : Readers}

/-- What is inside optional storage, if it is present. -/
def Content.inside : Shape → Content → Option Content
  | .optional inner, .optional (some c) => inside inner c
  | .optional _, _ => none
  | .veiled inner, c => inside inner c
  | _, c => some c

@[simp] theorem Content.inside_closed (shape : Shape) (c : Content) :
    inside shape (closed shape c) = some c := by
  induction shape with
  | optional inner ih => exact ih
  | veiled inner ih => exact ih
  | _ => rfl

namespace Schema

/-- A scalar, read as a value of a schema. -/
def readLeaf : Schema R → Content → Option Value
  | .integer .., .int n => (Number.ofInt? n).map .number
  | .boolean _, .bool b => some (.bool b)
  | .string .., .text t => some (.string t)
  | .enumeration .., .text t => some (.string t)
  | .uri _, .text t => some (.string t)
  | .dateTime _, .text t => some (.string t)
  | _, _ => none

/-- A part of storage, read from inside. -/
def readPart (read : Shape → Value → Content → Option Value) (element : Shape) (v : Value)
    (c : Content) : Option Value :=
  (c.inside element).bind (read element.slot v)

/-- The items of a sequence, each in the light of the value at its place. -/
def readItems (read : Value → Content → Option Value) :
    List Value → List Content → Option (List Value)
  | _, [] => some []
  | vs, c :: cs =>
      match read (vs.headD .null) c, readItems read vs.tail cs with
      | some w, some ws => some (w :: ws)
      | _, _ => none

/-- The entries of a dictionary, each in the light of the value under its name. -/
def readEntries (read : Value → Content → Option Value) (data : Entries Value) :
    Entries Content → Option (Entries Value)
  | [] => some []
  | (name, c) :: entries =>
      match read ((data.get? name).getD .null) c, readEntries read data entries with
      | some w, some ws => some ((name, w) :: ws)
      | _, _ => none

mutual

/-- What a slot holds, read as a value of a schema in the light of a value `v`: records
give the properties that `v` has. -/
def readSlot (types : Catalog) : Schema R → Shape → Value → Content → Option Value
  | _, .any, _, c =>
      match c with
      | .any w => some w
      | _ => none
  | .array _ items _, shape, v, c =>
      match shape, c with
      | .sequence element, .sequence cs =>
          (readItems (readPart (readSlot types items) element) (v.items?.getD []) cs).map .array
      | _, _ => none
  | .map _ values, shape, v, c =>
      match shape, c with
      | .dictionary _ element, .dictionary cs =>
          (readEntries (readPart (readSlot types values) element) (v.entries?.getD []) cs).map
            .object
      | _, _ => none
  | .object _ properties _ _, shape, v, c =>
      match shape, c with
      | .record name, .record fields =>
          (readProperties types properties (types.find name) (v.entries?.getD []) fields).map
            .object
      | _, _ => none
  | s, _, _, c => readLeaf s c

/-- The properties that are present, each read from its field. -/
def readProperties (types : Catalog) :
    List (String × Schema R) → RecordType → Entries Value → Entries Content →
      Option (Entries Value)
  | [], _, _, _ => some []
  | (name, s) :: properties, t, data, fields =>
      match data.get? name with
      | none => readProperties types properties t data fields
      | some v =>
          match t.field? name with
          | none => none
          | some f =>
              match (fields.get? f.name).bind (readPart (readSlot types s) f.shape v),
                  readProperties types properties t data fields with
              | some w, some ws => some ((name, w) :: ws)
              | _, _ => none

end

/-- What storage holds, read as a value of a schema in the light of a value. -/
def readBack (types : Catalog) (s : Schema R) (v : Value) (shape : Shape) (c : Content) :
    Option Value :=
  readPart (readSlot types s) shape v c

mutual

/-- A value without the undeclared names of the objects that are put into records. -/
def kept (types : Catalog) : Schema R → Shape → Value → Value
  | _, .any, v => v
  | .array _ items _, shape, v =>
      match shape, v with
      | .sequence element, .array vs => .array (vs.map (kept types items element.slot))
      | _, v => v
  | .map _ values, shape, v =>
      match shape, v with
      | .dictionary _ element, .object entries =>
          .object (Entries.mapValues (kept types values element.slot) entries)
      | _, v => v
  | .object _ properties _ _, shape, v =>
      match shape, v with
      | .record name, .object data =>
          .object (Entries.chooseValues (keptProperty types properties (types.find name)) data)
      | _, v => v
  | _, _, v => v

/-- The value of a property, unless its name is not declared. -/
def keptProperty (types : Catalog) :
    List (String × Schema R) → RecordType → String → Value → Option Value
  | [], _, _, _ => none
  | (declared, s) :: properties, t, name, v =>
      if name = declared then
        match t.field? declared with
        | some f => some (kept types s f.shape.slot v)
        | none => some v
      else keptProperty types properties t name v

end

/-- Different names lead to different fields. -/
def SeparateFields (t : RecordType) (names : List String) : Prop :=
  ∀ p ∈ names, ∀ q ∈ names, ∀ f, t.field? p = some f → t.field? q = some f → p = q

theorem separateFields_of_nodup {t : RecordType} {names : List String}
    (h : (names.map fun name => (t.field? name).map Field.name).Nodup) :
    SeparateFields t names := by
  intro p hp q hq f hpf hqf
  refine List.inj_on_of_nodup_map h hp hq ?_
  simp only [hpf, hqf]

/-- Storage keeps all there is to a value: integers, truth values, texts, arrays, maps and
objects everywhere, whose properties have fields of their own in a record; addresses and
timestamps as texts; and every value in storage for any value at all. -/
inductive Lossless (types : Catalog) : Schema R → Shape → Prop
  | any {s : Schema R} : Lossless types s .any
  | integer {note : Annotation} {minimum maximum : Int64} {shape : Shape} :
      Lossless types (.integer note minimum maximum) shape
  | boolean {note : Annotation} {shape : Shape} : Lossless types (.boolean note) shape
  | string {note : Annotation} {minLength maxLength : UInt64} {pattern : Option (Pattern R)}
      {shape : Shape} :
      Lossless types (.string note minLength maxLength pattern) shape
  | enumeration {note : Annotation} {options : List String} {nonempty : options ≠ []}
      {shape : Shape} :
      Lossless types (.enumeration note options nonempty) shape
  | uri {note : Annotation} : Lossless types (.uri note) .text
  | dateTime {note : Annotation} : Lossless types (.dateTime note) .text
  | array {note : Annotation} {items : Schema R} {unique : Bool} {shape : Shape}
      (parts : ∀ element, shape = .sequence element → Lossless types items element.slot) :
      Lossless types (.array note items unique) shape
  | map {note : Annotation} {values : Schema R} {shape : Shape}
      (parts : ∀ suffix element, shape = .dictionary suffix element →
        Lossless types values element.slot) :
      Lossless types (.map note values) shape
  | object {note : Annotation} {properties : List (String × Schema R)} {additional : Bool}
      {required : List String} {shape : Shape}
      (separate : ∀ name, shape = .record name →
        SeparateFields (types.find name) (Entries.names properties))
      (parts : ∀ name, shape = .record name → ∀ property ∈ properties, ∀ f,
        (types.find name).field? property.1 = some f → Lossless types property.2 f.shape.slot) :
      Lossless types (.object note properties additional required) shape

section Parts

variable {types : Catalog} {s : Schema R} {v : Value} {shape : Shape} {c : Content}

@[simp] theorem readSlot_any {w : Value} : readSlot types s .any v (.any w) = some w := by
  cases s <;> rfl

@[simp] theorem kept_any : kept types s .any v = v := by
  cases s <;> rfl

theorem readSlot_eq_readLeaf (hLeaf : s.IsLeaf) (hShape : shape ≠ .any) :
    readSlot types s shape v c = readLeaf s c := by
  cases s <;> first | exact hLeaf.elim | (cases shape <;> first | rfl | exact absurd rfl hShape)

theorem kept_of_isLeaf (hLeaf : s.IsLeaf) : kept types s shape v = v := by
  cases s <;> first | exact hLeaf.elim | (cases shape <;> rfl)

/-- What was put into the slot of a part is read from the part. -/
theorem readPart_throughSlot {read : Shape → Value → Content → Option Value}
    {use : Shape → Content → Stored} {element : Shape} :
    readPart read element v (Content.throughSlot types use element c).2 =
      read element.slot v (use element.slot (c.opened types element)).2 := by
  simp only [readPart, Content.throughSlot, Content.inside_closed, Option.bind_some]

/-- A sequence is read when each item is, and has the same content when each item has. -/
theorem exists_readItems {read : Value → Content → Option Value} {keep : Value → Value}
    {vs : List Value} {cs : List Content}
    (h : List.Forall₂ (fun v c => ∃ w, read v c = some w ∧ w.same (keep v) = true) vs cs) :
    ∃ ws, readItems read vs cs = some ws ∧
      (Value.array ws).same (.array (vs.map keep)) = true := by
  induction h with
  | nil => exact ⟨[], rfl, rfl⟩
  | cons hItem hItems ih =>
      obtain ⟨w, hRead, hSame⟩ := hItem
      obtain ⟨ws, hReads, hSames⟩ := ih
      refine ⟨w :: ws, by simp [readItems, hRead, hReads], ?_⟩
      rw [Value.same] at hSames ⊢
      rw [List.map_cons, Value.sameItems, hSame, hSames]
      rfl

/-- A dictionary is read when each entry is, with the same names. -/
theorem exists_readEntries {read : Value → Content → Option Value} {data : Entries Value}
    {P : String → Value → Prop} {entries : Entries Content}
    (h : ∀ entry ∈ entries, ∃ w,
      read ((data.get? entry.1).getD .null) entry.2 = some w ∧ P entry.1 w) :
    ∃ ws, readEntries read data entries = some ws ∧ Entries.names ws = entries.names ∧
      ∀ entry ∈ ws, P entry.1 entry.2 := by
  induction entries with
  | nil => exact ⟨[], rfl, rfl, by simp⟩
  | cons entry entries ih =>
      obtain ⟨name, c⟩ := entry
      rw [List.forall_mem_cons] at h
      obtain ⟨⟨w, hRead, hw⟩, hRest⟩ := h
      obtain ⟨ws, hReads, hNames, hws⟩ := ih hRest
      refine ⟨(name, w) :: ws, by simp [readEntries, hRead, hReads], ?_, ?_⟩
      · rw [Entries.names_cons, Entries.names_cons, hNames]
      · exact List.forall_mem_cons.mpr ⟨hw, hws⟩

/-- A record is read when the field of each present property is, with the names of the
present properties. -/
theorem exists_readProperties {t : RecordType} {data : Entries Value}
    {fields : Entries Content} {P : String → Value → Prop} {properties : List (String × Schema R)}
    (h : ∀ property ∈ properties, ∀ v, data.get? property.1 = some v →
      ∃ f c w, t.field? property.1 = some f ∧ fields.get? f.name = some c ∧
        readPart (readSlot types property.2) f.shape v c = some w ∧ P property.1 w) :
    ∃ ws, readProperties types properties t data fields = some ws ∧
      Entries.names ws = (Entries.names properties).filter data.has ∧
      ∀ entry ∈ ws, P entry.1 entry.2 := by
  induction properties with
  | nil => exact ⟨[], rfl, rfl, by simp⟩
  | cons property properties ih =>
      obtain ⟨name, s⟩ := property
      rw [List.forall_mem_cons] at h
      obtain ⟨hFirst, hRest⟩ := h
      obtain ⟨ws, hReads, hNames, hws⟩ := ih hRest
      rw [readProperties, Entries.names_cons]
      cases hValue : data.get? name with
      | none =>
          refine ⟨ws, hReads, ?_, hws⟩
          rw [hNames, List.filter_cons_of_neg]
          simp [Entries.has, hValue]
      | some v =>
          obtain ⟨f, c, w, hField, hContent, hRead, hw⟩ := hFirst v hValue
          refine ⟨(name, w) :: ws, by simp [hField, hContent, hRead, hReads], ?_, ?_⟩
          · rw [Entries.names_cons, hNames, List.filter_cons_of_pos]
            simp [Entries.has, hValue]
          · exact List.forall_mem_cons.mpr ⟨hw, hws⟩

/-- Only the values of undeclared names are not kept. -/
theorem keptProperty_eq_none_iff {t : RecordType} {name : String}
    {properties : List (String × Schema R)} :
    keptProperty types properties t name v = none ↔ name ∉ Entries.names properties := by
  induction properties with
  | nil => simp [keptProperty, Entries.names]
  | cons property properties ih =>
      obtain ⟨declared, s⟩ := property
      rw [keptProperty, Entries.names_cons, List.mem_cons, not_or]
      by_cases hName : name = declared
      · rw [if_pos hName]
        cases t.field? declared <;> simp [hName]
      · rw [if_neg hName, ih]
        simp [hName]

/-- The value of a declared property is kept as its own schema and field have it. -/
theorem keptProperty_of_mem {t : RecordType} {property : String × Schema R} {f : Field}
    (hField : t.field? property.1 = some f) {properties : List (String × Schema R)}
    (hSorted : Entries.Sorted properties) (hMem : property ∈ properties) :
    keptProperty types properties t property.1 v =
      some (kept types property.2 f.shape.slot v) := by
  induction properties with
  | nil => simp at hMem
  | cons first properties ih =>
      obtain ⟨declared, s⟩ := first
      rw [keptProperty]
      rcases List.mem_cons.mp hMem with rfl | hRest
      · rw [if_pos rfl, hField]
      · have hName : property.1 ≠ declared := by
          rintro rfl
          exact hSorted.head_not_mem (Entries.mem_names_of_mem hRest)
        rw [if_neg hName]
        exact ih hSorted.tail hRest

end Parts

end Schema
end DataContract
