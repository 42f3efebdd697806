import DataContract.Proofs.Pointer
import DataContract.Proofs.Schema.Vocabulary
import DataContract.Readers.Standard
/-!
# Places of faults

A fault names the place where it was found.  A field that is not there has no place of its
own: its lack is a fault of the object.  So the place is that of a node which is there, and
this node has the fault.

Every reader finds the faults of its value only, behind the place that it was given.  What
a reader of a part finds is found by the reader of the whole, one step further.

**Results.**
* `locates_leaf`: readers of nodes without parts.
* `locates_node`: the reader of nodes, from any place on.
* `resolve?_of_ofDescriptor_eq_error`: the text of a place leads to a node of the descriptor
  that has the fault, and no other node has this text.
-/

namespace DataContract

variable {R : Readers}

open Schema

/-- The value has the fault. -/
def NodeFault.Blames : NodeFault → Value → Prop
  | .notSchema kind, v => v.entries? = none ∧ v.kind = kind
  | .notString kind, v => ¬ IsText v ∧ v.kind = kind
  | .notInt64, v => ¬ IsInt64 v
  | .notNumber, v => ¬ IsNumber v
  | .notNatural, v => ¬ IsNatural v
  | .notBoolean, v => ¬ IsFlag v
  | .notStrings, v => ¬ IsTexts v
  | .notNames, v => ¬ IsTexts v
  | .notBranches, v => v.items? = none
  | .notProperties, v => v.entries? = none
  | .noItems, v => ∃ doc, v = .object doc ∧ Entries.get? doc "items" = none
  | .noType, v => ∃ doc, v = .object doc ∧ Entries.get? doc "type" = none
  | .unknownType name, v => v = .string name
  | .unknownFormat name, v => v = .string name
  | .unsupportedType w, v => v = w
  | .unreadable _, _ => False

namespace Schema
namespace Loading

section Locates

variable {α β : Type} {place : Pointer} {v w : Value} {r : Result α} {fault : NodeFault}

/-- A fault that is found in a value, from a place on, stands at a node of the value which has
the fault. -/
def Locates (place : Pointer) (v : Value) (r : Result α) : Prop :=
  ∀ q fault, r = .error (.node q fault) →
    ∃ p w, q = place ++ p ∧ v.node? p = some w ∧ fault.Blames w

@[simp] theorem locates_ok (a : α) : Locates place v (.ok a : Result α) := by
  rintro q fault ⟨⟩

@[simp] theorem locates_pure (a : α) : Locates place v (pure a : Result α) := locates_ok a

theorem Locates.bind (hr : Locates place v r) {f : α → Result β}
    (hf : ∀ a, r = .ok a → Locates place v (f a)) :
    Locates place v (r >>= f) := by
  cases r with
  | ok a => exact hf a rfl
  | error found =>
      rintro q fault ⟨⟩
      exact hr q fault rfl

theorem Locates.bind_pure (hr : Locates place v r) (f : α → β) :
    Locates place v (r >>= fun a => pure (f a)) :=
  hr.bind fun a _ => locates_pure (f a)

/-- What is wrong with the value itself. -/
theorem locates_fail (h : fault.Blames v) : Locates place v (fail place fault : Result α) := by
  rintro q found ⟨⟩
  exact ⟨[], v, (List.append_nil place).symm, rfl, h⟩

/-- What is found in a part is found in the whole, one step further. -/
theorem Locates.of_part? {token : Pointer.Token} (hPart : v.part? token = some w)
    (h : Locates (place ++ [token]) w r) :
    Locates place v r := by
  intro q fault hFault
  obtain ⟨p, u, rfl, hNode, hBlames⟩ := h q fault hFault
  refine ⟨token :: p, u, List.append_assoc place [token] p, ?_, hBlames⟩
  rw [Value.node?_cons, hPart, Option.bind_some, hNode]

end Locates

section Fields

variable {α : Type} {doc : Entries Value} {place : Pointer} {name : String} {v : Value}
  {r : Result α} {fault : NodeFault}

theorem part?_name (h : doc.get? name = some v) :
    Value.part? (.object doc) (.name name) = some v :=
  h

theorem Locates.of_get? (hField : doc.get? name = some v) (h : Locates (under place name) v r) :
    Locates place (.object doc) r :=
  h.of_part? (part?_name hField)

theorem locates_fail_under (hField : doc.get? name = some v) (h : fault.Blames v) :
    Locates place (.object doc) (fail (under place name) fault : Result α) :=
  (locates_fail h).of_get? hField

theorem locates_text? : Locates place (.object doc) (text? doc place name) := by
  rw [text?]
  split
  · exact locates_ok _
  · exact locates_ok _
  · rename_i v hText hField
    refine locates_fail_under hField ⟨?_, rfl⟩
    rintro ⟨s, rfl⟩
    exact hText s rfl

theorem get?_of_text?_eq_ok {s : String} (h : text? doc place name = .ok (some s)) :
    doc.get? name = some (.string s) := by
  rw [text?] at h
  split at h
  · cases h
  · rename_i hField
    cases h
    exact hField
  · cases h

theorem locates_noteOf : Locates place (.object doc) (noteOf doc place) :=
  locates_text?.bind fun _ _ => locates_text?.bind_pure _

theorem locates_integerBound {default : Int64} :
    Locates place (.object doc) (integerBound doc place name default) := by
  rw [integerBound]
  split
  · exact locates_ok _
  · rename_i v hField
    split
    · exact locates_ok _
    · rename_i hNone
      refine locates_fail_under hField fun hInt => ?_
      obtain ⟨n, hSome⟩ := exists_int64?_iff.mpr hInt
      rw [hNone] at hSome
      cases hSome

theorem locates_numberBound {default : Double} :
    Locates place (.object doc) (numberBound doc place name default) := by
  rw [numberBound]
  split
  · exact locates_ok _
  · rename_i v hField
    split
    · exact locates_ok _
    · rename_i hNone
      refine locates_fail_under hField ?_
      rintro ⟨m, rfl⟩
      cases hNone

theorem locates_lengthBound : Locates place (.object doc) (lengthBound doc place name) := by
  rw [lengthBound]
  split
  · exact locates_ok _
  · rename_i v hField
    split
    · exact locates_ok _
    · rename_i hNone
      refine locates_fail_under hField fun hNatural => ?_
      obtain ⟨n, hSome⟩ := exists_natural?_iff.mpr hNatural
      rw [hNone] at hSome
      cases hSome

theorem locates_boolean? : Locates place (.object doc) (boolean? doc place name) := by
  rw [boolean?]
  split
  · exact locates_ok _
  · exact locates_ok _
  · rename_i v hFlag hField
    refine locates_fail_under hField ?_
    rintro ⟨b, rfl⟩
    exact hFlag b rfl

theorem not_isTexts_of_strings?_eq_none (h : strings? v = none) : ¬ IsTexts v := by
  rintro ⟨texts, hTexts⟩
  rw [strings?_eq_some_iff.mpr hTexts] at h
  cases h

theorem locates_required : Locates place (.object doc) (required doc place) := by
  rw [required]
  split
  · exact locates_ok _
  · rename_i v hField
    split
    · exact locates_ok _
    · rename_i hNone
      exact locates_fail_under hField (not_isTexts_of_strings?_eq_none hNone)

end Fields

section Leaves

variable {doc : Entries Value} {place : Pointer} {note : Annotation} {v : Value}

theorem locates_integer : Locates place (.object doc) (Loading.integer R doc place note) :=
  locates_integerBound.bind fun _ _ => locates_integerBound.bind_pure _

theorem locates_number : Locates place (.object doc) (Loading.number R doc place note) :=
  locates_numberBound.bind fun _ _ => locates_numberBound.bind_pure _

theorem locates_enumeration (hField : doc.get? "enum" = some v) :
    Locates place (.object doc) (Loading.enumeration R v place note) := by
  rw [Loading.enumeration]
  split
  · rename_i hNone
    exact locates_fail_under hField (not_isTexts_of_strings?_eq_none hNone)
  · split
    · exact locates_ok _
    · rintro q fault ⟨⟩

/-- A pattern has no place. -/
theorem locates_pattern {source : String} : Locates place v (pattern R source) := by
  rw [pattern]
  split
  · exact locates_ok _
  · rintro q fault ⟨⟩

theorem locates_bareString : Locates place (.object doc) (bareString R doc place note) := by
  refine locates_text?.bind fun source _ => Locates.bind ?_ fun p _ =>
    locates_lengthBound.bind fun _ _ => locates_lengthBound.bind_pure _
  cases source with
  | none => exact locates_ok _
  | some source => exact locates_pattern.bind_pure _

theorem locates_string : Locates place (.object doc) (Loading.string R doc place note) := by
  refine locates_text?.bind fun format hText => ?_
  split
  · exact locates_pure _
  · exact locates_pure _
  · exact locates_fail_under (get?_of_text?_eq_ok hText) rfl
  · split
    · rename_i options hOptions
      exact locates_enumeration hOptions
    · exact locates_bareString

theorem locates_leaf : Locates place (.object doc) (leaf R doc place note) := by
  rw [leaf]
  split
  · exact locates_integer
  · exact locates_number
  · exact locates_ok _
  · exact locates_string
  · rename_i name _ _ _ _ hType
    exact locates_fail_under hType rfl
  · rename_i kinds hType
    split
    · exact locates_ok _
    · exact locates_fail_under hType rfl
  · rename_i v _ _ hType
    exact locates_fail_under hType rfl
  · rename_i hType
    exact locates_fail ⟨doc, rfl, hType⟩

end Leaves

section Parts

variable {doc : Entries Value} {place : Pointer} {note : Annotation}

/-- Faults are located in a value, whatever place it stands at. -/
def Located (R : Readers) (v : Value) : Prop :=
  ∀ place, Locates place v (node R place v)

theorem part?_place {items : List Value} {i : Nat} {v : Value} (h : items[i]? = some v) :
    Value.part? (.array items) (.place i) = some v :=
  h

/-- The branches stand at the places from `i` on. -/
theorem locates_branches {items rest : List Value} {i : Nat} (hRest : items.drop i = rest)
    (h : ∀ item ∈ rest, Located R item) :
    Locates place (.array items) (branches R place i rest) := by
  induction rest generalizing i with
  | nil =>
      rw [branches]
      exact locates_ok _
  | cons item rest ih =>
      rw [List.forall_mem_cons] at h
      have hItem : items[i]? = some item := by
        rw [← List.head?_drop, hRest, List.head?_cons]
      have hTail : items.drop (i + 1) = rest := by
        rw [← List.tail_drop, hRest, List.tail_cons]
      rw [branches]
      exact ((h.1 _).of_part? (part?_place hItem)).bind fun _ _ => (ih hTail h.2).bind_pure _

theorem locates_properties {entries : Entries Value} {nodes : List (String × Value)}
    (hNodes : ∀ node ∈ nodes, entries.get? node.1 = some node.2)
    (h : ∀ node ∈ nodes, Located R node.2) :
    Locates place (.object entries) (properties R place nodes) := by
  induction nodes with
  | nil =>
      rw [properties]
      exact locates_ok _
  | cons entry nodes ih =>
      obtain ⟨name, v⟩ := entry
      rw [List.forall_mem_cons] at h hNodes
      rw [properties]
      exact ((h.1 _).of_get? hNodes.1).bind fun _ _ => (ih hNodes.2 h.2).bind_pure _

theorem locates_object {additional : Bool} (hDoc : Value.WellFormed (.object doc))
    (h : ∀ nodes, doc.get? "properties" = some (.object nodes) →
      ∀ node ∈ nodes, Located R node.2) :
    Locates place (.object doc) (Loading.object R doc place note additional) := by
  rw [object_eq]
  split
  · exact locates_required.bind_pure _
  · rename_i nodes hField
    have hNodes := (Value.wellFormed_object_iff.mp hDoc).2 _ (Entries.mem_of_get? hField)
    have hSorted := (Value.wellFormed_object_iff.mp hNodes).1
    have hDeclared : Locates (under place "properties") (.object nodes)
        (properties R (under place "properties") nodes) :=
      locates_properties (fun node hNode => hSorted.get?_of_mem hNode) (h nodes hField)
    exact (hDeclared.of_get? hField).bind fun _ _ => locates_required.bind_pure _
  · rename_i v hObject hField
    refine locates_fail_under hField ?_
    cases v with
    | object nodes => exact absurd rfl (hObject nodes)
    | _ => rfl

theorem locates_node_of_combination?_eq_some {c : Combinator} {v : Value}
    (hCombination : combination? doc = some (c, v))
    (h : ∀ items, v = .array items → ∀ item ∈ items, Located R item) :
    Locates place (.object doc) (node R place (.object doc)) := by
  have hField := get?_keyword (combination?_eq_some_iff.mp hCombination)
  rw [node_of_combination?_eq_some hCombination]
  cases v with
  | array items =>
      exact ((locates_branches List.drop_zero (h items rfl)).of_get? hField).bind_pure _
  | _ => exact locates_fail_under hField rfl

theorem locates_node_of_combination?_eq_none (hCombination : combination? doc = none)
    (hDoc : Value.WellFormed (.object doc))
    (hItems : ∀ v, doc.get? "items" = some v → Located R v)
    (hValues : ∀ v, doc.get? "additionalProperties" = some v → Located R v)
    (hNodes : ∀ nodes, doc.get? "properties" = some (.object nodes) →
      ∀ node ∈ nodes, Located R node.2) :
    Locates place (.object doc) (node R place (.object doc)) := by
  rw [node_of_combination?_eq_none hCombination]
  refine locates_noteOf.bind fun note _ => ?_
  split
  · split
    · rename_i hNone
      exact locates_fail ⟨doc, rfl, hNone⟩
    · rename_i items hField
      exact locates_boolean?.bind fun _ _ => ((hItems items hField _).of_get? hField).bind_pure _
  · split
    · exact locates_object hDoc hNodes
    · exact locates_object hDoc hNodes
    · rename_i values _ hField
      exact ((hValues values hField _).of_get? hField).bind_pure _
  · exact locates_leaf

/-- Faults are located in every document. -/
theorem locates_node (v : Value) (hv : v.WellFormed) : Located R v := by
  intro place
  cases v with
  | object doc =>
      have hDoc := (Value.wellFormed_object_iff.mp hv).2
      have hField {name : String} {w : Value} (h : Entries.get? doc name = some w) : w.WellFormed :=
        hDoc _ (Entries.mem_of_get? h)
      cases h : combination? doc with
      | none =>
          exact locates_node_of_combination?_eq_none h hv
            (fun items hItems => locates_node items (hField hItems))
            (fun values hValues => locates_node values (hField hValues))
            fun nodes hNodes node hNode =>
              locates_node node.2 ((Value.wellFormed_object_iff.mp (hField hNodes)).2 node hNode)
      | some chosen =>
          obtain ⟨c, v⟩ := chosen
          have hv := hField (get?_keyword (combination?_eq_some_iff.mp h))
          refine locates_node_of_combination?_eq_some h ?_
          rintro items rfl item hItem
          exact locates_node item (Value.wellFormed_array_iff.mp hv item hItem)
  | _ =>
      rw [node_of_entries?_eq_none rfl]
      exact locates_fail ⟨rfl, rfl⟩
termination_by sizeOf v
decreasing_by
  all_goals subst_vars
  · exact sizeOf_lt_of_get? hItems
  · exact sizeOf_lt_of_get? hValues
  · exact sizeOf_lt_of_mem_object hNodes hNode
  · exact sizeOf_lt_of_mem_array (get?_keyword (combination?_eq_some_iff.mp h)) hItem

end Parts
end Loading

/-- A fault stands at a node of the descriptor that has the fault, and the text of its place
leads there.  No two nodes of a descriptor have one text. -/
theorem resolve?_of_ofDescriptor_eq_error {d : Value} (hd : d.WellFormed) :
    (∀ place fault, ofDescriptor R d = .error (.node place fault) →
      ∃ text w, place.render = "#" ++ text ∧ d.resolve? text = some w ∧
        d.node? place = some w ∧ fault.Blames w) ∧
      ∀ p q v w, d.node? p = some v → d.node? q = some w → (p.render = q.render ↔ p = q) := by
  constructor
  · intro place fault hFault
    obtain ⟨p, w, hPlace, hNode, hBlames⟩ := Loading.locates_node d hd [] place fault hFault
    obtain rfl : place = p := hPlace
    exact ⟨Pointer.text place, w, rfl, Value.resolve?_text hNode, hNode, hBlames⟩
  · exact fun p q v w => Value.render_inj_of_node?

/-- A descriptor with a property whose name is empty and one with slash and tilde in its name. -/
def misbound : Value :=
  .object [("properties", .object
    [("", .object [("type", .string "boolean")]),
      ("a/b~1c", .object [("minimum", .string "0"), ("type", .string "integer")])]),
    ("type", .string "object")]

/-- The bound that is a text is found, and no other node has the text of its place. -/
theorem resolve?_misbound :
    misbound.WellFormed ∧
      (∃ place fault text w, ofDescriptor .standard misbound = .error (.node place fault) ∧
        place.render = "#" ++ text ∧ misbound.resolve? text = some w ∧ fault.Blames w) ∧
      ∀ p v, misbound.node? p = some v →
        (p.render = "#/properties/a~1b~01c/minimum" ↔
          p = [.name "properties", .name "a/b~1c", .name "minimum"]) := by
  have hWellFormed : misbound.WellFormed := by
    have hPair {a b : String} (h : a < b) {v w : Value} : Entries.Sorted [(a, v), (b, w)] :=
      Entries.sorted_iff_pairwise_names.mpr (List.pairwise_pair.mpr h)
    refine ⟨hPair (by decide), ⟨hPair (by decide), ?_, ?_, trivial⟩, trivial, trivial⟩
    · exact ⟨List.pairwise_singleton _ _, trivial, trivial⟩
    · exact ⟨hPair (by decide), trivial, trivial, trivial⟩
  have hFlag (place : Pointer) :
      Loading.node .standard place (.object [("type", .string "boolean")]) = .ok (.boolean {}) := by
    rw [Loading.node_of_combination?_eq_none rfl]
    rfl
  have hBound (place : Pointer) :
      Loading.node .standard place
          (.object [("minimum", .string "0"), ("type", .string "integer")]) =
        Loading.fail (Loading.under place "minimum") .notInt64 := by
    rw [Loading.node_of_combination?_eq_none rfl]
    rfl
  have hFault : ofDescriptor .standard misbound = .error (.node
      [.name "properties", .name "a/b~1c", .name "minimum"] .notInt64) := by
    rw [ofDescriptor, misbound, Loading.node_of_combination?_eq_none rfl]
    show Loading.object _ _ _ _ _ = _
    rw [Loading.object]
    show (Loading.properties _ _ _ >>= _) = _
    rw [Loading.properties, hFlag, Loading.properties, hBound]
    rfl
  obtain ⟨hFound, hTexts⟩ := resolve?_of_ofDescriptor_eq_error hWellFormed
  obtain ⟨text, w, hText, hResolve, hNode, hBlames⟩ := hFound _ _ hFault
  refine ⟨hWellFormed, ⟨_, _, text, w, hFault, hText, hResolve, hBlames⟩, fun p v hp => ?_⟩
  rw [← hTexts p _ v w hp hNode]
  rfl

end Schema
end DataContract
