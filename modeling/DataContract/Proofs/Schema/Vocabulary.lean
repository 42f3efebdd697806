import DataContract.Proofs.Schema.Acceptance
import DataContract.Proofs.Schema.Reloading
/-!
# Which documents are descriptors

A document is a descriptor when it is an object of one of a few forms.  A combinator makes
everything else in it irrelevant; otherwise the annotation must consist of texts, and the
type tells which fields are looked at and what they may hold.  What a form does not look at
may be anything.

**Results.**
* `succeeds_leaf_iff`: the forms without parts.
* `succeeds_node_iff`: a node is loaded exactly when it is a descriptor, wherever it stands.
* `exists_ofDescriptor_eq_ok_iff`: so is a document.
-/

namespace DataContract

variable {R : Readers}

namespace Schema

/-- The field of a name has a property, if it is there. -/
def WherePresent (doc : Entries Value) (name : String) (P : Value → Prop) : Prop :=
  ∀ v, doc.get? name = some v → P v

/-- A text. -/
def IsText (v : Value) : Prop := ∃ s, v = .string s

/-- A truth value. -/
def IsFlag (v : Value) : Prop := ∃ b, v = .bool b

/-- A number, however it is written. -/
def IsNumber (v : Value) : Prop := ∃ m, v = .number m

/-- A number whose exact value is a 64-bit integer. -/
def IsInt64 (v : Value) : Prop := v ∈ integerSet (-2 ^ 63) (2 ^ 63 - 1)

/-- A literal without sign, fraction or exponent. -/
def IsNatural (v : Value) : Prop := ∃ n h, v = .number (.whole n h) ∧ 0 ≤ n

/-- A list of texts. -/
def IsTexts (v : Value) : Prop := ∃ texts, v = .ofStrings texts

/-- The text of a pattern. -/
def IsPattern (R : Readers) (v : Value) : Prop :=
  ∃ s, ∃ p : Pattern R, v = .string s ∧ Pattern.compile? s = some p

/-- The combinator that counts in a document, with what it holds: the first that is there
of `anyOf`, `oneOf` and `allOf`. -/
inductive Combines (doc : Entries Value) : Combinator → Value → Prop
  | anyOf {v : Value} (here : doc.get? "anyOf" = some v) : Combines doc .anyOf v
  | oneOf {v : Value} (noAnyOf : doc.get? "anyOf" = none) (here : doc.get? "oneOf" = some v) :
      Combines doc .oneOf v
  | allOf {v : Value} (noAnyOf : doc.get? "anyOf" = none) (noOneOf : doc.get? "oneOf" = none)
      (here : doc.get? "allOf" = some v) :
      Combines doc .allOf v

/-- A document without combinator, whose title and description are texts. -/
structure Plain (doc : Entries Value) : Prop where
  noCombinator : ∀ c : Combinator, doc.get? c.keyword = none
  title : WherePresent doc "title" IsText
  description : WherePresent doc "description" IsText

/-- The forms without parts. -/
inductive LeafForm (R : Readers) (doc : Entries Value) : Prop
  | integer (type : doc.get? "type" = some (.string "integer"))
      (minimum : WherePresent doc "minimum" IsInt64) (maximum : WherePresent doc "maximum" IsInt64)
  | number (type : doc.get? "type" = some (.string "number"))
      (minimum : WherePresent doc "minimum" IsNumber)
      (maximum : WherePresent doc "maximum" IsNumber)
  | boolean (type : doc.get? "type" = some (.string "boolean"))
  | formatted {name : String} (type : doc.get? "type" = some (.string "string"))
      (format : doc.get? "format" = some (.string name)) (known : name = "uri" ∨ name = "date-time")
  | enumeration {options : List String} (type : doc.get? "type" = some (.string "string"))
      (noFormat : doc.get? "format" = none) (enum : doc.get? "enum" = some (.ofStrings options))
      (nonempty : options ≠ [])
  | string (type : doc.get? "type" = some (.string "string")) (noFormat : doc.get? "format" = none)
      (noEnum : doc.get? "enum" = none) (pattern : WherePresent doc "pattern" (IsPattern R))
      (minLength : WherePresent doc "minLength" IsNatural)
      (maxLength : WherePresent doc "maxLength" IsNatural)
  | duration {types : List String} (type : doc.get? "type" = some (.ofStrings types))
      (both : types = ["integer", "string"] ∨ types = ["string", "integer"])

mutual

/-- The documents that describe a schema. -/
inductive IsDescriptor (R : Readers) : Value → Prop
  | combination {doc : Entries Value} {c : Combinator} {branches : List Value}
      (combines : Combines doc c (.array branches))
      (parts : ∀ branch ∈ branches, IsDescriptor R branch) :
      IsDescriptor R (.object doc)
  | plain {doc : Entries Value} (plain : Plain doc) (form : Form R doc) :
      IsDescriptor R (.object doc)

/-- The forms of documents without combinator. -/
inductive Form (R : Readers) : Entries Value → Prop
  | leaf {doc : Entries Value} (form : LeafForm R doc) : Form R doc
  | array {doc : Entries Value} {items : Value} (type : doc.get? "type" = some (.string "array"))
      (here : doc.get? "items" = some items) (part : IsDescriptor R items)
      (unique : WherePresent doc "uniqueItems" IsFlag) :
      Form R doc
  | map {doc : Entries Value} {values : Value} (type : doc.get? "type" = some (.string "object"))
      (here : doc.get? "additionalProperties" = some values) (part : IsDescriptor R values) :
      Form R doc
  | object {doc : Entries Value} (type : doc.get? "type" = some (.string "object"))
      (additional : WherePresent doc "additionalProperties" IsFlag)
      (properties : WherePresent doc "properties" fun v => ∃ nodes, v = .object nodes)
      (parts : ∀ nodes, doc.get? "properties" = some (.object nodes) →
        ∀ node ∈ nodes, IsDescriptor R node.2)
      (required : WherePresent doc "required" IsTexts) :
      Form R doc

end

section Forms

variable {doc : Entries Value}

theorem LeafForm.type_ne (form : LeafForm R doc) :
    doc.get? "type" ≠ some (.string "array") ∧ doc.get? "type" ≠ some (.string "object") := by
  cases form <;> simp_all [Value.ofStrings]

theorem form_iff_of_array (type : doc.get? "type" = some (.string "array")) :
    Form R doc ↔ ∃ items, doc.get? "items" = some items ∧ IsDescriptor R items ∧
      WherePresent doc "uniqueItems" IsFlag := by
  constructor
  · intro form
    cases form with
    | leaf form => exact absurd type form.type_ne.1
    | array _ here part unique => exact ⟨_, here, part, unique⟩
    | map type' | object type' => simp_all
  · rintro ⟨items, here, part, unique⟩
    exact .array type here part unique

theorem form_iff_of_object (type : doc.get? "type" = some (.string "object")) :
    Form R doc ↔
      (∃ values, doc.get? "additionalProperties" = some values ∧ IsDescriptor R values) ∨
        (WherePresent doc "additionalProperties" IsFlag ∧
          (WherePresent doc "properties" fun v => ∃ nodes, v = .object nodes) ∧
          (∀ nodes, doc.get? "properties" = some (.object nodes) →
            ∀ node ∈ nodes, IsDescriptor R node.2) ∧
          WherePresent doc "required" IsTexts) := by
  constructor
  · intro form
    cases form with
    | leaf form => exact absurd type form.type_ne.2
    | array type' => simp_all
    | map _ here part => exact .inl ⟨_, here, part⟩
    | object _ additional properties parts required =>
        exact .inr ⟨additional, properties, parts, required⟩
  · rintro (⟨values, here, part⟩ | ⟨additional, properties, parts, required⟩)
    · exact .map type here part
    · exact .object type additional properties parts required

theorem form_iff_leafForm (hArray : doc.get? "type" ≠ some (.string "array"))
    (hObject : doc.get? "type" ≠ some (.string "object")) :
    Form R doc ↔ LeafForm R doc := by
  constructor
  · intro form
    cases form with
    | leaf form => exact form
    | array type => exact absurd type hArray
    | map type | object type => exact absurd type hObject
  · exact .leaf

theorem not_isDescriptor_bool {b : Bool} : ¬ IsDescriptor R (.bool b) := by
  intro h
  cases h

end Forms

namespace Loading

section Success

variable {α β : Type}

/-- Loading comes to a result. -/
def Succeeds (r : Result α) : Prop := ∃ a, r = .ok a

@[simp] theorem succeeds_ok (a : α) : Succeeds (.ok a : Result α) := ⟨a, rfl⟩

@[simp] theorem succeeds_pure (a : α) : Succeeds (pure a : Result α) := ⟨a, rfl⟩

@[simp] theorem not_succeeds_error (fault : LoadFault) :
    ¬ Succeeds (.error fault : Result α) := by
  rintro ⟨a, h⟩
  cases h

@[simp] theorem not_succeeds_fail (place : Pointer) (fault : NodeFault) :
    ¬ Succeeds (fail place fault : Result α) :=
  not_succeeds_error _

@[simp] theorem succeeds_ok_bind_iff {a : α} {f : α → Result β} :
    Succeeds (.ok a >>= f) ↔ Succeeds (f a) := Iff.rfl

@[simp] theorem not_succeeds_fail_bind (place : Pointer) (fault : NodeFault) (f : α → Result β) :
    ¬ Succeeds (fail place fault >>= f) :=
  not_succeeds_error _

/-- When what comes after does not depend on the first result, both steps must succeed. -/
theorem succeeds_bind_iff {r : Result α} {f : α → Result β} {Q : Prop}
    (h : ∀ a, Succeeds (f a) ↔ Q) :
    Succeeds (r >>= f) ↔ Succeeds r ∧ Q := by
  cases r with
  | error fault => exact iff_of_false (not_succeeds_error fault) fun h => not_succeeds_error _ h.1
  | ok a => exact (h a).trans (iff_and_self.mpr fun _ => succeeds_ok a)

theorem succeeds_bind_pure_iff {r : Result α} {f : α → β} :
    Succeeds (r >>= fun a => pure (f a)) ↔ Succeeds r := by
  rw [succeeds_bind_iff fun a => iff_of_true (succeeds_pure (f a)) trivial, and_true]

end Success

section Fields

variable {doc : Entries Value} {place : Pointer} {name : String}

theorem wherePresent_iff_of_some {P : Value → Prop} {v : Value} (h : doc.get? name = some v) :
    WherePresent doc name P ↔ P v := by
  simp [WherePresent, h]

/-- A field is read when it is absent, or when what it holds is read. -/
theorem succeeds_iff_wherePresent {α : Type} {r : Result α} {P : Value → Prop}
    (hAbsent : doc.get? name = none → Succeeds r)
    (hPresent : ∀ v, doc.get? name = some v → (Succeeds r ↔ P v)) :
    Succeeds r ↔ WherePresent doc name P := by
  cases h : doc.get? name with
  | none => exact iff_of_true (hAbsent h) (by simp [WherePresent, h])
  | some v => rw [wherePresent_iff_of_some h, hPresent v h]

theorem succeeds_text?_iff : Succeeds (text? doc place name) ↔ WherePresent doc name IsText := by
  refine succeeds_iff_wherePresent (fun h => ?_) fun v h => ?_
  · simp [text?, h]
  · cases v <;> simp [text?, h, IsText]

theorem exists_int64?_iff {v : Value} : (∃ n, int64? v = some n) ↔ IsInt64 v := by
  rw [IsInt64, ← exists_integral?_iff_mem_integerSet (by norm_num) (by norm_num)]
  cases h : v.integral? with
  | none => simp [int64?, h]
  | some n =>
      simp only [int64?, h, Option.bind_some, Option.some.injEq, exists_eq_left']
      split <;> simp <;> omega

theorem succeeds_integerBound_iff {default : Int64} :
    Succeeds (integerBound doc place name default) ↔ WherePresent doc name IsInt64 := by
  refine succeeds_iff_wherePresent (fun h => ?_) fun v h => ?_
  · simp [integerBound, h]
  · rw [← exists_int64?_iff]
    cases hInt : int64? v <;> simp [integerBound, h, hInt]

theorem succeeds_numberBound_iff {default : Double} :
    Succeeds (numberBound doc place name default) ↔ WherePresent doc name IsNumber := by
  refine succeeds_iff_wherePresent (fun h => ?_) fun v h => ?_
  · simp [numberBound, h]
  · cases v <;> simp [numberBound, h, IsNumber, Value.double?]

theorem exists_natural?_iff {v : Value} : (∃ n, v.natural? = some n) ↔ IsNatural v := by
  cases v with
  | number m =>
      cases m with
      | whole n inRange => by_cases h : 0 ≤ n <;> simp [Value.natural?, IsNatural, h, inRange]
      | real x => simp [Value.natural?, IsNatural]
  | _ => simp [Value.natural?, IsNatural]

theorem succeeds_lengthBound_iff :
    Succeeds (lengthBound doc place name) ↔ WherePresent doc name IsNatural := by
  refine succeeds_iff_wherePresent (fun h => ?_) fun v h => ?_
  · simp [lengthBound, h]
  · rw [← exists_natural?_iff]
    cases hNatural : v.natural? <;> simp [lengthBound, h, hNatural]

theorem succeeds_boolean?_iff :
    Succeeds (boolean? doc place name) ↔ WherePresent doc name IsFlag := by
  refine succeeds_iff_wherePresent (fun h => ?_) fun v h => ?_
  · simp [boolean?, h]
  · cases v <;> simp [boolean?, h, IsFlag]

theorem eq_map_of_mapM_string? {vs : List Value} {texts : List String}
    (h : vs.mapM Value.string? = some texts) :
    vs = texts.map .string := by
  induction vs generalizing texts with
  | nil =>
      obtain rfl : [] = texts := Option.some.inj h
      rfl
  | cons v vs ih =>
      rw [List.mapM_cons] at h
      obtain ⟨t, hText, h⟩ := Option.bind_eq_some_iff.mp h
      obtain ⟨ts, hTexts, h⟩ := Option.bind_eq_some_iff.mp h
      obtain rfl : t :: ts = texts := Option.some.inj h
      cases v with
      | string s =>
          obtain rfl : s = t := Option.some.inj hText
          rw [List.map_cons, ih hTexts]
      | _ => cases hText

theorem strings?_eq_some_iff {v : Value} {texts : List String} :
    strings? v = some texts ↔ v = .ofStrings texts := by
  constructor
  · intro h
    obtain ⟨vs, hItems, hTexts⟩ := Option.bind_eq_some_iff.mp h
    cases v with
    | array items =>
        obtain rfl : items = vs := Option.some.inj hItems
        rw [Value.ofStrings, eq_map_of_mapM_string? hTexts]
    | _ => cases hItems
  · rintro rfl
    exact strings?_ofStrings texts

theorem succeeds_required_iff :
    Succeeds (required doc place) ↔ WherePresent doc "required" IsTexts := by
  refine succeeds_iff_wherePresent (fun h => ?_) fun v h => ?_
  · simp [required, h]
  · simp only [IsTexts, ← strings?_eq_some_iff]
    cases hTexts : strings? v <;> simp [required, h, hTexts]

end Fields

section Leaves

variable {doc : Entries Value} {place : Pointer} {note : Annotation}

theorem succeeds_noteOf_iff :
    Succeeds (noteOf doc place) ↔
      WherePresent doc "title" IsText ∧ WherePresent doc "description" IsText := by
  unfold noteOf
  rw [succeeds_bind_iff fun title => succeeds_bind_pure_iff, succeeds_text?_iff, succeeds_text?_iff]

theorem succeeds_integer_iff :
    Succeeds (Loading.integer R doc place note) ↔
      WherePresent doc "minimum" IsInt64 ∧ WherePresent doc "maximum" IsInt64 := by
  unfold Loading.integer
  rw [succeeds_bind_iff fun minimum => succeeds_bind_pure_iff, succeeds_integerBound_iff,
    succeeds_integerBound_iff]

theorem succeeds_number_iff :
    Succeeds (Loading.number R doc place note) ↔
      WherePresent doc "minimum" IsNumber ∧ WherePresent doc "maximum" IsNumber := by
  unfold Loading.number
  rw [succeeds_bind_iff fun minimum => succeeds_bind_pure_iff, succeeds_numberBound_iff,
    succeeds_numberBound_iff]

theorem succeeds_enumeration_iff {v : Value} :
    Succeeds (Loading.enumeration R v place note) ↔
      ∃ options, v = .ofStrings options ∧ options ≠ [] := by
  simp only [← strings?_eq_some_iff]
  unfold Loading.enumeration
  cases hTexts : strings? v with
  | none => simp
  | some options => by_cases hEmpty : options = [] <;> simp [enumeration?, hEmpty]

/-- A pattern is compiled as soon as it is read. -/
theorem succeeds_pattern_iff :
    Succeeds (text? doc place "pattern" >>= fun source => source.mapM (pattern R)) ↔
      WherePresent doc "pattern" (IsPattern R) := by
  refine succeeds_iff_wherePresent (fun h => ?_) fun v h => ?_
  · simp [text?_of_none h]
  · cases v with
    | string s =>
        rw [text?_of_string h]
        cases hCompile : Pattern.compile? (R := R) s <;> simp [pattern, hCompile, IsPattern]
    | _ => simp [text?, h, IsPattern]

theorem succeeds_bareString_iff :
    Succeeds (bareString R doc place note) ↔
      WherePresent doc "pattern" (IsPattern R) ∧ WherePresent doc "minLength" IsNatural ∧
        WherePresent doc "maxLength" IsNatural := by
  unfold bareString
  rw [← bind_assoc, succeeds_bind_iff fun p => succeeds_bind_iff fun low => succeeds_bind_pure_iff,
    succeeds_pattern_iff, succeeds_lengthBound_iff, succeeds_lengthBound_iff]

/-- A format decides, or else the options, or else the lengths and the pattern. -/
theorem succeeds_string_iff (type : doc.get? "type" = some (.string "string")) :
    Succeeds (Loading.string R doc place note) ↔ LeafForm R doc := by
  unfold Loading.string
  cases hFormat : doc.get? "format" with
  | some v =>
      cases v with
      | string name =>
          rw [text?_of_string hFormat, succeeds_ok_bind_iff]
          constructor
          · intro h
            refine .formatted type hFormat ?_
            split at h <;> simp_all
          · intro form
            cases form with
            | formatted _ format known =>
                rw [hFormat] at format
                cases format
                rcases known with rfl | rfl <;> exact succeeds_ok _
            | _ => simp_all [Value.ofStrings]
      | _ =>
          refine iff_of_false (by simp [text?, hFormat]) ?_
          intro form
          cases form <;> simp_all [Value.ofStrings]
  | none =>
      rw [text?_of_none hFormat, succeeds_ok_bind_iff]
      cases hOptions : doc.get? "enum" with
      | some v =>
          simp only [succeeds_enumeration_iff]
          constructor
          · rintro ⟨options, rfl, nonempty⟩
            exact .enumeration type hFormat hOptions nonempty
          · intro form
            cases form with
            | enumeration _ _ enum nonempty =>
                exact ⟨_, Option.some.inj (hOptions.symm.trans enum), nonempty⟩
            | _ => simp_all [Value.ofStrings]
      | none =>
          simp only [succeeds_bareString_iff]
          constructor
          · rintro ⟨pattern, minLength, maxLength⟩
            exact .string type hFormat hOptions pattern minLength maxLength
          · intro form
            cases form <;> simp_all [Value.ofStrings]

theorem isDurationType_iff {kinds : List Value} :
    isDurationType kinds = true ↔
      ∃ types, Value.array kinds = .ofStrings types ∧
        (types = ["integer", "string"] ∨ types = ["string", "integer"]) := by
  constructor
  · intro h
    unfold isDurationType at h
    split at h
    · simp only [Bool.or_eq_true, Bool.and_eq_true, beq_iff_eq] at h
      rcases h with ⟨rfl, rfl⟩ | ⟨rfl, rfl⟩
      · exact ⟨_, rfl, .inl rfl⟩
      · exact ⟨_, rfl, .inr rfl⟩
    · cases h
  · rintro ⟨types, h, rfl | rfl⟩ <;> (cases h; rfl)

/-- The type decides between the forms without parts. -/
theorem succeeds_leaf_iff : Succeeds (leaf R doc place note) ↔ LeafForm R doc := by
  unfold leaf
  split
  · rename_i type
    rw [succeeds_integer_iff]
    constructor
    · exact fun h => .integer type h.1 h.2
    · intro form
      cases form <;> simp_all [Value.ofStrings]
  · rename_i type
    rw [succeeds_number_iff]
    constructor
    · exact fun h => .number type h.1 h.2
    · intro form
      cases form <;> simp_all [Value.ofStrings]
  · rename_i type
    exact iff_of_true (succeeds_ok _) (.boolean type)
  · rename_i type
    exact succeeds_string_iff type
  · refine iff_of_false (not_succeeds_fail _ _) ?_
    intro form
    cases form <;> simp_all [Value.ofStrings]
  · rename_i kinds type
    constructor
    · intro h
      split at h
      · rename_i hDuration
        obtain ⟨types, hTypes, both⟩ := isDurationType_iff.mp hDuration
        exact .duration (hTypes ▸ type) both
      · exact absurd h (not_succeeds_fail _ _)
    · intro form
      cases form with
      | duration type' both =>
          have hTypes := Option.some.inj (type.symm.trans type')
          rw [if_pos (isDurationType_iff.mpr ⟨_, hTypes, both⟩)]
          exact succeeds_ok _
      | _ => simp_all
  · rename_i v hString hList type
    refine iff_of_false (not_succeeds_fail _ _) ?_
    intro form
    cases form with
    | duration type' both => exact hList _ (Option.some.inj (type.symm.trans type'))
    | integer type' | number type' | boolean type' | formatted type' | enumeration type'
    | string type' => exact hString _ (Option.some.inj (type.symm.trans type'))
  · refine iff_of_false (not_succeeds_fail _ _) ?_
    intro form
    cases form <;> simp_all

end Leaves

section Parts

variable {doc : Entries Value} {place : Pointer} {note : Annotation}

/-- A value is loaded exactly when it is a descriptor, wherever it stands. -/
def Recognized (R : Readers) (v : Value) : Prop :=
  ∀ place, Succeeds (node R place v) ↔ IsDescriptor R v

theorem succeeds_branches_iff {items : List Value} (h : ∀ item ∈ items, Recognized R item) :
    ∀ i, Succeeds (branches R place i items) ↔ ∀ item ∈ items, IsDescriptor R item := by
  induction items with
  | nil =>
      intro i
      rw [branches]
      simp
  | cons item items ih =>
      intro i
      rw [List.forall_mem_cons] at h
      rw [branches, List.forall_mem_cons, ← h.1 (place ++ [.place i]), ← ih h.2 (i + 1)]
      exact succeeds_bind_iff fun s => succeeds_bind_pure_iff

theorem succeeds_properties_iff {nodes : List (String × Value)}
    (h : ∀ node ∈ nodes, Recognized R node.2) :
    Succeeds (properties R place nodes) ↔ ∀ node ∈ nodes, IsDescriptor R node.2 := by
  induction nodes with
  | nil =>
      rw [properties]
      simp
  | cons entry nodes ih =>
      obtain ⟨name, v⟩ := entry
      rw [List.forall_mem_cons] at h
      rw [properties, List.forall_mem_cons, ← h.1 (under place name), ← ih h.2]
      exact succeeds_bind_iff fun s => succeeds_bind_pure_iff

theorem succeeds_object_iff {additional : Bool}
    (h : ∀ nodes, doc.get? "properties" = some (.object nodes) →
      ∀ node ∈ nodes, Recognized R node.2) :
    Succeeds (Loading.object R doc place note additional) ↔
      (WherePresent doc "properties" fun v => ∃ nodes, v = .object nodes) ∧
        (∀ nodes, doc.get? "properties" = some (.object nodes) →
          ∀ node ∈ nodes, IsDescriptor R node.2) ∧
        WherePresent doc "required" IsTexts := by
  rw [Loading.object]
  split
  · rename_i hNone
    rw [succeeds_bind_pure_iff, succeeds_required_iff]
    simp [WherePresent, hNone]
  · rename_i nodes hNodes
    rw [succeeds_bind_iff fun declared => succeeds_bind_pure_iff, succeeds_required_iff,
      succeeds_properties_iff (h nodes hNodes)]
    simp [WherePresent, hNodes]
  · rename_i v hObject hSome
    refine iff_of_false (not_succeeds_fail _ _) ?_
    rintro ⟨hProperties, _⟩
    obtain ⟨nodes, rfl⟩ := hProperties v hSome
    exact hObject nodes rfl

theorem combination?_eq_none_iff :
    combination? doc = none ↔ ∀ c : Combinator, doc.get? c.keyword = none := by
  constructor
  · intro h c
    simp only [combination?, List.findSome?_eq_none_iff, Option.map_eq_none_iff] at h
    exact h c (by cases c <;> simp)
  · intro h
    simp only [combination?, List.findSome?_eq_none_iff, Option.map_eq_none_iff]
    exact fun c _ => h c

theorem combination?_eq_some_iff {c : Combinator} {v : Value} :
    combination? doc = some (c, v) ↔ Combines doc c v := by
  simp only [combination?, List.findSome?_cons, List.findSome?_nil, Combinator.keyword]
  constructor
  · intro h
    cases hAny : doc.get? "anyOf" with
    | some w =>
        simp only [hAny, Option.map_some] at h
        cases h
        exact .anyOf hAny
    | none =>
        cases hOne : doc.get? "oneOf" with
        | some w =>
            simp only [hAny, hOne, Option.map_some, Option.map_none] at h
            cases h
            exact .oneOf hAny hOne
        | none =>
            cases hAll : doc.get? "allOf" with
            | some w =>
                simp only [hAny, hOne, hAll, Option.map_some, Option.map_none] at h
                cases h
                exact .allOf hAny hOne hAll
            | none => simp [hAny, hOne, hAll] at h
  · intro h
    cases h with
    | anyOf here => simp [here]
    | oneOf noAnyOf here => simp [noAnyOf, here]
    | allOf noAnyOf noOneOf here => simp [noAnyOf, noOneOf, here]

theorem get?_keyword {c : Combinator} {v : Value} (h : Combines doc c v) :
    doc.get? c.keyword = some v := by
  cases h with
  | anyOf here => exact here
  | oneOf noAnyOf here => exact here
  | allOf noAnyOf noOneOf here => exact here

/-- A combinator takes precedence over everything else in a node. -/
theorem succeeds_node_iff_of_combines {c : Combinator} {v : Value} (h : Combines doc c v) :
    Succeeds (node R place (.object doc)) ↔
      ∃ items, v = .array items ∧ Succeeds (branches R (under place c.keyword) 0 items) := by
  rw [node_of_combination?_eq_some (combination?_eq_some_iff.mpr h)]
  cases v with
  | array items =>
      rw [succeeds_bind_pure_iff]
      simp
  | _ =>
      refine iff_of_false (not_succeeds_fail _ _) ?_
      rintro ⟨items, hItems, -⟩
      cases hItems

/-- The type of a node without combinator decides which of its parts must be descriptors. -/
theorem succeeds_node_iff_of_combination?_eq_none (h : combination? doc = none)
    (hItems : ∀ v, doc.get? "items" = some v → Recognized R v)
    (hValues : ∀ v, doc.get? "additionalProperties" = some v → Recognized R v)
    (hNodes : ∀ nodes, doc.get? "properties" = some (.object nodes) →
      ∀ node ∈ nodes, Recognized R node.2) :
    Succeeds (node R place (.object doc)) ↔ Plain doc ∧ Form R doc := by
  have hPlain : Succeeds (noteOf doc place) ↔ Plain doc := by
    rw [succeeds_noteOf_iff]
    exact ⟨fun hTexts => ⟨combination?_eq_none_iff.mp h, hTexts.1, hTexts.2⟩,
      fun plain => ⟨plain.title, plain.description⟩⟩
  rw [node_of_combination?_eq_none h, ← hPlain]
  refine succeeds_bind_iff fun note => ?_
  split
  · rename_i type
    rw [form_iff_of_array type]
    cases hPart : doc.get? "items" with
    | none => simp
    | some items =>
        simp only [Option.some.injEq, exists_eq_left']
        rw [succeeds_bind_iff fun unique => succeeds_bind_pure_iff, succeeds_boolean?_iff,
          hItems items hPart (under place "items"), and_comm]
  · rename_i type
    rw [form_iff_of_object type]
    split
    · rename_i hNone
      rw [succeeds_object_iff hNodes]
      simp [hNone, WherePresent]
    · rename_i additional hFlag
      rw [succeeds_object_iff hNodes, wherePresent_iff_of_some hFlag]
      simp [hFlag, IsFlag, not_isDescriptor_bool]
    · rename_i values hFlag hSome
      have hNotFlag : ¬ IsFlag values := by
        rintro ⟨b, hb⟩
        exact hFlag b hb
      rw [succeeds_bind_pure_iff, hValues values hSome (under place "additionalProperties"),
        wherePresent_iff_of_some hSome]
      simp [hSome, hNotFlag]
  · rename_i hArray hObject
    rw [form_iff_leafForm hArray hObject]
    exact succeeds_leaf_iff

theorem isDescriptor_iff_of_combines {c : Combinator} {v : Value} (h : Combines doc c v) :
    IsDescriptor R (.object doc) ↔
      ∃ items, v = .array items ∧ ∀ item ∈ items, IsDescriptor R item := by
  have hCombination := combination?_eq_some_iff.mpr h
  constructor
  · intro hDescriptor
    cases hDescriptor with
    | combination combines parts =>
        have hOther := combination?_eq_some_iff.mpr combines
        rw [hCombination] at hOther
        cases hOther
        exact ⟨_, rfl, parts⟩
    | plain plain form =>
        rw [combination?_eq_none_iff.mpr plain.noCombinator] at hCombination
        cases hCombination
  · rintro ⟨items, rfl, parts⟩
    exact .combination h parts

theorem isDescriptor_iff_of_combination?_eq_none (h : combination? doc = none) :
    IsDescriptor R (.object doc) ↔ Plain doc ∧ Form R doc := by
  constructor
  · intro hDescriptor
    cases hDescriptor with
    | combination combines parts =>
        rw [combination?_eq_some_iff.mpr combines] at h
        cases h
    | plain plain form => exact ⟨plain, form⟩
  · exact fun ⟨plain, form⟩ => .plain plain form

theorem sizeOf_lt_of_get? {name : String} {v : Value} (h : doc.get? name = some v) :
    sizeOf v < sizeOf (Value.object doc) := by
  have hField := sizeOf_get? h
  simp only [Value.object.sizeOf_spec]
  omega

theorem sizeOf_lt_of_mem_object {name : String} {nodes : Entries Value} {node : String × Value}
    (h : doc.get? name = some (.object nodes)) (hNode : node ∈ nodes) :
    sizeOf node.2 < sizeOf (Value.object doc) :=
  (Value.sizeOf_lt_of_mem_entries hNode).trans (sizeOf_lt_of_get? h)

theorem sizeOf_lt_of_mem_array {name : String} {items : List Value} {item : Value}
    (h : doc.get? name = some (.array items)) (hItem : item ∈ items) :
    sizeOf item < sizeOf (Value.object doc) :=
  (Value.sizeOf_lt_of_mem_items hItem).trans (sizeOf_lt_of_get? h)

/-- A node is loaded exactly when it is a descriptor, wherever it stands. -/
theorem succeeds_node_iff (v : Value) : Recognized R v := by
  intro place
  cases v with
  | object doc =>
      cases h : combination? doc with
      | none =>
          rw [isDescriptor_iff_of_combination?_eq_none h]
          exact succeeds_node_iff_of_combination?_eq_none h
            (fun items hItems => succeeds_node_iff items)
            (fun values hValues => succeeds_node_iff values)
            fun nodes hNodes node hNode => succeeds_node_iff node.2
      | some chosen =>
          obtain ⟨c, v⟩ := chosen
          have hCombines := combination?_eq_some_iff.mp h
          rw [isDescriptor_iff_of_combines hCombines, succeeds_node_iff_of_combines hCombines]
          refine exists_congr fun items => and_congr_right ?_
          rintro rfl
          exact succeeds_branches_iff (fun item hItem => succeeds_node_iff item) 0
  | _ =>
      rw [node_of_entries?_eq_none rfl]
      exact iff_of_false (not_succeeds_fail _ _) (by rintro ⟨⟩)
termination_by sizeOf v
decreasing_by
  all_goals subst_vars
  · exact sizeOf_lt_of_get? hItems
  · exact sizeOf_lt_of_get? hValues
  · exact sizeOf_lt_of_mem_object hNodes hNode
  · exact sizeOf_lt_of_mem_array (get?_keyword (combination?_eq_some_iff.mp h)) hItem

end Parts
end Loading

/-- Exactly the documents of the vocabulary describe a schema. -/
theorem exists_ofDescriptor_eq_ok_iff (v : Value) :
    (∃ s, ofDescriptor R v = .ok s) ↔ IsDescriptor R v :=
  Loading.succeeds_node_iff v []

end Schema
end DataContract
