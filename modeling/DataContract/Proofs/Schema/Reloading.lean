import DataContract.Proofs.Schema.Documents
import DataContract.Schema.Basic
import DataContract.Schema.Loading
/-!
# Descriptors are loaded back

Writing a descriptor and loading it are two case analyses that must meet: what is left out
at its default is read as that default, and no descriptor is taken for that of another
kind.  Only a bound that is not finite is lost, since it is written as null.

**Results.**
* `node_of_describes`: the type of a node decides how its parts are looked at.
* `Yields.bind`: loading in sequence stops at the first bound that is not finite.
* `yields_of_isLeaf`: descriptors without parts are loaded back.
* `ofDescriptor_descriptor`: a descriptor is loaded back as an equal schema, unless a bound
  of a number is not finite.
-/

namespace DataContract

variable {R : Readers}

namespace Schema
namespace Loading

variable {doc : Entries Value} {place : Pointer}

section Fields

variable {name : String}

theorem text?_of_string {s : String} (h : doc.get? name = some (.string s)) :
    text? doc place name = .ok (some s) := by
  rw [text?, h]

theorem text?_of_none (h : doc.get? name = none) : text? doc place name = .ok none := by
  rw [text?, h]

/-- A text that was left out is the empty one. -/
theorem exists_text?_of_textField {s : String} (h : doc.get? name = textField s) :
    ∃ t, text? doc place name = .ok t ∧ t.getD "" = s := by
  by_cases hEmpty : s.isEmpty = true
  · rw [textField, omitIf, if_pos hEmpty] at h
    exact ⟨none, text?_of_none h, (String.isEmpty_iff.mp hEmpty).symm⟩
  · rw [textField, omitIf, if_neg hEmpty] at h
    exact ⟨some s, text?_of_string h, rfl⟩

theorem noteOf_eq_ok {note : Annotation} (hTitle : doc.get? "title" = textField note.title)
    (hDescription : doc.get? "description" = textField note.description) :
    noteOf doc place = .ok note := by
  obtain ⟨title, hTitle, hTitleEq⟩ := @exists_text?_of_textField doc place _ _ hTitle
  obtain ⟨description, hDescription, hDescriptionEq⟩ :=
    @exists_text?_of_textField doc place _ _ hDescription
  unfold noteOf
  rw [hTitle, hDescription]
  show Except.ok ⟨title.getD "", description.getD ""⟩ = Except.ok note
  rw [hTitleEq, hDescriptionEq]

theorem int64?_ofInt64 (n : Int64) : int64? (.ofInt64 n) = some n := by
  have hLow := n.le_toInt
  have hHigh := n.toInt_lt
  have hRange : -0x8000000000000000 ≤ n.toInt ∧ n.toInt < 0x8000000000000000 := by omega
  show (if _ ∧ _ then some (Int64.ofInt n.toInt) else none) = some n
  rw [if_pos hRange, Int64.ofInt_toInt]

/-- A bound that was left out is the default. -/
theorem integerBound_eq_ok {n default : Int64}
    (h : doc.get? name = omitIf (n == default) (.ofInt64 n)) :
    integerBound doc place name default = .ok n := by
  rw [integerBound, h]
  by_cases hDefault : n = default
  · simp only [hDefault, beq_self_eq_true, omitIf, if_true]
  · simp only [beq_false_of_ne hDefault, omitIf, Bool.false_eq_true, if_false, int64?_ofInt64]

theorem natural?_ofUInt64 (n : UInt64) : (Value.ofUInt64 n).natural? = some n := by
  show (if (0 : Int) ≤ n.toNat then some (UInt64.ofNat (n.toNat : Int).toNat) else none) = some n
  rw [if_pos (Int.natCast_nonneg _), Int.toNat_natCast, UInt64.ofNat_toNat]

theorem lengthBound_eq_ok {n : UInt64} (h : doc.get? name = lengthField n) :
    lengthBound doc place name = .ok n := by
  rw [lengthBound, h, lengthField]
  by_cases hZero : n = 0
  · simp only [hZero, beq_self_eq_true, omitIf, if_true]
  · simp only [beq_false_of_ne hZero, omitIf, Bool.false_eq_true, if_false, natural?_ofUInt64]

theorem boolean?_eq_ok {b : Bool} (h : doc.get? name = omitIf (!b) (.bool true)) :
    boolean? doc place name = .ok b := by
  rw [boolean?, h]
  cases b <;> rfl

theorem strings?_ofStrings (strings : List String) :
    strings? (.ofStrings strings) = some strings := by
  show (strings.map Value.string).mapM Value.string? = some strings
  induction strings with
  | nil => rfl
  | cons s strings ih =>
      rw [List.map_cons, List.mapM_cons, ih]
      rfl

theorem required_eq_ok {names : List String}
    (h : doc.get? "required" = omitIf names.isEmpty (.ofStrings names)) :
    required doc place = .ok names := by
  rw [required, h]
  cases names with
  | nil => rfl
  | cons name names =>
      simp only [List.isEmpty_cons, omitIf, Bool.false_eq_true, if_false, strings?_ofStrings]

theorem combination?_of_single (c : Combinator) (v : Value) :
    combination? (Entries.present [(c.keyword, some v)]) = some (c, v) := by
  cases c <;> simp [combination?, Combinator.keyword]

end Fields

/-- A document that is no combination, with an annotation and a type. -/
structure Describes (doc : Entries Value) (note : Annotation) (type : Value) : Prop where
  noAnyOf : doc.get? "anyOf" = none
  noOneOf : doc.get? "oneOf" = none
  noAllOf : doc.get? "allOf" = none
  title : doc.get? "title" = textField note.title
  description : doc.get? "description" = textField note.description
  type : doc.get? "type" = some type

section Nodes

variable {note : Annotation}

theorem Describes.combination {type : Value} (h : Describes doc note type) :
    combination? doc = none := by
  simp only [combination?, Combinator.keyword, List.findSome?_cons, List.findSome?_nil, h.noAnyOf,
    h.noOneOf, h.noAllOf, Option.map_none]

theorem Describes.noteOf_eq_ok {type : Value} (h : Describes doc note type) :
    Loading.noteOf doc place = .ok note :=
  Loading.noteOf_eq_ok h.title h.description

/-- Without a combinator, the annotation is read before the type is looked at. -/
theorem node_of_combination?_eq_none (h : combination? doc = none) :
    node R place (.object doc) = (do
      let note ← noteOf doc place
      match doc.get? "type" with
      | some (.string "array") =>
          match doc.get? "items" with
          | none => fail place .noItems
          | some items =>
              let unique ← boolean? doc place "uniqueItems"
              return .array note (← node R (under place "items") items) unique
      | some (.string "object") =>
          match doc.get? "additionalProperties" with
          | none => Loading.object R doc place note true
          | some (.bool additional) => Loading.object R doc place note additional
          | some values =>
              return Schema.map note (← node R (under place "additionalProperties") values)
      | _ => leaf R doc place note) := by
  rw [node]
  split
  · simp_all
  · simp_all
  · congr 1
    funext note
    split <;> first | rfl | (split <;> simp_all)

/-- A combinator makes everything else in a node irrelevant. -/
theorem node_of_combination?_eq_some {c : Combinator} {v : Value} :
    combination? doc = some (c, v) → node R place (.object doc) =
      match v with
      | .array items => do return .combined c (← branches R (under place c.keyword) 0 items)
      | _ => fail (under place c.keyword) .notBranches := by
  intro h
  rw [node]
  split
  · rename_i d items hItems
    rw [h] at hItems
    cases hItems
    rfl
  · rename_i d w hArray hOther
    rw [h] at hOther
    cases hOther
    cases v with
    | array items => exact absurd rfl (hArray items)
    | _ => rfl
  · rename_i hNone
    rw [h] at hNone
    cases hNone

theorem node_of_entries?_eq_none {v : Value} (h : v.entries? = none) :
    node R place v = fail place (.notSchema v.kind) := by
  cases v with
  | object doc => cases h
  | _ =>
      rw [node]
      simp

theorem object_eq {additional : Bool} :
    Loading.object R doc place note additional =
      match doc.get? "properties" with
      | none => do return .object note [] additional (← required doc place)
      | some (.object nodes) => do
          let declared ← properties R (under place "properties") nodes
          return .object note declared additional (← required doc place)
      | some _ => fail (under place "properties") .notProperties := by
  rw [Loading.object]
  split <;> simp_all

/-- The type decides which parts of a node are looked at. -/
theorem node_of_describes {type : Value} (h : Describes doc note type) :
    node R place (.object doc) =
      match type with
      | .string "array" =>
          match doc.get? "items" with
          | none => fail place .noItems
          | some items => do
              let unique ← boolean? doc place "uniqueItems"
              return .array note (← node R (under place "items") items) unique
      | .string "object" =>
          match doc.get? "additionalProperties" with
          | none => Loading.object R doc place note true
          | some (.bool additional) => Loading.object R doc place note additional
          | some values => do
              return Schema.map note (← node R (under place "additionalProperties") values)
      | _ => leaf R doc place note := by
  rw [node_of_combination?_eq_none h.combination, h.noteOf_eq_ok, h.type]
  simp only [bind, Except.bind]
  split
  · rename_i hArray
    cases hArray
    rfl
  · rename_i hObject
    cases hObject
    rfl
  · split <;> simp_all

theorem node_of_leaf {type : Value} (h : Describes doc note type)
    (hArray : type ≠ .string "array") (hObject : type ≠ .string "object") :
    node R place (.object doc) = leaf R doc place note := by
  rw [node_of_describes h]
  split
  · exact absurd rfl hArray
  · exact absurd rfl hObject
  · rfl

theorem node_of_array {items : Value} (h : Describes doc note (.string "array"))
    (hItems : doc.get? "items" = some items) :
    node R place (.object doc) = do
      let unique ← boolean? doc place "uniqueItems"
      return .array note (← node R (under place "items") items) unique := by
  rw [node_of_describes h]
  simp only [hItems]

theorem node_of_map {entries : Entries Value} (h : Describes doc note (.string "object"))
    (hValues : doc.get? "additionalProperties" = some (.object entries)) :
    node R place (.object doc) = do
      return Schema.map note (← node R (under place "additionalProperties") (.object entries)) := by
  rw [node_of_describes h]
  simp only [hValues]

theorem node_of_object {additional : Bool} (h : Describes doc note (.string "object"))
    (hAdditional : doc.get? "additionalProperties" = omitIf additional (.bool false)) :
    node R place (.object doc) = Loading.object R doc place note additional := by
  rw [node_of_describes h]
  cases additional <;> simp [hAdditional, omitIf]

theorem node_of_combination {c : Combinator} {items : List Value}
    (h : combination? doc = some (c, .array items)) :
    node R place (.object doc) = do
      return .combined c (← branches R (under place c.keyword) 0 items) :=
  node_of_combination?_eq_some h

end Nodes

section Outcomes

variable {α β : Type} {P : α → Prop} {Q : β → Prop} {xs ys : List Double}

/-- When all bounds are finite, there is a result with a property; otherwise loading stops
at a bound that is not a number. -/
def Yields (bounds : List Double) (P : α → Prop) (r : Result α) : Prop :=
  ((∀ x ∈ bounds, x.isFinite = true) → ∃ a, r = .ok a ∧ P a) ∧
    ((∃ x ∈ bounds, x.isFinite = false) → ∃ place, r = .error (.node place .notNumber))

theorem yields_ok {a : α} (h : P a) : Yields [] P (.ok a) :=
  ⟨fun _ => ⟨a, rfl, h⟩, by simp⟩

/-- The first bound that is not finite decides where loading stops. -/
theorem Yields.bind {r : Result α} {f : α → Result β} (hr : Yields xs P r)
    (hf : ∀ a, P a → Yields ys Q (f a)) :
    Yields (xs ++ ys) Q (r >>= f) := by
  constructor
  · intro hFinite
    rw [List.forall_mem_append] at hFinite
    obtain ⟨a, rfl, ha⟩ := hr.1 hFinite.1
    exact (hf a ha).1 hFinite.2
  · rintro ⟨x, hx, hInfinite⟩
    by_cases hFirst : ∃ y ∈ xs, y.isFinite = false
    · obtain ⟨place, rfl⟩ := hr.2 hFirst
      exact ⟨place, rfl⟩
    · have hFinite : ∀ y ∈ xs, y.isFinite = true := by simpa using hFirst
      obtain ⟨a, rfl, ha⟩ := hr.1 hFinite
      refine (hf a ha).2 ⟨x, ?_, hInfinite⟩
      rcases List.mem_append.mp hx with hx | hx
      · exact absurd ⟨x, hx, hInfinite⟩ hFirst
      · exact hx

theorem Yields.map {r : Result α} {f : α → β} (hr : Yields xs P r) (hf : ∀ a, P a → Q (f a)) :
    Yields xs Q (r >>= fun a => .ok (f a)) := by
  rw [← List.append_nil xs]
  exact hr.bind fun a ha => yields_ok (hf a ha)

/-- A bound that is not finite was written as null. -/
theorem yields_numberBound {name : String} {x default : Double} (hDefault : default.isFinite = true)
    (h : doc.get? name = omitIf (x.numEq default) (.ofDouble x)) :
    Yields [x] (fun y => y.numEq x = true) (numberBound doc place name default) := by
  rw [numberBound, h]
  cases x with
  | nan =>
      refine ⟨by simp [Double.isFinite], fun _ => ⟨under place name, ?_⟩⟩
      cases default <;> rfl
  | infinite n =>
      refine ⟨by simp [Double.isFinite], fun _ => ⟨under place name, ?_⟩⟩
      cases default with
      | infinite m => cases hDefault
      | _ => rfl
  | finite x =>
      refine ⟨fun _ => ?_, by simp [Double.isFinite]⟩
      by_cases hOmitted : (Double.finite x).numEq default = true
      · simp only [hOmitted, omitIf, if_true]
        exact ⟨default, rfl, by rw [Double.numEq_comm, hOmitted]⟩
      · simp only [hOmitted, omitIf, Bool.false_eq_true, if_false]
        exact ⟨.finite x, rfl, FiniteDouble.sameValue_iff.mpr rfl⟩

end Outcomes

section Leaves

variable {note : Annotation}

theorem node_of_integer (h : Describes doc note (.string "integer")) :
    node R place (.object doc) = Loading.integer R doc place note := by
  rw [node_of_leaf h (by simp) (by simp), leaf, h.type]
  rfl

theorem node_of_number (h : Describes doc note (.string "number")) :
    node R place (.object doc) = Loading.number R doc place note := by
  rw [node_of_leaf h (by simp) (by simp), leaf, h.type]
  rfl

theorem node_of_boolean (h : Describes doc note (.string "boolean")) :
    node R place (.object doc) = .ok (.boolean note) := by
  rw [node_of_leaf h (by simp) (by simp), leaf, h.type]
  rfl

theorem node_of_string (h : Describes doc note (.string "string")) :
    node R place (.object doc) = Loading.string R doc place note := by
  rw [node_of_leaf h (by simp) (by simp), leaf, h.type]
  rfl

theorem node_of_duration (h : Describes doc note (.ofStrings ["integer", "string"])) :
    node R place (.object doc) = .ok (.duration note) := by
  rw [node_of_leaf h (by simp [Value.ofStrings]) (by simp [Value.ofStrings]), leaf, h.type]
  rfl

theorem integer_eq_ok {minimum maximum : Int64}
    (hMinimum : doc.get? "minimum" = omitIf (minimum == .minValue) (.ofInt64 minimum))
    (hMaximum : doc.get? "maximum" = omitIf (maximum == .maxValue) (.ofInt64 maximum)) :
    Loading.integer R doc place note = .ok (.integer note minimum maximum) := by
  rw [Loading.integer, integerBound_eq_ok hMinimum, integerBound_eq_ok hMaximum]
  rfl

theorem yields_number {minimum maximum : Double}
    (hMinimum : doc.get? "minimum" = omitIf (minimum.numEq .minFinite) (.ofDouble minimum))
    (hMaximum : doc.get? "maximum" = omitIf (maximum.numEq .maxFinite) (.ofDouble maximum)) :
    Yields [minimum, maximum] (fun t => t.equal (.number note minimum maximum) = true)
      (Loading.number R doc place note) := by
  refine (yields_numberBound Double.isFinite_minFinite hMinimum).bind fun low hLow => ?_
  refine (yields_numberBound Double.isFinite_maxFinite hMaximum).map fun high hHigh => ?_
  simp [equal, hLow, hHigh]

theorem string_of_uri (h : doc.get? "format" = some (.string "uri")) :
    Loading.string R doc place note = .ok (.uri note) := by
  rw [Loading.string, text?_of_string h]
  rfl

theorem string_of_dateTime (h : doc.get? "format" = some (.string "date-time")) :
    Loading.string R doc place note = .ok (.dateTime note) := by
  rw [Loading.string, text?_of_string h]
  rfl

theorem string_of_options {options : List String} (hFormat : doc.get? "format" = none)
    (hOptions : doc.get? "enum" = some (.ofStrings options)) (nonempty : options ≠ []) :
    Loading.string R doc place note = .ok (.enumeration note options nonempty) := by
  rw [Loading.string, text?_of_none hFormat]
  simp only [bind, Except.bind, hOptions, enumeration, strings?_ofStrings, enumeration?,
    dif_pos nonempty]

theorem string_of_bare {minLength maxLength : UInt64} {p : Option (Pattern R)}
    (hFormat : doc.get? "format" = none) (hOptions : doc.get? "enum" = none)
    (hPattern : doc.get? "pattern" = p.map fun p => .string p.source)
    (hMin : doc.get? "minLength" = lengthField minLength)
    (hMax : doc.get? "maxLength" = lengthField maxLength) :
    Loading.string R doc place note = .ok (.string note minLength maxLength p) := by
  have hBare : bareString R doc place note = .ok (.string note minLength maxLength p) := by
    rw [bareString, lengthBound_eq_ok hMin, lengthBound_eq_ok hMax]
    cases p with
    | none =>
        rw [text?_of_none hPattern]
        rfl
    | some p =>
        rw [text?_of_string hPattern]
        simp only [bind, Except.bind, Option.mapM_some, pattern, Pattern.compile?_source]
        rfl
  rw [Loading.string, text?_of_none hFormat]
  simp only [bind, Except.bind, hOptions, hBare]

theorem equal_self_of_isLeaf {s : Schema R} (hLeaf : s.IsLeaf) (hBounds : s.numberBounds = []) :
    s.equal s = true := by
  cases s with
  | number note minimum maximum => cases hBounds
  | array | map | object | combined => exact hLeaf.elim
  | _ => simp [equal, equalPatterns]

/-- The descriptor of a leaf without bounds is read as the leaf. -/
theorem node_descriptor_of_isLeaf {s : Schema R} (hLeaf : s.IsLeaf)
    (hBounds : s.numberBounds = []) :
    node R place s.descriptor = .ok s := by
  cases s with
  | integer note minimum maximum =>
      rw [descriptor, document, @node_of_integer _ _ place note (by constructor <;> simp)]
      exact integer_eq_ok (by simp [leastInteger]) (by simp [greatestInteger])
  | number note minimum maximum => cases hBounds
  | boolean note =>
      rw [descriptor, document, @node_of_boolean _ _ place note (by constructor <;> simp)]
  | string note minLength maxLength p =>
      rw [descriptor, document, @node_of_string _ _ place note (by constructor <;> simp)]
      exact string_of_bare (by simp) (by simp) (by simp) (by simp) (by simp)
  | enumeration note options nonempty =>
      rw [descriptor, document, @node_of_string _ _ place note (by constructor <;> simp)]
      exact string_of_options (by simp) (by simp) nonempty
  | uri note =>
      rw [descriptor, document, @node_of_string _ _ place note (by constructor <;> simp)]
      exact string_of_uri (by simp)
  | dateTime note =>
      rw [descriptor, document, @node_of_string _ _ place note (by constructor <;> simp)]
      exact string_of_dateTime (by simp)
  | duration note =>
      rw [descriptor, document, @node_of_duration _ _ place note (by constructor <;> simp)]
  | array | map | object | combined => exact hLeaf.elim

theorem yields_of_isLeaf {s : Schema R} (hLeaf : s.IsLeaf) :
    Yields s.numberBounds (fun t => t.equal s = true) (node R place s.descriptor) := by
  cases hBounds : s.numberBounds with
  | nil =>
      rw [node_descriptor_of_isLeaf hLeaf hBounds]
      exact yields_ok (equal_self_of_isLeaf hLeaf hBounds)
  | cons x bounds =>
      cases s with
      | number note minimum maximum =>
          obtain ⟨rfl, rfl⟩ := List.cons.inj hBounds
          rw [descriptor, document, @node_of_number _ _ place note (by constructor <;> simp)]
          exact yields_number (by simp) (by simp)
      | array | map | object | combined => exact hLeaf.elim
      | _ => cases hBounds

end Leaves

section Parts

/-- The descriptor of a part is read as a schema that equals the part. -/
def Reloads (s : Schema R) : Prop :=
  ∀ place, Yields s.numberBounds (fun t => t.equal s = true) (node R place s.descriptor)

theorem yields_properties {declared : List (String × Schema R)}
    (h : ∀ property ∈ declared, Reloads property.2) :
    Yields (propertyBounds declared) (fun loaded => equalProperties loaded declared = true)
      (properties R place (propertyDescriptors declared)) := by
  induction declared with
  | nil =>
      rw [propertyDescriptors, properties]
      exact yields_ok rfl
  | cons property declared ih =>
      obtain ⟨name, s⟩ := property
      rw [List.forall_mem_cons] at h
      rw [propertyDescriptors, properties]
      refine (h.1 _).bind fun t ht => (ih h.2).map fun loaded hLoaded => ?_
      simp [equalProperties, ht, hLoaded]

theorem yields_branches {ss : List (Schema R)} (h : ∀ s ∈ ss, Reloads s) :
    ∀ i, Yields (branchBounds ss) (fun loaded => equalBranches loaded ss = true)
      (branches R place i (branchDescriptors ss)) := by
  induction ss with
  | nil =>
      intro i
      rw [branchDescriptors, branches]
      exact yields_ok rfl
  | cons s ss ih =>
      intro i
      rw [List.forall_mem_cons] at h
      rw [branchDescriptors, branches]
      refine (h.1 _).bind fun t ht => (ih h.2 _).map fun loaded hLoaded => ?_
      simp [equalBranches, ht, hLoaded]

theorem yields_object {note : Annotation} {declared : List (String × Schema R)} {additional : Bool}
    {names : List String} (h : ∀ property ∈ declared, Reloads property.2)
    (hProperties : doc.get? "properties" =
      omitIf declared.isEmpty (.object (propertyDescriptors declared)))
    (hRequired : doc.get? "required" = omitIf names.isEmpty (.ofStrings names)) :
    Yields (propertyBounds declared)
      (fun t => t.equal (.object note declared additional names) = true)
      (Loading.object R doc place note additional) := by
  rw [Loading.object]
  cases declared with
  | nil =>
      split
      · rw [required_eq_ok hRequired]
        refine yields_ok ?_
        simp [equal, equalProperties]
      · simp_all [omitIf]
      · simp_all [omitIf]
  | cons property declared =>
      split
      · simp_all [omitIf]
      · rename_i nodes hNodes
        obtain rfl : propertyDescriptors (property :: declared) = nodes := by
          rw [hProperties] at hNodes
          simpa [omitIf] using hNodes
        rw [required_eq_ok hRequired]
        refine (yields_properties h).map fun loaded hLoaded => ?_
        simp [equal, hLoaded]
      · simp_all [omitIf]

end Parts

theorem reloads (s : Schema R) : Reloads s := by
  induction s using inductionOnParts with
  | leaf s hLeaf => exact fun place => yields_of_isLeaf hLeaf
  | array note items unique ih =>
      intro place
      rw [descriptor, document, @node_of_array _ _ place note items.descriptor
        (by constructor <;> simp) (by simp), @boolean?_eq_ok _ _ _ unique (by simp)]
      refine (ih _).map fun t ht => ?_
      simp [equal, ht]
  | map note values ih =>
      intro place
      -- An object in the place of the flag of other names makes the node a map.
      obtain ⟨entries, hEntries⟩ := exists_descriptor_eq_object values
      rw [descriptor, document, hEntries, @node_of_map _ _ place note entries
        (by constructor <;> simp) (by simp), ← hEntries]
      refine (ih _).map fun t ht => ?_
      simp [equal, ht]
  | object note declared additional names ih =>
      intro place
      rw [descriptor, document, @node_of_object _ _ place note additional
        (by constructor <;> simp) (by simp)]
      exact yields_object ih (by simp) (by simp)
  | combined c ss ih =>
      intro place
      rw [descriptor, document, node_of_combination (combination?_of_single c _)]
      refine (yields_branches ih 0).map fun t ht => ?_
      simp [equal, ht]

end Loading

/-- The descriptor of a schema with finite bounds is loaded back as an equal schema; that of
any other schema is refused, for a bound that is not a number. -/
theorem ofDescriptor_descriptor (s : Schema R) :
    (s.FiniteBounds → ∃ t, ofDescriptor R s.descriptor = .ok t ∧ t.equal s = true) ∧
      (¬ s.FiniteBounds →
        ∃ place, ofDescriptor R s.descriptor = .error (.node place .notNumber)) := by
  obtain ⟨hLoaded, hRefused⟩ := Loading.reloads s []
  refine ⟨hLoaded, fun hInfinite => hRefused ?_⟩
  simpa [FiniteBounds] using hInfinite

/-- A gauge with finite bounds is loaded back, one with a bound that is no number is not. -/
theorem ofDescriptor_gauge :
    (∃ t, ofDescriptor .standard (gauge (.finite (.zero true)) .maxFinite).descriptor = .ok t ∧
        t.equal (gauge (.finite (.zero true)) .maxFinite) = true) ∧
      ∃ place, ofDescriptor .standard (gauge (.finite (.zero true)) .nan).descriptor =
        .error (.node place .notNumber) := by
  constructor
  · exact (ofDescriptor_descriptor _).1 (by decide +kernel)
  · exact (ofDescriptor_descriptor _).2 (by decide +kernel)

end Schema
end DataContract
