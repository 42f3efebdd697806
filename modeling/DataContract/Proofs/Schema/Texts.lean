import DataContract.Proofs.Fallible
import DataContract.Proofs.Pattern.Occurrence
import DataContract.Proofs.Schema.Vocabulary
/-!
# Texts under written constraints

A document of texts may write down a least and a greatest length and a pattern.  Its schema
keeps a length as a machine number, and has no other word for a length that is not there
than zero.  As the least length this is all the same; as the greatest it turns a bound that
is written as zero into none.

**Results.**
* `lengthBound_eq_ok_iff`: the number for a length, written or not.
* `validate_text_iff_of_ofDescriptor`: the texts that the schema of a document accepts.
-/

namespace DataContract

variable {R : Readers}

namespace Schema

/-- The literal of a length with a property. -/
def IsLength (P : Nat → Prop) (v : Value) : Prop := ∃ n : UInt64, v = .ofUInt64 n ∧ P n.toNat

/-- The text of a pattern that has a match in a text. -/
def IsPatternIn (R : Readers) (t : String) (v : Value) : Prop :=
  ∃ source, ∃ p : Pattern R, v = .string source ∧ Pattern.compile? source = some p ∧ p.OccursIn t

@[simp] theorem isLength_ofUInt64 {P : Nat → Prop} {n : UInt64} :
    IsLength P (.ofUInt64 n) ↔ P n.toNat := by
  constructor
  · rintro ⟨k, hEq, hP⟩
    have hSame := congrArg Value.natural? hEq
    rw [Loading.natural?_ofUInt64, Loading.natural?_ofUInt64, Option.some.injEq] at hSame
    exact hSame ▸ hP
  · exact fun hP => ⟨n, rfl, hP⟩

@[simp] theorem isPatternIn_string {t source : String} :
    IsPatternIn R t (.string source) ↔
      ∃ p : Pattern R, Pattern.compile? source = some p ∧ p.OccursIn t := by
  simp [IsPatternIn]

namespace Loading

section Fields

variable {doc : Entries Value} {place : Pointer} {name : String}

/-- A length is the literal that is there, or zero. -/
theorem lengthBound_eq_ok_iff {n : UInt64} :
    lengthBound doc place name = .ok n ↔
      (doc.get? name = none ∧ n = 0) ∨ ∃ v, doc.get? name = some v ∧ v.natural? = some n := by
  unfold lengthBound
  cases hGet : doc.get? name with
  | none => simp [eq_comm]
  | some v => cases hNatural : v.natural? <;> simp [hNatural, fail]

/-- What is read as a length is the literal of that number. -/
theorem natural?_eq_some_iff {v : Value} {n : UInt64} :
    v.natural? = some n ↔ v = .ofUInt64 n := by
  constructor
  · intro h
    cases v with
    | number m =>
        cases m with
        | whole k inRange =>
            by_cases hSign : 0 ≤ k
            · simp only [Value.natural?, if_pos hSign, Option.some.injEq] at h
              have hSize : k.toNat < UInt64.size := by
                rw [UInt64.size]
                omega
              have hValue : k = n.toNat := by
                rw [← h, UInt64.toNat_ofNat_of_lt' hSize, Int.toNat_of_nonneg hSign]
              subst hValue
              rfl
            · simp [Value.natural?, hSign] at h
        | real x => cases h
    | _ => cases h
  · rintro rfl
    exact natural?_ofUInt64 n

/-- What the written length satisfies is what the number for it does unless it is zero: a
length of zero cannot be told from none. -/
theorem wherePresent_isLength_iff {n : UInt64} (h : lengthBound doc place name = .ok n)
    (P : Nat → Prop) :
    WherePresent doc name (IsLength fun k => k ≠ 0 → P k) ↔ (n ≠ 0 → P n.toNat) := by
  have hZero : n ≠ 0 ↔ n.toNat ≠ 0 := not_congr UInt64.toNat_inj.symm
  rcases lengthBound_eq_ok_iff.mp h with ⟨hNone, rfl⟩ | ⟨v, hGet, hNatural⟩
  · simp [WherePresent, hNone]
  · obtain rfl := natural?_eq_some_iff.mp hNatural
    rw [wherePresent_iff_of_some hGet, isLength_ofUInt64, hZero]

/-- The pattern of a document is the one that its text stands for. -/
theorem wherePresent_isPatternIn_iff (hR : R.Lawful) {p : Option (Pattern R)} {t : String}
    (h : (text? doc place "pattern" >>= fun source => source.mapM (pattern R)) = .ok p) :
    WherePresent doc "pattern" (IsPatternIn R t) ↔ ∀ q, p = some q → q.isMatch t = true := by
  cases hGet : doc.get? "pattern" with
  | none =>
      rw [text?_of_none hGet] at h
      obtain rfl : none = p := Except.ok.inj h
      simp [WherePresent, hGet]
  | some v =>
      rw [wherePresent_iff_of_some hGet]
      cases v with
      | string source =>
          rw [text?_of_string hGet] at h
          cases hCompile : Pattern.compile? (R := R) source with
          | none => simp [pattern, hCompile, bind, Except.bind] at h
          | some q =>
              have hPattern : some q = p := by
                simpa [pattern, hCompile, bind, Except.bind] using h
              subst hPattern
              simp [hCompile, hR.isMatch_iff]
      | _ => simp [text?, hGet, fail, bind, Except.bind] at h

/-- The lengths and the pattern of a text become those of its schema. -/
theorem bareString_eq_ok_iff {note : Annotation} {s : Schema R} :
    bareString R doc place note = .ok s ↔
      ∃ p low high,
        (text? doc place "pattern" >>= fun source => source.mapM (pattern R)) = .ok p ∧
          lengthBound doc place "minLength" = .ok low ∧
          lengthBound doc place "maxLength" = .ok high ∧ s = .string note low high p := by
  unfold bareString
  rw [← bind_assoc]
  simp only [bind_eq_ok_iff, pure, Except.pure, Except.ok.injEq]
  constructor
  · rintro ⟨p, hp, low, hLow, high, hHigh, rfl⟩
    exact ⟨p, low, high, hp, hLow, hHigh, rfl⟩
  · rintro ⟨p, low, high, hp, hLow, hHigh, rfl⟩
    exact ⟨p, hp, low, hLow, high, hHigh, rfl⟩

end Fields

section Documents

variable {doc : Entries Value} {s : Schema R}

/-- A document of texts with neither a format nor options is read for its constraints. -/
theorem exists_bareString_eq_ok (hCombinator : ∀ c : Combinator, doc.get? c.keyword = none)
    (hType : doc.get? "type" = some (.string "string")) (hFormat : doc.get? "format" = none)
    (hEnum : doc.get? "enum" = none) (h : ofDescriptor R (.object doc) = .ok s) :
    ∃ note, bareString R doc [] note = .ok s := by
  rw [ofDescriptor, node_of_combination?_eq_none (combination?_eq_none_iff.mpr hCombinator),
    bind_eq_ok_iff] at h
  obtain ⟨note, _, h⟩ := h
  refine ⟨note, ?_⟩
  simpa [hType, leaf, Loading.string, text?_of_none hFormat, hEnum, bind, Except.bind] using h

end Documents

end Loading

/-- The schema of a document of texts accepts the texts within the lengths that are written
down, of which zero is no greatest length, that have a match of the pattern. -/
theorem validate_text_iff_of_ofDescriptor (hR : R.Lawful) {doc : Entries Value} {s : Schema R}
    (hCombinator : ∀ c : Combinator, doc.get? c.keyword = none)
    (hType : doc.get? "type" = some (.string "string")) (hFormat : doc.get? "format" = none)
    (hEnum : doc.get? "enum" = none) (h : ofDescriptor R (.object doc) = .ok s) (t : String) :
    s.validate (.string t) = .ok () ↔
      WherePresent doc "minLength" (IsLength fun n => n ≤ t.length) ∧
        WherePresent doc "maxLength" (IsLength fun n => n ≠ 0 → t.length ≤ n) ∧
        WherePresent doc "pattern" (IsPatternIn R t) := by
  obtain ⟨note, hBare⟩ := Loading.exists_bareString_eq_ok hCombinator hType hFormat hEnum h
  obtain ⟨p, low, high, hPattern, hLow, hHigh, rfl⟩ := Loading.bareString_eq_ok_iff.mp hBare
  -- No text is shorter than zero, so that a least length of zero may be taken at its word.
  have hLeast : (fun n : Nat => n ≤ t.length) = fun n => n ≠ 0 → n ≤ t.length := by
    funext n
    refine propext ⟨fun h _ => h, fun h => ?_⟩
    by_cases hZero : n = 0
    · omega
    · exact h hZero
  rw [hLeast, Loading.wherePresent_isLength_iff hLow, Loading.wherePresent_isLength_iff hHigh,
    Loading.wherePresent_isPatternIn_iff hR hPattern, validate_eq_ok_iff, ← textReport_eq_nil_iff]
  rfl

/-- The document of words of two to four characters, the first of them an `a`. -/
def shortWord : Entries Value :=
  [("maxLength", .ofUInt64 4), ("minLength", .ofUInt64 2), ("pattern", .string "^a"),
    ("type", .string "string")]

/-- Both lengths and the pattern of short words reach their schema. -/
theorem validate_shortWord_iff :
    ∃ s, ofDescriptor .standard (.object shortWord) = .ok s ∧
      ∀ t, s.validate (.string t) = .ok () ↔
        2 ≤ t.length ∧ t.length ≤ 4 ∧ t.toList.head? = some 'a' := by
  obtain ⟨p, hPattern, hExpr⟩ : ∃ p : Pattern .standard, Pattern.compile? "^a" = some p ∧
      p.expr = .concat (.look .textStart) (.single 'a') := ⟨_, rfl, rfl⟩
  have hSchema : ofDescriptor .standard (.object shortWord) =
      .ok (.string {} 2 4 (Pattern.compile? "^a")) := by
    rw [ofDescriptor, Loading.node_of_combination?_eq_none rfl]
    rfl
  have hMinLength : shortWord.get? "minLength" = some (.ofUInt64 2) := rfl
  have hMaxLength : shortWord.get? "maxLength" = some (.ofUInt64 4) := rfl
  have hSource : shortWord.get? "pattern" = some (.string "^a") := rfl
  refine ⟨_, hSchema, fun t => ?_⟩
  rw [validate_text_iff_of_ofDescriptor Readers.standard_lawful (by rintro ⟨⟩ <;> rfl) rfl rfl rfl
      hSchema,
    Loading.wherePresent_iff_of_some hMinLength, Loading.wherePresent_iff_of_some hMaxLength,
    Loading.wherePresent_iff_of_some hSource]
  simp [hPattern, Pattern.OccursIn, hExpr, Pattern.Expr.occursIn_iff_head?_eq]

/-- The document of texts that are to have no character at all. -/
def emptyWord : Entries Value := [("maxLength", .ofUInt64 0), ("type", .string "string")]

/-- A document of texts with a least length beside a combinator. -/
def overruledLength : Entries Value :=
  [("anyOf", .array [.object [("type", .string "string")]]), ("minLength", .ofUInt64 5),
    ("type", .string "string")]

/-- Neither a greatest length of zero nor a length beside a combinator is heeded. -/
theorem validate_text_of_unheeded_length :
    (∃ s, ofDescriptor .standard (.object emptyWord) = .ok s ∧ s.validate (.string "a") = .ok () ∧
        ¬ WherePresent emptyWord "maxLength" (IsLength fun n => "a".length ≤ n)) ∧
      ∃ s, ofDescriptor .standard (.object overruledLength) = .ok s ∧
        s.validate (.string "a") = .ok () ∧
        ¬ WherePresent overruledLength "minLength" (IsLength fun n => n ≤ "a".length) := by
  have hMaxLength : emptyWord.get? "maxLength" = some (.ofUInt64 0) := rfl
  have hMinLength : overruledLength.get? "minLength" = some (.ofUInt64 5) := rfl
  refine ⟨⟨.string {} 0 0 none, ?_, rfl, ?_⟩,
    ⟨.combined .anyOf [.string {} 0 0 none], ?_, rfl, ?_⟩⟩
  · rw [ofDescriptor, Loading.node_of_combination?_eq_none rfl]
    rfl
  · rw [Loading.wherePresent_iff_of_some hMaxLength, isLength_ofUInt64]
    decide
  · rw [ofDescriptor, Loading.node_of_combination?_eq_some rfl]
    simp only [Loading.branches]
    rw [Loading.node_of_combination?_eq_none rfl]
    rfl
  · rw [Loading.wherePresent_iff_of_some hMinLength, isLength_ofUInt64]
    decide

end Schema
end DataContract
